import SecondFactor.Proofs.Settings.Sources
import SecondFactor.Settings
import SecondFactor.Text

/-!
# Settings from a host

A host's map is read by its names alone: a name that is not known, or has nothing under it, does not
count, and the field is left to the environment. What it does give wins over the environment. For a
field that is no truth value, it comes to the same whether a text is under the host's name or in the
variable of the field.
-/
namespace SecondFactor.Settings

variable {config : List (String × Option String)} {env : Environment} {key text : String}
  {f : Field}

/-! ## What a host gives -/

/-- The text that a host has under a name, if it is not empty. -/
def hostText (config : List (String × Option String)) (key : String) : Option String :=
  Text.given? (config.lookup key).join

/-- The host has nothing for a field. -/
def Absent (config : List (String × Option String)) (f : Field) : Prop :=
  ∀ key, (key, f) ∈ hostFields → hostText config key = none

theorem hostGiven_eq (config : List (String × Option String)) :
    hostGiven config = hostFields.filterMap fun x =>
      (hostText config x.1).map fun text => (x.2.name, hostValue x.2 text) := by
  unfold hostGiven
  congr 1
  funext x
  simp only [hostText]
  cases (config.lookup x.1).join with
  | none => rfl
  | some text => by_cases h : text.isEmpty <;> simp [Text.given?, h]

theorem mem_hostGiven {name : String} {j : Json} (h : (name, j) ∈ hostGiven config) :
    ∃ key f text, (key, f) ∈ hostFields ∧ hostText config key = some text ∧
      f.name = name ∧ hostValue f text = j := by
  rw [hostGiven_eq] at h
  obtain ⟨⟨key, f⟩, mem, h⟩ := List.mem_filterMap.1 h
  obtain ⟨text, htext, heq⟩ := Option.map_eq_some_iff.1 h
  obtain ⟨hname, hvalue⟩ := Prod.mk.inj heq
  exact ⟨key, f, text, mem, htext, hname, hvalue⟩

/-- A field has one name at most that hosts use for it. -/
theorem eq_of_mem_hostFields {key' : String} (h : (key, f) ∈ hostFields)
    (h' : (key', f) ∈ hostFields) : key = key' := by
  have hdistinct : (hostFields.map Prod.snd).Nodup := by decide
  exact congrArg Prod.fst (List.inj_on_of_nodup_map hdistinct h h' rfl)

/-- A name that hosts use is for one field. -/
theorem field_of_mem_hostFields {f' : Field} (h : (key, f) ∈ hostFields)
    (h' : (key, f') ∈ hostFields) : f = f' := by
  have hdistinct : (hostFields.map Prod.fst).Nodup := by decide
  exact congrArg Prod.snd (List.inj_on_of_nodup_map hdistinct h h' rfl)

theorem lookup_hostGiven (mem : (key, f) ∈ hostFields) (h : hostText config key = some text) :
    (hostGiven config).lookup f.name = some (hostValue f text) := by
  cases hlookup : (hostGiven config).lookup f.name with
  | none =>
    have hgiven : (f.name, hostValue f text) ∈ hostGiven config := by
      rw [hostGiven_eq]
      exact List.mem_filterMap.2 ⟨(key, f), mem, by rw [h]; rfl⟩
    have hne := List.lookup_eq_none_iff.1 hlookup _ hgiven
    simp at hne
  | some j =>
    obtain ⟨before, after, hsplit, -⟩ := List.lookup_eq_some_iff.1 hlookup
    have hj : (f.name, j) ∈ hostGiven config := by
      rw [hsplit]
      exact List.mem_append_right before List.mem_cons_self
    obtain ⟨key', f', text', mem', htext, hname, rfl⟩ := mem_hostGiven hj
    obtain rfl := Field.eq_of_name_eq hname
    obtain rfl := eq_of_mem_hostFields mem mem'
    rw [h] at htext
    cases htext
    rfl

theorem lookup_hostGiven_absent (h : Absent config f) :
    (hostGiven config).lookup f.name = none := by
  refine List.lookup_eq_none_iff.2 fun x hx => ?_
  obtain ⟨key, f', text, mem, htext, hname, -⟩ := mem_hostGiven hx
  rw [bne_iff_ne]
  intro heq
  obtain rfl := Field.eq_of_name_eq (heq.trans hname.symm)
  rw [h key mem] at htext
  cases htext

/-- A host gives values for fields only. -/
theorem plain_hostGiven (config : List (String × Option String)) : Plain (hostGiven config) := by
  have hfields : ∀ name ∈ steeringNames, ∀ f ∈ Field.all, name ≠ f.name := by decide
  intro name hname
  refine List.lookup_eq_none_iff.2 fun x hx => ?_
  obtain ⟨key, f, text, -, -, heq, -⟩ := mem_hostGiven hx
  rw [bne_iff_ne, ← heq]
  exact hfields name hname f f.mem_all

theorem hostText_filter (keep : String → Bool) (config : List (String × Option String))
    (key : String) :
    hostText (config.filter fun e => keep e.1) key =
      if keep key then hostText config key else none := by
  rw [hostText, Entries.lookup_filter]
  cases keep key <;> rfl

/-- Names that hosts do not use and names with nothing under them do not count. -/
theorem hostGiven_filter {keep : String → Bool}
    (h : ∀ key f text, (key, f) ∈ hostFields → hostText config key = some text → keep key = true) :
    hostGiven (config.filter fun e => keep e.1) = hostGiven config := by
  rw [hostGiven_eq, hostGiven_eq]
  refine List.filterMap_congr fun x hx => ?_
  rw [hostText_filter]
  cases htext : hostText config x.1 with
  | none => rw [ite_self]
  | some text => rw [if_pos (h x.1 x.2 text hx htext)]

/-! ## What becomes of it -/

/-- The content that plain settings take for a field: from a variable of the environment or of its
file, or else the default. -/
def Takes (env : Environment) (f : Field) (content : f.Content) : Prop :=
  ∃ raw value, Wins [] env f raw ∧ ReadAs env.depth f raw value ∧ check f value = .valid content

/-- The truth value in a field, if it holds one. -/
def truth? (s : Settings) : Field → Option Bool
  | .verifySsl => some s.verifySsl
  | .triggerChallenge => some s.triggerChallenge
  | .enrollToken => some s.enrollToken
  | .doLog => some s.doLog
  | _ => none

theorem plainValue_absent (h : Absent config f) (env : Environment) :
    plainValue (hostGiven config) env f = plainValue [] env f := by
  rw [plainValue, lookup_hostGiven_absent h]
  rfl

theorem plainValue_given (mem : (key, f) ∈ hostFields) (h : hostText config key = some text)
    (env : Environment) : plainValue (hostGiven config) env f = some (hostValue f text) := by
  rw [plainValue, lookup_hostGiven mem h]
  rfl

/-- Settings that are built hold what was checked of the values of their fields. -/
theorem contents_of_loaded {given : List (String × Json)} (h : Plain given)
    {origin : SettingsOrigin}
    {s : Settings} (hs : loaded origin (load given env) = .ok s) :
    ∃ value : Field → Option Json, (∀ f, ReadAs env.depth f (plainValue given env f) (value f)) ∧
      ∀ f, check f (value f) = .valid (s.content f) := by
  rcases load_plain_cases h env with ⟨value, hread, hload⟩ | ⟨inner, hload⟩
  · rw [hload] at hs
    exact ⟨value, hread, build_eq_valid_iff.1 (Checked.orFault_eq_ok_iff.1 hs)⟩
  · rw [hload] at hs
    cases hs

/-- The issues of settings that fail are those of the values of their fields. -/
theorem issues_of_loaded {given : List (String × Json)} (h : Plain given) {origin : SettingsOrigin}
    {issues : List Issue}
    (hissues : loaded origin (load given env) = .error (.invalidSettings origin issues)) :
    ∃ value : Field → Option Json, (∀ f, ReadAs env.depth f (plainValue given env f) (value f)) ∧
      (build value).issues = issues := by
  rcases load_plain_cases h env with ⟨value, hread, hload⟩ | ⟨inner, hload⟩
  · rw [hload] at hissues
    exact ⟨value, hread, Checked.issues_of_orFault hissues⟩
  · rw [hload] at hissues
    cases hissues

theorem takes_of_absent (h : Absent config f) {s : Settings} (hs : ofHost config env = .ok s) :
    Takes env f (s.content f) := by
  obtain ⟨value, hread, hcheck⟩ := contents_of_loaded (plain_hostGiven config) hs
  refine ⟨_, _, ?_, plainValue_absent h env ▸ hread f, hcheck f⟩
  exact wins_of_rawValues (rawValues_plain plain_nil env) f

theorem content_of_absent (h : Absent config f) {s s' : Settings}
    (hs : ofHost config env = .ok s) (hs' : ofValues [] env = .ok s') :
    s.content f = s'.content f := by
  obtain ⟨value, hread, hcheck⟩ := contents_of_loaded (plain_hostGiven config) hs
  obtain ⟨value', hread', hcheck'⟩ := contents_of_loaded plain_nil hs'
  have hvalue : value f = value' f := (plainValue_absent h env ▸ hread f).unique (hread' f)
  have hvalid := hcheck f
  rw [hvalue, hcheck' f] at hvalid
  exact (Checked.valid.inj hvalid).symm

/-- A truth value is its own content. -/
theorem check_bool (h : isHostBool f = true) (b : Bool) :
    ∃ c, check f (some (.bool b)) = .valid c ∧
      ∀ s : Settings, s.content f = c → s.truth? f = some b := by
  cases f <;> first | exact ⟨b, rfl, fun s hs => congrArg some hs⟩ | cases h

/-- The word of a host for a field with a truth value. -/
theorem value_of_hostBool (mem : (key, f) ∈ hostFields) (isBool : isHostBool f = true)
    (h : hostText config key = some text) {value : Option Json}
    (hread : ReadAs env.depth f (plainValue (hostGiven config) env f) value) :
    value = some (.bool (Text.lower (Text.trim text) = "true")) := by
  rw [plainValue_given mem h, hostValue, if_pos isBool] at hread
  cases hread with
  | same _ => rfl

/-- A truth value from a host is what its word says, whatever the environment has. -/
theorem truth_of_host (mem : (key, f) ∈ hostFields) (isBool : isHostBool f = true)
    (h : hostText config key = some text) {s : Settings} (hs : ofHost config env = .ok s) :
    s.truth? f = some (Text.lower (Text.trim text) = "true" : Bool) := by
  obtain ⟨value, hread, hcheck⟩ := contents_of_loaded (plain_hostGiven config) hs
  have hvalid := hcheck f
  rw [value_of_hostBool mem isBool h (hread f)] at hvalid
  obtain ⟨c, hc, htruth⟩ := check_bool isBool (Text.lower (Text.trim text) = "true" : Bool)
  rw [hc] at hvalid
  exact htruth s (Checked.valid.inj hvalid).symm

/-- Nothing is ever wrong with a truth value from a host. -/
theorem no_issue_of_hostBool (mem : (key, f) ∈ hostFields) (isBool : isHostBool f = true)
    (h : hostText config key = some text) {issues : List Issue}
    (hissues : ofHost config env = .error (.invalidSettings .host issues)) :
    ∀ i ∈ issues, i.field ≠ f := by
  rintro i hi rfl
  obtain ⟨value, hread, rfl⟩ := issues_of_loaded (plain_hostGiven config) hissues
  rw [mem_issues_build_iff, value_of_hostBool mem isBool h (hread i.field)] at hi
  obtain ⟨c, hc, -⟩ := check_bool isBool (Text.lower (Text.trim text) = "true" : Bool)
  rw [hc] at hi
  cases hi

/-- A text from a host alone and the same text in the variable of the field load alike. -/
theorem loadHost_alone (mem : (key, f) ∈ hostFields) (isText : isHostBool f = false)
    (given : text ≠ "") (vars : List (String × String)) (depth : Nat) :
    loadHost [(key, some text)] ⟨vars, none, depth⟩ =
      load [] ⟨vars ++ [(f.variable, text)], none, depth⟩ := by
  have htext : hostText [(key, some text)] key = some text := by
    rw [hostText, Entries.lookup_cons, if_pos rfl]
    exact Text.given?_eq_some_iff.2 ⟨rfl, given⟩
  have habsent : ∀ g, g ≠ f → Absent [(key, some text)] g := by
    intro g hg key' mem'
    have hkey : key' ≠ key := by
      rintro rfl
      exact hg (field_of_mem_hostFields mem' mem)
    rw [hostText, Entries.lookup_cons, if_neg hkey]
    rfl
  have hvariables : Environment.variables ⟨vars ++ [(f.variable, text)], none, depth⟩ =
      Environment.variables ⟨vars, none, depth⟩ ++ [(f.variable, some text)] := by
    simp [Environment.variables]
  have hraw : plainValue (hostGiven [(key, some text)]) ⟨vars, none, depth⟩ =
      plainValue [] ⟨vars ++ [(f.variable, text)], none, depth⟩ := by
    funext g
    by_cases hg : g = f
    · subst hg
      rw [plainValue_given mem htext, hostValue, isText, plainValue, hvariables,
        find?_append_variable, if_pos rfl]
      rfl
    · rw [plainValue_absent (habsent g hg), plainValue, plainValue, hvariables,
        find?_append_variable, if_neg hg]
      rfl
  rw [loadHost, load_plain (plain_hostGiven _), load_plain plain_nil, hraw]

/-- A host's map and the environment set up the same thing. Names that hosts do not use and names
with nothing under them do not count. A field for which the host has nothing holds what plain
settings take for it. A truth value is true exactly if its word is "true", in any case and with
blanks around it, whatever the environment has for it. A text for any other field comes to the same
in the map and in the variable of the field, with the same issues. And what is wrong with values,
wherever they are from, is reported as wrong in the configuration; only a list that is nested too
deep is not. -/
theorem settings_of_host (config : List (String × Option String)) (env : Environment) :
    (∀ keep : String → Bool,
      (∀ key f text, (key, f) ∈ hostFields → hostText config key = some text → keep key = true) →
      ofHost (config.filter fun e => keep e.1) env = ofHost config env) ∧
    (∀ f, Absent config f → ∀ s, ofHost config env = .ok s →
      Takes env f (s.content f) ∧ ∀ s', ofValues [] env = .ok s' → s.content f = s'.content f) ∧
    (∀ key f text, (key, f) ∈ hostFields → isHostBool f = true →
      hostText config key = some text →
      (∀ s, ofHost config env = .ok s →
        s.truth? f = some (Text.lower (Text.trim text) = "true" : Bool)) ∧
      ∀ issues, ofHost config env = .error (.invalidSettings .host issues) →
        ∀ i ∈ issues, i.field ≠ f) ∧
    (∀ key f text vars depth, (key, f) ∈ hostFields → isHostBool f = false → text ≠ "" →
      ∃ outcome, ofHost [(key, some text)] ⟨vars, none, depth⟩ = loaded .host outcome ∧
        ofValues [] ⟨vars ++ [(f.variable, text)], none, depth⟩ = loaded .direct outcome) ∧
    ∀ fault, ofHost config env = .error fault →
      (∃ issues, fault = .invalidSettings .host issues ∧ fault.category = .configuration) ∨
        ∃ inner, fault = .tooDeep inner ∧ Nested (hostGiven config) env inner := by
  refine ⟨fun keep h => ?_, fun f habsent s hs => ⟨takes_of_absent habsent hs, fun s' hs' => ?_⟩,
    fun key f text mem isBool h => ⟨fun s hs => ?_, fun issues hissues => ?_⟩,
    fun key f text vars depth mem isText given => ?_, fun fault hfault => ?_⟩
  · rw [ofHost, ofHost, loadHost, loadHost, hostGiven_filter h]
  · exact content_of_absent habsent hs hs'
  · exact truth_of_host mem isBool h hs
  · exact no_issue_of_hostBool mem isBool h hissues
  · exact ⟨_, rfl, by rw [ofValues, loadHost_alone mem isText given vars depth]⟩
  · rcases fault_of_loaded (plain_hostGiven config) hfault with ⟨issues, rfl⟩ | nested
    · exact .inl ⟨issues, rfl, rfl⟩
    · exact .inr nested

/-- A variable that could not be read does no harm where the host has a word of its own. -/
example :
    (ofHost [("piverifyssl", some " TRUE ")]
      ⟨[("MFABRIDGE_VERIFY_SSL", "maybe")], none, 1⟩).map (·.verifySsl) = .ok true := by
  decide +kernel

end SecondFactor.Settings
