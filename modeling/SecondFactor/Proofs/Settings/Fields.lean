import SecondFactor.Settings

/-!
# Settings field by field

Settings are checked as a whole, but each field only ever looks at its own raw value. So settings
come out exactly if every field has a content, and what is wrong with them is what is wrong with
their fields, one after the other.
-/
namespace SecondFactor.Settings

/-! ## Checked values -/

namespace Checked

variable {α β : Type}

/-- All that is wrong with a value. -/
def issues : Checked α → List Issue
  | valid _ => []
  | invalid is => is

@[simp] theorem issues_seq (f : Checked (α → β)) (a : Checked α) :
    (f <*> a).issues = f.issues ++ a.issues := by
  cases f <;> cases a <;> simp [Seq.seq, apply, issues]

@[simp] theorem issues_map (g : α → β) (a : Checked α) : (g <$> a).issues = a.issues := by
  cases a <;> rfl

theorem seq_eq_valid_iff {f : Checked (α → β)} {a : Checked α} {b : β} :
    f <*> a = valid b ↔ ∃ g x, f = valid g ∧ a = valid x ∧ g x = b := by
  cases f <;> cases a <;> simp [Seq.seq, apply]

theorem map_eq_valid_iff {g : α → β} {a : Checked α} {b : β} :
    g <$> a = valid b ↔ ∃ x, a = valid x ∧ g x = b := by
  cases a <;> simp [Functor.map, apply]

/-- Where issues lie: there is none outside the given field, and one in it if there is no value. -/
inductive Within (field : Field) : Checked α → Prop
  | valid (a : α) : Within field (valid a)
  | invalid {is : List Issue} (ne_nil : is ≠ []) (inside : ∀ i ∈ is, i.field = field) :
      Within field (invalid is)

variable {field : Field}

theorem Within.field_of_mem {c : Checked α} (h : Within field c) {i : Issue}
    (hi : i ∈ c.issues) : i.field = field := by
  cases h with
  | valid a => cases hi
  | invalid ne_nil inside => exact inside i hi

theorem within_ofField (result : Except Cause α) : Within field (ofField field result) := by
  cases result with
  | ok a => exact .valid a
  | error cause => exact .invalid (List.cons_ne_nil _ _) (by simp)

theorem Within.andThen {c : Checked α} (h : Within field c) {next : α → Checked β}
    (hnext : ∀ a, Within field (next a)) : Within field (c.andThen next) := by
  cases h with
  | valid a => exact hnext a
  | invalid ne_nil inside => exact .invalid ne_nil inside

/-- What the items of a list come to: a value each, or issues because one of them has none. -/
inductive Itemized (field : Field) (check : Json → Except Cause α) (items : List Json) :
    Checked (List α) → Prop
  | valid {as : List α} (h : items.map check = as.map .ok) :
      Itemized field check items (valid as)
  | invalid {is : List Issue} {item : Json} {cause : Cause} (mem : item ∈ items)
      (bad : check item = .error cause) (ne_nil : is ≠ []) (inside : ∀ i ∈ is, i.field = field) :
      Itemized field check items (invalid is)

theorem itemized_ofItems (check : Json → Except Cause α) (items : List Json) (n : Nat) :
    Itemized field check items (ofItems field check items n) := by
  induction items generalizing n with
  | nil => exact .valid rfl
  | cons item rest ih =>
    have hrest := ih (n + 1)
    rw [ofItems]
    generalize ofItems field check rest (n + 1) = c at hrest
    cases hitem : check item with
    | ok a =>
      cases hrest with
      | valid h => exact .valid (by rw [List.map_cons, List.map_cons, hitem, h])
      | invalid mem bad ne_nil inside =>
        exact .invalid (List.mem_cons_of_mem item mem) bad ne_nil inside
    | error cause =>
      cases hrest with
      | valid h => exact .invalid List.mem_cons_self hitem (List.cons_ne_nil _ _) (by simp)
      | invalid mem bad ne_nil inside =>
        refine .invalid List.mem_cons_self hitem (List.cons_ne_nil _ _) ?_
        simpa using inside

end Checked

/-! ## The content of a field -/

/-- What a field holds. -/
abbrev Field.Content : Field → Type
  | serverUrl | enrollingTokenType | logLevel | logFormat => String
  | verifySsl | triggerChallenge | enrollToken | doLog => Bool
  | realm | serviceAccountName | serviceAccountPassword | serviceAccountRealm => Option String
  | timeout => Binary64
  | pollingIntervals => Schedule
  | excludedGroups => List String

/-- What the settings hold in a field. -/
def content (s : Settings) : (f : Field) → f.Content
  | .serverUrl => s.serverUrl
  | .verifySsl => s.verifySsl
  | .realm => s.realm
  | .timeout => s.timeout
  | .serviceAccountName => s.serviceAccountName
  | .serviceAccountPassword => s.serviceAccountPassword
  | .serviceAccountRealm => s.serviceAccountRealm
  | .pollingIntervals => s.schedule
  | .excludedGroups => s.excludedGroups
  | .triggerChallenge => s.triggerChallenge
  | .enrollToken => s.enrollToken
  | .enrollingTokenType => s.enrollingTokenType
  | .doLog => s.doLog
  | .logLevel => s.logLevel
  | .logFormat => s.logFormat

/-- The content that a field gets from its own raw value. -/
def check : (f : Field) → Option Json → Checked f.Content
  | .serverUrl, raw => field (fun _ => raw) .serverUrl "" asText
  | .verifySsl, raw => field (fun _ => raw) .verifySsl true asBool
  | .realm, raw => field (fun _ => raw) .realm none asOptionalText
  | .timeout, raw => field (fun _ => raw) .timeout defaultTimeout asFloat
  | .serviceAccountName, raw => field (fun _ => raw) .serviceAccountName none asOptionalText
  | .serviceAccountPassword, raw =>
    field (fun _ => raw) .serviceAccountPassword none asOptionalText
  | .serviceAccountRealm, raw => field (fun _ => raw) .serviceAccountRealm none asOptionalText
  | .pollingIntervals, raw => scheduleField fun _ => raw
  | .excludedGroups, raw => listField (fun _ => raw) .excludedGroups [] asText
  | .triggerChallenge, raw => field (fun _ => raw) .triggerChallenge false asBool
  | .enrollToken, raw => field (fun _ => raw) .enrollToken false asBool
  | .enrollingTokenType, raw => field (fun _ => raw) .enrollingTokenType "hotp" asText
  | .doLog, raw => field (fun _ => raw) .doLog false asBool
  | .logLevel, raw => field (fun _ => raw) .logLevel "WARNING" asText
  | .logFormat, raw => field (fun _ => raw) .logFormat "console" asText

/-- The fields in the order in which they are checked. -/
def Field.all : List Field :=
  [serverUrl, verifySsl, realm, timeout, serviceAccountName, serviceAccountPassword,
    serviceAccountRealm, pollingIntervals, excludedGroups, triggerChallenge, enrollToken,
    enrollingTokenType, doLog, logLevel, logFormat]

theorem Field.mem_all (f : Field) : f ∈ all := by
  cases f <;> decide

/-- Settings with the contents of their fields. -/
def gather (c : (f : Field) → Checked f.Content) : Checked Settings :=
  Settings.mk
    <$> c .serverUrl
    <*> c .verifySsl
    <*> c .realm
    <*> c .timeout
    <*> c .serviceAccountName
    <*> c .serviceAccountPassword
    <*> c .serviceAccountRealm
    <*> c .pollingIntervals
    <*> c .excludedGroups
    <*> c .triggerChallenge
    <*> c .enrollToken
    <*> c .enrollingTokenType
    <*> c .doLog
    <*> c .logLevel
    <*> c .logFormat

theorem build_eq_gather (raw : Field → Option Json) :
    build raw = gather fun f => check f (raw f) := rfl

theorem issues_gather (c : (f : Field) → Checked f.Content) :
    (gather c).issues = Field.all.flatMap fun f => (c f).issues := by
  simp [gather, Field.all]

theorem gather_eq_valid_iff {c : (f : Field) → Checked f.Content} {s : Settings} :
    gather c = .valid s ↔ ∀ f, c f = .valid (s.content f) := by
  constructor
  · intro h
    simp only [gather, Checked.seq_eq_valid_iff, Checked.map_eq_valid_iff] at h
    -- Field by field, from the last one to the first.
    obtain ⟨s, logFormat, h, hlogFormat, rfl⟩ := h
    obtain ⟨s, logLevel, h, hlogLevel, rfl⟩ := h
    obtain ⟨s, doLog, h, hdoLog, rfl⟩ := h
    obtain ⟨s, enrollingTokenType, h, henrollingTokenType, rfl⟩ := h
    obtain ⟨s, enrollToken, h, henrollToken, rfl⟩ := h
    obtain ⟨s, triggerChallenge, h, htriggerChallenge, rfl⟩ := h
    obtain ⟨s, excludedGroups, h, hexcludedGroups, rfl⟩ := h
    obtain ⟨s, schedule, h, hschedule, rfl⟩ := h
    obtain ⟨s, accountRealm, h, haccountRealm, rfl⟩ := h
    obtain ⟨s, accountPassword, h, haccountPassword, rfl⟩ := h
    obtain ⟨s, accountName, h, haccountName, rfl⟩ := h
    obtain ⟨s, timeout, h, htimeout, rfl⟩ := h
    obtain ⟨s, realm, h, hrealm, rfl⟩ := h
    obtain ⟨s, verifySsl, h, hverifySsl, rfl⟩ := h
    obtain ⟨serverUrl, hserverUrl, rfl⟩ := h
    intro f
    cases f <;> assumption
  · intro h
    obtain rfl : c = fun f => .valid (s.content f) := funext h
    rfl

/-- Settings come out exactly if every field gets its content. -/
theorem build_eq_valid_iff {raw : Field → Option Json} {s : Settings} :
    build raw = .valid s ↔ ∀ f, check f (raw f) = .valid (s.content f) := by
  rw [build_eq_gather, gather_eq_valid_iff]

/-- A list field has its default, or what its items come to. -/
theorem within_listField {α : Type} (raw : Field → Option Json) (f : Field) (default : List α)
    (reading : Json → Except Cause α) : (listField raw f default reading).Within f := by
  unfold listField
  split
  · exact .valid default
  · rename_i items _
    have h : Checked.Itemized f reading items (Checked.ofItems f reading items 0) :=
      Checked.itemized_ofItems reading items 0
    generalize Checked.ofItems f reading items 0 = c at h
    cases h with
    | valid h => exact .valid _
    | invalid mem bad ne_nil inside => exact .invalid ne_nil inside
  · exact .invalid (List.cons_ne_nil _ _) (by simp)

/-- What is wrong with a field is told of that field. -/
theorem within_check (f : Field) (raw : Option Json) : (check f raw).Within f := by
  cases f with
  | pollingIntervals =>
    exact (within_listField _ _ _ _).andThen fun is => Checked.within_ofField _
  | excludedGroups => exact within_listField (fun _ => raw) .excludedGroups [] asText
  | _ => exact Checked.within_ofField _

/-- The issues of settings in a field are those of the field. -/
theorem mem_issues_build_iff {raw : Field → Option Json} {i : Issue} :
    i ∈ (build raw).issues ↔ i ∈ (check i.field (raw i.field)).issues := by
  rw [build_eq_gather, issues_gather, List.mem_flatMap]
  constructor
  · rintro ⟨f, -, hi⟩
    obtain rfl := (within_check f (raw f)).field_of_mem hi
    exact hi
  · intro hi
    exact ⟨i.field, i.field.mem_all, hi⟩

/-!
## Settings at their defaults

Only the address of the server has to be given.
-/

/-- The settings for a server's address, all else at its default. -/
def ofUrl (serverUrl : String) : Settings :=
  { serverUrl
    verifySsl := true
    realm := none
    timeout := defaultTimeout
    serviceAccountName := none
    serviceAccountPassword := none
    serviceAccountRealm := none
    schedule := defaultSchedule
    excludedGroups := []
    triggerChallenge := false
    enrollToken := false
    enrollingTokenType := "hotp"
    doLog := false
    logLevel := "WARNING"
    logFormat := "console" }

/-- They are what is built where nothing but the address is given. -/
theorem build_ofUrl (serverUrl : String) :
    build (fun f => if f = .serverUrl then some (.text serverUrl) else none) =
      .valid (ofUrl serverUrl) := rfl

end SecondFactor.Settings
