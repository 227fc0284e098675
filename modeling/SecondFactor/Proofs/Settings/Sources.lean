import Mathlib.Data.List.Nodup
import SecondFactor.Proofs.Settings.Fields
import SecondFactor.Settings

/-!
# Where the contents of settings come from

A field has its raw value from the first source that has one: what is given directly, a variable of
the environment, a variable of the environment file. A list field that comes as a text has it read
as a list, and then each field is checked on its own. Loading goes wrong before that in two ways
only: by values given directly that are for no field but steer the look-up, and by a list that is
nested too deep.
-/
namespace SecondFactor.Settings

/-- What two steps come to is what the second comes to. -/
theorem ok_of_bind {ε α β : Type} {x : Except ε α} {next : α → Except ε β} {b : β}
    (h : x >>= next = .ok b) : ∃ a, x = .ok a ∧ next a = .ok b := by
  cases x with
  | error e => cases h
  | ok a => exact ⟨a, rfl, h⟩

/-! ## Raw values -/

/-- The names under which values are given that steer the look-up. -/
def steeringNames : List String :=
  [Obstacle.heldName, "_env_prefix", "_case_sensitive", "_env_ignore_empty",
    "_env_nested_delimiter", "_env_parse_none_str", "_env_file", "_env_file_encoding",
    "_secrets_dir", "_cli_parse_args"]

/-- Nothing that is given steers the look-up. -/
def Plain (given : List (String × Json)) : Prop :=
  ∀ name ∈ steeringNames, given.lookup name = none

theorem plain_nil : Plain [] := fun _ _ => rfl

/-- The variables of the process. -/
def Environment.variables (env : Environment) : List (String × Option String) :=
  env.vars.map fun v => (v.1, some v.2)

/-- The variables that the environment file sets. -/
def Environment.inFile (env : Environment) : List (String × Option String) :=
  (env.file.map (EnvFile.read env.vars)).getD []

variable {given : List (String × Json)} {env : Environment} {f : Field}

/-- The raw value that a field has: from the first source that has one for it. -/
inductive Wins (given : List (String × Json)) (env : Environment) (f : Field) :
    Option Json → Prop
  | given {j : Json} (h : given.lookup f.name = some j) : Wins given env f (some j)
  | environment {l : Lookup} {j : Json} (lookup : Lookup.ofGiven given = .ok l)
      (notGiven : given.lookup f.name = none) (h : l.find? f env.variables = some j) :
      Wins given env f (some j)
  | file {l : Lookup} {inFile : List (String × Option String)} {j : Json}
      (lookup : Lookup.ofGiven given = .ok l) (file : fileVariables given env = .ok inFile)
      (notGiven : given.lookup f.name = none) (noVariable : l.find? f env.variables = none)
      (h : l.find? f inFile = some j) : Wins given env f (some j)
  | default {l : Lookup} {inFile : List (String × Option String)}
      (lookup : Lookup.ofGiven given = .ok l) (file : fileVariables given env = .ok inFile)
      (notGiven : given.lookup f.name = none) (noVariable : l.find? f env.variables = none)
      (notInFile : l.find? f inFile = none) : Wins given env f none

theorem wins_of_rawValues {raw : Field → Option Json} (h : rawValues given env = .ok raw)
    (f : Field) : Wins given env f (raw f) := by
  unfold rawValues at h
  dsimp only at h
  split at h
  · cases h
  split at h
  · cases h
  obtain ⟨inFile, hfile, h⟩ := ok_of_bind h
  obtain ⟨-, -, h⟩ := ok_of_bind h
  obtain ⟨l, hlookup, h⟩ := ok_of_bind h
  obtain ⟨-, -, h⟩ := ok_of_bind h
  cases h
  change Wins given env f (given.lookup f.name <|> l.find? f env.variables <|> l.find? f inFile)
  cases hgiven : given.lookup f.name with
  | some j => exact .given hgiven
  | none =>
    cases hvariable : l.find? f env.variables with
    | some j => exact .environment hlookup hgiven hvariable
    | none =>
      cases hinFile : l.find? f inFile with
      | some j => exact .file hlookup hfile hgiven hvariable hinFile
      | none => exact .default hlookup hfile hgiven hvariable hinFile

theorem wish_plain (h : Plain given) {name : String} (hname : name ∈ steeringNames) :
    wish given name = .null := by
  rw [wish, h name hname]
  rfl

theorem ofGiven_plain (h : Plain given) : Lookup.ofGiven given = .ok {} := by
  have hnull : ∀ name ∈ steeringNames, wish given name = .null := fun _ => wish_plain h
  simp only [steeringNames, List.forall_mem_cons] at hnull
  obtain ⟨-, hstart, hcase, hempty, hjoint, hnone, -⟩ := hnull
  unfold Lookup.ofGiven
  rw [hstart, hcase, hempty, hjoint, hnone]
  rfl

theorem fileVariables_plain (h : Plain given) (env : Environment) :
    fileVariables given env = .ok env.inFile := by
  unfold fileVariables
  rw [h "_env_file" (by decide), wish_plain h (by decide)]
  obtain ⟨vars, file⟩ := env
  cases file <;> rfl

/-- The raw value of a field where nothing steers the look-up. -/
def plainValue (given : List (String × Json)) (env : Environment) (f : Field) : Option Json :=
  given.lookup f.name <|> ({} : Lookup).find? f env.variables <|> ({} : Lookup).find? f env.inFile

theorem rawValues_plain (h : Plain given) (env : Environment) :
    rawValues given env = .ok (plainValue given env) := by
  have hsecrets : checkSecrets given env = .ok () := by
    rw [checkSecrets, wish_plain h (by decide)]
    cases env.file <;> rfl
  unfold rawValues
  rw [h Obstacle.heldName (by decide), wish_plain h (by decide), wish_plain h (by decide), hsecrets,
    fileVariables_plain h, ofGiven_plain h]
  rfl

theorem load_plain (h : Plain given) (env : Environment) :
    load given env =
      build <$> (expandLists env.depth (plainValue given env)).mapError Fault.tooDeep := by
  unfold load
  rw [rawValues_plain h]
  rfl

/-! ## Variables -/

/-- The name of the variable of a field, in the ordinary spelling. -/
def Field.variable (f : Field) : String := "MFABRIDGE_" ++ Text.upper f.name

/-- The name of the variable of a field, as names are compared. -/
def Field.variableKey (f : Field) : String := "mfabridge_" ++ f.name

theorem Field.lower_variable (f : Field) : Text.lower f.variable = f.variableKey := by
  cases f <;> decide +kernel

theorem Field.fieldKey_plain (f : Field) : ({} : Lookup).fieldKey f = f.variableKey := by
  cases f <;> decide +kernel

theorem Field.eq_of_name_eq {f g : Field} (h : f.name = g.name) : f = g := by
  have hdistinct : (all.map name).Nodup := by decide
  exact List.inj_on_of_nodup_map hdistinct f.mem_all g.mem_all h

theorem Field.variableKey_inj {f g : Field} : f.variableKey = g.variableKey ↔ f = g := by
  refine ⟨fun h => eq_of_name_eq ?_, fun h => h ▸ rfl⟩
  exact String.append_right_inj _ |>.1 h

/-- In the ordinary way a field has the text of the last variable with its name, in any case. -/
theorem find?_plain (f : Field) (vars : List (String × Option String)) :
    ({} : Lookup).find? f vars =
      (vars.reverse.find? fun v => Text.lower v.1 = f.variableKey).bind fun v => v.2.map .text := by
  have hvalue : ({} : Lookup).value = Json.text := funext fun text => rfl
  have hparts : ({} : Lookup).parts? f vars = none := rfl
  have hlast : ({} : Lookup).find? f vars = ({} : Lookup).last? f vars := by
    change (_ <|> ({} : Lookup).parts? f vars) = _
    rw [hparts, Option.orElse_eq_orElse, Option.orElse_eq_or, Option.or_none]
    rfl
  rw [hlast, Lookup.last?, Field.fieldKey_plain, hvalue]
  rfl

/-- A variable that comes last has its own field from then on, and no other. -/
theorem find?_append_variable (g f : Field) (vars : List (String × Option String))
    (text : String) :
    ({} : Lookup).find? g (vars ++ [(f.variable, some text)]) =
      if g = f then some (.text text) else ({} : Lookup).find? g vars := by
  rw [find?_plain, find?_plain, List.reverse_append, List.reverse_singleton,
    List.singleton_append, List.find?_cons]
  by_cases h : g = f
  · subst h
    simp [Field.lower_variable]
  · have hkey : f.variableKey ≠ g.variableKey := fun hkey => h (Field.variableKey_inj.1 hkey).symm
    simp [Field.lower_variable, h, hkey]

/-! ## Lists written as texts -/

/-- A raw value with a text for a list field read as a list. -/
inductive ReadAs (depth : Nat) (f : Field) : Option Json → Option Json → Prop
  | list {text : String} {items : List Json} (isList : f.isList = true)
      (h : listOfText depth text = .ok items) :
      ReadAs depth f (some (.text text)) (some (.list items))
  | same {raw : Option Json} (h : f.isList = true → ∀ text, raw ≠ some (.text text)) :
      ReadAs depth f raw raw

variable {depth : Nat}

/-- A text is read as a list, or it is nested too deep; other values stay. -/
theorem expand_text (depth : Nat) (text : String) :
    (some (Json.text text)).mapM (expandListText depth) =
      (listOfText depth text).map fun items => some (.list items) := by
  change (Json.list <$> listOfText depth text >>= fun j => pure (some j)) = _
  cases listOfText depth text <;> rfl

theorem readAs_of_expanded {raw value : Option Json} (isList : f.isList = true)
    (h : raw.mapM (expandListText depth) = .ok value) : ReadAs depth f raw value := by
  cases raw with
  | none =>
    cases h
    exact .same fun _ text => by simp
  | some j =>
    cases j with
    | text text =>
      rw [expand_text] at h
      cases htext : listOfText depth text with
      | ok items =>
        rw [htext] at h
        cases h
        exact .list isList htext
      | error inner =>
        rw [htext] at h
        cases h
    | _ =>
      cases h
      exact .same fun _ text => by simp

theorem nested_of_expanded {raw : Option Json} {inner : Json.Container}
    (h : raw.mapM (expandListText depth) = .error inner) :
    ∃ text, raw = some (.text text) ∧ listOfText depth text = .error inner := by
  cases raw with
  | none => cases h
  | some j =>
    cases j with
    | text text =>
      rw [expand_text] at h
      cases htext : listOfText depth text with
      | ok items =>
        rw [htext] at h
        cases h
      | error inner =>
        rw [htext] at h
        cases h
        exact ⟨text, rfl, htext⟩
    | _ => cases h

variable {raw value : Field → Option Json}

theorem readAs_of_expandLists (h : expandLists depth raw = .ok value) (f : Field) :
    ReadAs depth f (raw f) (value f) := by
  obtain ⟨intervals, hintervals, h⟩ := ok_of_bind h
  obtain ⟨groups, hgroups, h⟩ := ok_of_bind h
  cases h
  cases f with
  | pollingIntervals => exact readAs_of_expanded rfl hintervals
  | excludedGroups => exact readAs_of_expanded rfl hgroups
  | _ => exact .same fun h => Bool.noConfusion h

theorem nested_of_expandLists {inner : Json.Container} (h : expandLists depth raw = .error inner) :
    ∃ f text, Field.isList f = true ∧ raw f = some (.text text) ∧
      listOfText depth text = .error inner := by
  unfold expandLists at h
  cases hintervals : (raw .pollingIntervals).mapM (expandListText depth) with
  | error inner' =>
    rw [hintervals] at h
    cases h
    obtain ⟨text, htext⟩ := nested_of_expanded hintervals
    exact ⟨.pollingIntervals, text, rfl, htext⟩
  | ok intervals =>
    rw [hintervals] at h
    cases hgroups : (raw .excludedGroups).mapM (expandListText depth) with
    | error inner' =>
      rw [hgroups] at h
      cases h
      obtain ⟨text, htext⟩ := nested_of_expanded hgroups
      exact ⟨.excludedGroups, text, rfl, htext⟩
    | ok groups =>
      rw [hgroups] at h
      cases h

theorem expandLists_nested {text : String} {inner : Json.Container}
    (h : raw .pollingIntervals = some (.text text)) (deep : listOfText depth text = .error inner) :
    expandLists depth raw = .error inner := by
  unfold expandLists
  rw [h, expand_text, deep]
  rfl

/-! ## Loading -/

/-- A list field has a text that is nested too deep to be read. -/
def Nested (given : List (String × Json)) (env : Environment) (inner : Json.Container) : Prop :=
  ∃ f text, Field.isList f = true ∧ Wins given env f (some (.text text)) ∧
    listOfText env.depth text = .error inner

/-- How loading goes. -/
inductive Loads (given : List (String × Json)) (env : Environment) :
    Except Fault (Checked Settings) → Prop
  | unloadable {cause : Obstacle} (steered : ¬ Plain given) :
      Loads given env (.error (.unloadable cause))
  | nested {inner : Json.Container} (deep : Nested given env inner) :
      Loads given env (.error (.tooDeep inner))
  | checked {value : Field → Option Json}
      (values : ∀ f, ∃ raw, Wins given env f raw ∧ ReadAs env.depth f raw (value f)) :
      Loads given env (.ok (build value))

theorem loads (given : List (String × Json)) (env : Environment) :
    Loads given env (load given env) := by
  unfold load
  cases hraw : rawValues given env with
  | error cause =>
    refine .unloadable fun hplain => ?_
    rw [rawValues_plain hplain] at hraw
    cases hraw
  | ok raw =>
    have hwins := wins_of_rawValues hraw
    change Loads given env (build <$> (expandLists env.depth raw).mapError Fault.tooDeep)
    cases hexpanded : expandLists env.depth raw with
    | error inner =>
      obtain ⟨f, text, isList, htext, hdeep⟩ := nested_of_expandLists hexpanded
      exact .nested ⟨f, text, isList, htext ▸ hwins f, hdeep⟩
    | ok value =>
      exact .checked fun f => ⟨raw f, hwins f, readAs_of_expandLists hexpanded f⟩

theorem ReadAs.unique {raw value value' : Option Json} (h : ReadAs depth f raw value)
    (h' : ReadAs depth f raw value') : value = value' := by
  cases h with
  | list isList h =>
    cases h' with
    | list _ h' => rw [Except.ok.inj (h.symm.trans h')]
    | same no => exact absurd rfl (no isList _)
  | same no =>
    cases h' with
    | list isList _ => exact absurd rfl (no isList _)
    | same _ => rfl

/-- How loading goes where nothing steers the look-up. -/
theorem load_plain_cases (h : Plain given) (env : Environment) :
    (∃ value : Field → Option Json, (∀ f, ReadAs env.depth f (plainValue given env f) (value f)) ∧
      load given env = .ok (build value)) ∨
    ∃ inner, load given env = .error (.tooDeep inner) := by
  rw [load_plain h]
  cases hexpanded : expandLists env.depth (plainValue given env) with
  | error inner => exact .inr ⟨inner, rfl⟩
  | ok value => exact .inl ⟨value, readAs_of_expandLists hexpanded, rfl⟩

theorem Checked.issues_of_orFault {α : Type} {c : Checked α} {origin origin' : SettingsOrigin}
    {issues : List Issue} (h : c.orFault origin = .error (.invalidSettings origin' issues)) :
    c.issues = issues := by
  cases c with
  | valid a => cases h
  | invalid is =>
    cases h
    rfl

/-- Where nothing steers the look-up, settings fail by what is wrong with their values, or by a list
that is nested too deep. -/
theorem fault_of_loaded (h : Plain given) {origin : SettingsOrigin} {fault : Fault}
    (hfault : loaded origin (load given env) = .error fault) :
    (∃ issues, fault = .invalidSettings origin issues) ∨
      ∃ inner, fault = .tooDeep inner ∧ Nested given env inner := by
  have hloads := loads given env
  generalize load given env = result at hloads hfault
  cases hloads with
  | unloadable steered => exact absurd h steered
  | nested deep =>
    cases hfault
    exact .inr ⟨_, rfl, deep⟩
  | @checked value values =>
    cases hbuild : build value with
    | valid s =>
      rw [hbuild] at hfault
      cases hfault
    | invalid issues =>
      rw [hbuild] at hfault
      cases hfault
      exact .inl ⟨issues, rfl⟩

end SecondFactor.Settings
