import SecondFactor.Fault
import SecondFactor.Schedule
import SecondFactor.Settings.Coercion
import SecondFactor.Settings.Source

/-!
# Settings

The settings of the second factor: the server and its service account, what a login does, and the
log. They are built from values of mixed origin, and building them either succeeds or lists every
issue in the order of the fields.
-/
namespace SecondFactor

structure Settings where
  serverUrl : String
  verifySsl : Bool
  realm : Option String
  timeout : Binary64
  serviceAccountName : Option String
  serviceAccountPassword : Option String
  serviceAccountRealm : Option String
  schedule : Schedule
  excludedGroups : List String
  triggerChallenge : Bool
  enrollToken : Bool
  enrollingTokenType : String
  doLog : Bool
  logLevel : String
  logFormat : String
deriving DecidableEq, Repr

namespace Settings

/-- Five seconds before the first check, then one, and slowly more. -/
def defaultSchedule : Schedule := ⟨5, [1, 1, 1, 2, 3]⟩

def defaultTimeout : Binary64 := .ofDecimal false 10 0

/-- A field of the settings: its default, or a reading of its raw value. -/
def field {α : Type} (raw : Field → Option Json) (f : Field) (default : α)
    (reading : Json → Except Cause α) : Checked α :=
  Checked.ofField f ((raw f).elim (.ok default) reading)

/-- A list field, each item by itself. -/
def listField {α : Type} (raw : Field → Option Json) (f : Field) (default : List α)
    (reading : Json → Except Cause α) : Checked (List α) :=
  match raw f with
  | none => .valid default
  | some (.list items) => Checked.ofItems f reading items 0
  | some _ => .invalid [⟨f, none, .listExpected⟩]

/-- A schedule needs an entry and has no negative ones. -/
def scheduleOf (is : List Int) : Except Cause Schedule :=
  match Schedule.ofList? is with
  | none => .error .scheduleEmpty
  | some s => if is.any (· < 0) then .error .scheduleNegative else .ok s

/-- The polling schedule of the settings. -/
def scheduleField (raw : Field → Option Json) : Checked Schedule :=
  (listField raw .pollingIntervals defaultSchedule.toList asInt).andThen fun is =>
    Checked.ofField .pollingIntervals (scheduleOf is)

/-- Builds the settings from the raw values of the fields. -/
def build (raw : Field → Option Json) : Checked Settings :=
  Settings.mk
    <$> field raw .serverUrl "" asText
    <*> field raw .verifySsl true asBool
    <*> field raw .realm none asOptionalText
    <*> field raw .timeout defaultTimeout asFloat
    <*> field raw .serviceAccountName none asOptionalText
    <*> field raw .serviceAccountPassword none asOptionalText
    <*> field raw .serviceAccountRealm none asOptionalText
    <*> scheduleField raw
    <*> listField raw .excludedGroups [] asText
    <*> field raw .triggerChallenge false asBool
    <*> field raw .enrollToken false asBool
    <*> field raw .enrollingTokenType "hotp" asText
    <*> field raw .doLog false asBool
    <*> field raw .logLevel "WARNING" asText
    <*> field raw .logFormat "console" asText

/-- The raw values with the texts of the list fields read as lists. -/
def expandLists (depth : Nat) (raw : Field → Option Json) :
    Except Json.Container (Field → Option Json) := do
  let intervals ← (raw .pollingIntervals).mapM (expandListText depth)
  let groups ← (raw .excludedGroups).mapM (expandListText depth)
  return fun f =>
    match f with
    | .pollingIntervals => intervals
    | .excludedGroups => groups
    | f => raw f

/-- The settings from values given directly, over the environment and its file. What keeps variables
from being looked up, or a list that is nested too deep, is reported before anything is checked. -/
def load (given : List (String × Json)) (env : Environment) : Except Fault (Checked Settings) := do
  let raw ← (rawValues given env).mapError Fault.unloadable
  build <$> (expandLists env.depth raw).mapError Fault.tooDeep

end Settings

/-!
## Settings from a host

A host configures the second factor by a map of texts with names of its own. Empty and missing
values fall back to the environment. The truth values of a host are the word "true", in any case,
and anything else.
-/

namespace Settings

/-- The names a host uses, with the fields they set, in the order in which they are looked up. -/
def hostFields : List (String × Field) :=
  [("piserver", .serverUrl),
    ("pirealm", .realm),
    ("piverifyssl", .verifySsl),
    ("pidotriggerchallenge", .triggerChallenge),
    ("piserviceaccount", .serviceAccountName),
    ("piserviceaccountpassword", .serviceAccountPassword),
    ("piserviceaccountrealm", .serviceAccountRealm),
    ("piexcludegroups", .excludedGroups),
    ("pienrolltoken", .enrollToken),
    ("pienrolltokentype", .enrollingTokenType),
    ("pipushtokeninterval", .pollingIntervals),
    ("pidolog", .doLog)]

/-- The fields that a host sets by a truth value. -/
def isHostBool : Field → Bool
  | .verifySsl | .triggerChallenge | .enrollToken | .doLog => true
  | _ => false

/-- A host's text as a raw value of a field. -/
def hostValue (f : Field) (text : String) : Json :=
  if isHostBool f then .bool (Text.lower (Text.trim text) = "true") else .text text

/-- The values that a host gives directly. -/
def hostGiven (config : List (String × Option String)) : List (String × Json) :=
  hostFields.filterMap fun (key, f) =>
    match (config.lookup key).join with
    | none => none
    | some text => if text.isEmpty then none else some (f.name, hostValue f text)

/-- The settings from a host's map, over the environment. -/
def loadHost (config : List (String × Option String)) (env : Environment) :
    Except Fault (Checked Settings) :=
  load (hostGiven config) env

end Settings

/-!
## Loading the settings

The settings come from values given directly, from a host or from the environment alone. Each way
either gives settings or fails with one fault that lists every issue.
-/

namespace Settings

/-- The settings of a successful check, or the fault with all issues. -/
def Checked.orFault {α : Type} (origin : SettingsOrigin) : Checked α → Except Fault α
  | valid a => .ok a
  | invalid issues => .error (.invalidSettings origin issues)

/-- The settings of a loading, or its fault. -/
def loaded (origin : SettingsOrigin) : Except Fault (Checked Settings) → Except Fault Settings
  | .ok c => c.orFault origin
  | .error fault => .error fault

/-- The settings from values given directly. -/
def ofValues (given : List (String × Json)) (env : Environment) : Except Fault Settings :=
  loaded .direct (load given env)

/-- The settings from a host's map. -/
def ofHost (config : List (String × Option String)) (env : Environment) : Except Fault Settings :=
  loaded .host (loadHost config env)

/-- The settings that a program loads for itself. -/
def ofEnvironment (env : Environment) : Except Fault Settings :=
  loaded .environment (load [] env)

theorem Checked.orFault_eq_ok_iff {α : Type} {origin : SettingsOrigin} {c : Checked α} {a : α} :
    c.orFault origin = .ok a ↔ c = valid a := by
  cases c <;> simp [orFault]

end Settings

/-!
## The settings of the running program

They are built from the environment when they are first asked for and kept until a reset. A failed
attempt keeps nothing. Each successful building has a serial number, so two answers come from the
same building exactly when their numbers agree.
-/

namespace Settings

/-- Settings together with the number of their building. -/
structure Built where
  serial : Nat
  settings : Settings
deriving DecidableEq

structure Cache where
  kept : Option Built
  /-- How many times settings were built. -/
  builds : Nat
deriving DecidableEq

namespace Cache

def empty : Cache := ⟨none, 0⟩

/-- The settings that are kept, or else new ones. -/
def get (cache : Cache) (env : Environment) : Except Fault Built × Cache :=
  match cache.kept with
  | some built => (.ok built, cache)
  | none =>
    match ofEnvironment env with
    | .error fault => (.error fault, cache)
    | .ok settings =>
      let built := ⟨cache.builds, settings⟩
      (.ok built, ⟨some built, cache.builds + 1⟩)

def reset (cache : Cache) : Cache := { cache with kept := none }

theorem get_of_kept {cache : Cache} {built : Built} (h : cache.kept = some built)
    (env : Environment) : cache.get env = (.ok built, cache) := by
  simp [get, h]

@[simp] theorem kept_reset (cache : Cache) : cache.reset.kept = none := rfl

end Cache

end Settings

/-!
## Showing the settings

The settings are shown as data, in the order of the fields and with the password masked. A text with
surrogates cannot be shown.
-/

namespace Settings

/-- How a secret is shown: not at all, as the empty text, or as stars. -/
def maskedSecret : Option String → Json
  | none => .null
  | some s => .text (if s.isEmpty then "" else "**********")

def optionalText : Option String → Json
  | none => .null
  | some s => .text s

/-- The values of the fields as they are shown. -/
def entries (s : Settings) : List (String × Json) :=
  [(Field.serverUrl.name, .text s.serverUrl),
    (Field.verifySsl.name, .bool s.verifySsl),
    (Field.realm.name, optionalText s.realm),
    (Field.timeout.name, .number (.float s.timeout)),
    (Field.serviceAccountName.name, optionalText s.serviceAccountName),
    (Field.serviceAccountPassword.name, maskedSecret s.serviceAccountPassword),
    (Field.serviceAccountRealm.name, optionalText s.serviceAccountRealm),
    (Field.pollingIntervals.name, .list (s.schedule.toList.map .int)),
    (Field.excludedGroups.name, .list (s.excludedGroups.map .text)),
    (Field.triggerChallenge.name, .bool s.triggerChallenge),
    (Field.enrollToken.name, .bool s.enrollToken),
    (Field.enrollingTokenType.name, .text s.enrollingTokenType),
    (Field.doLog.name, .bool s.doLog),
    (Field.logLevel.name, .text s.logLevel),
    (Field.logFormat.name, .text s.logFormat)]

/-- The texts in a value of a field. -/
def textsIn : Json → List String
  | .text s => [s]
  | .list items => items.filterMap textOf?
  | _ => []

/-- The settings as they are shown, unless one of their texts cannot be written. -/
def shown (s : Settings) : Except Fault (List (String × Json)) :=
  match (s.entries.flatMap fun e => textsIn e.2).findSome? Text.unwritable? with
  | some run => .error (.unshowable run)
  | none => .ok s.entries

end Settings

end SecondFactor
