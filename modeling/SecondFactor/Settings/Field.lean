import SecondFactor.Json

/-!
# The fields of the settings

A field has one name, under which it is given directly and, with a common start, in the
environment.
-/
namespace SecondFactor.Settings

inductive Field
  | serverUrl
  | verifySsl
  | realm
  | timeout
  | serviceAccountName
  | serviceAccountPassword
  | serviceAccountRealm
  | pollingIntervals
  | excludedGroups
  | triggerChallenge
  | enrollToken
  | enrollingTokenType
  | doLog
  | logLevel
  | logFormat
deriving DecidableEq, Repr

namespace Field

def name : Field → String
  | serverUrl => "server_url"
  | verifySsl => "verify_ssl"
  | realm => "realm"
  | timeout => "timeout"
  | serviceAccountName => "service_account_name"
  | serviceAccountPassword => "service_account_password"
  | serviceAccountRealm => "service_account_realm"
  | pollingIntervals => "polling_intervals"
  | excludedGroups => "excluded_groups"
  | triggerChallenge => "trigger_challenge"
  | enrollToken => "enroll_token"
  | enrollingTokenType => "enrolling_token_type"
  | doLog => "do_log"
  | logLevel => "log_level"
  | logFormat => "log_format"

/-- Whether the values of a field are lists. -/
def isList : Field → Bool
  | pollingIntervals | excludedGroups => true
  | _ => false

end Field

/-!
## What can be wrong with a value

An issue names the field, the place in a list and the cause. `Checked` collects the issues of all
fields in the order of the fields.
-/

inductive Cause
  | textExpected
  /-- A text that is to be read holds surrogates. -/
  | textUnreadable
  | boolExpected
  | boolUnreadable
  | intExpected
  | intUnreadable
  | intTooLong
  | intFractional
  | notFinite
  | floatExpected
  | floatUnreadable
  | listExpected
  | scheduleEmpty
  | scheduleNegative
deriving DecidableEq, Repr

/-- The short code of a cause. -/
def Cause.code : Cause → String
  | textExpected => "string_type"
  | textUnreadable => "string_unicode"
  | boolExpected => "bool_type"
  | boolUnreadable => "bool_parsing"
  | intExpected => "int_type"
  | intUnreadable => "int_parsing"
  | intTooLong => "int_parsing_size"
  | intFractional => "int_from_float"
  | notFinite => "finite_number"
  | floatExpected => "float_type"
  | floatUnreadable => "float_parsing"
  | listExpected => "list_type"
  | scheduleEmpty | scheduleNegative => "value_error"

def Cause.message : Cause → String
  | textExpected => "Input should be a valid string"
  | textUnreadable =>
    "Input should be a valid string, unable to parse raw data as a unicode string"
  | boolExpected => "Input should be a valid boolean"
  | boolUnreadable => "Input should be a valid boolean, unable to interpret input"
  | intExpected => "Input should be a valid integer"
  | intUnreadable => "Input should be a valid integer, unable to parse string as an integer"
  | intTooLong => "Unable to parse input string as an integer, exceeded maximum size"
  | intFractional => "Input should be a valid integer, got a number with a fractional part"
  | notFinite => "Input should be a finite number"
  | floatExpected => "Input should be a valid number"
  | floatUnreadable => "Input should be a valid number, unable to parse string as a number"
  | listExpected => "Input should be a valid list"
  | scheduleEmpty => "Value error, polling_intervals must contain at least one interval"
  | scheduleNegative => "Value error, polling_intervals must not contain negative values"

structure Issue where
  field : Field
  /-- The place of a bad item in a list field. -/
  index : Option Nat
  cause : Cause
deriving DecidableEq, Repr

/-- A value, or everything that is wrong with it. -/
inductive Checked (α : Type)
  | valid (a : α)
  | invalid (issues : List Issue)
deriving Repr

namespace Checked

/-- Applies a checked function to a checked value; the issues of both are kept. -/
def apply {α β : Type} : Checked (α → β) → Checked α → Checked β
  | valid f, valid a => valid (f a)
  | valid _, invalid is => invalid is
  | invalid is, valid _ => invalid is
  | invalid is, invalid js => invalid (is ++ js)

instance : Applicative Checked where
  pure := valid
  seq f a := apply f (a ())

/-- The value of one field, or its only issue. -/
def ofField {α : Type} (field : Field) : Except Cause α → Checked α
  | .ok a => valid a
  | .error cause => invalid [⟨field, none, cause⟩]

/-- The items of a list field, or an issue for each bad one. -/
def ofItems {α : Type} (field : Field) (check : Json → Except Cause α) :
    List Json → (start : Nat) → Checked (List α)
  | [], _ => valid []
  | j :: js, i =>
    let first := match check j with
      | .ok a => valid a
      | .error cause => invalid [⟨field, some i, cause⟩]
    List.cons <$> first <*> ofItems field check js (i + 1)

/-- Goes on with a valid value. -/
def andThen {α β : Type} (c : Checked α) (next : α → Checked β) : Checked β :=
  match c with
  | valid a => next a
  | invalid is => invalid is

end Checked

end SecondFactor.Settings
