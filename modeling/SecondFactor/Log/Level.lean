import SecondFactor.Json
import SecondFactor.Text

/-!
# Log levels

An event has a level, and an output has a threshold below which it writes nothing.
-/
namespace SecondFactor.Log

inductive Level
  | debug
  | info
  | warning
  | error
  | critical
deriving DecidableEq, Repr

namespace Level

def name : Level → String
  | debug => "debug"
  | info => "info"
  | warning => "warning"
  | error => "error"
  | critical => "critical"

def severity : Level → Nat
  | debug => 10
  | info => 20
  | warning => 30
  | error => 40
  | critical => 50

/-- The level of a logging call by its name, two of which have a second name. -/
def ofCall? (name : String) : Option Level :=
  match name with
  | "debug" => some debug
  | "info" | "msg" => some info
  | "warning" | "warn" => some warning
  | "error" => some error
  | "critical" | "fatal" => some critical
  | _ => none

end Level

/-- The severities that a configured name sets as a threshold. -/
def thresholds : List (String × Nat) :=
  [("NOTSET", 0), ("DEBUG", 10), ("INFO", 20), ("WARN", 30), ("WARNING", 30), ("ERROR", 40),
    ("CRITICAL", 50), ("FATAL", 50)]

/-- What a configured name may denote that is no level. -/
inductive LevelError
  /-- The format of a message. -/
  | messageFormat
  /-- The table of the styles of formats. -/
  | formatStyles
deriving DecidableEq, Repr

namespace LevelError

def className : LevelError → String
  | messageFormat => "KeyError"
  | formatStyles => "TypeError"

def message : LevelError → String
  | messageFormat => "'%(levelname)s:%(name)s:%(message)s'"
  | formatStyles => "unhashable type: 'dict'"

end LevelError

/-- The names that denote no level. -/
def otherNames : List (String × LevelError) :=
  [("BASIC_FORMAT", .messageFormat), ("_STYLES", .formatStyles)]

/-- The threshold of a configured level name, in any case; an unknown name means `info`. -/
def threshold (name : String) : Except LevelError Nat :=
  match otherNames.lookup (Text.upper name) with
  | some e => .error e
  | none => .ok ((thresholds.lookup (Text.upper name)).getD Level.info.severity)

/-- Sets the level of a row of fields after the name of a logging call. -/
def withLevel (call : String) (fields : List (String × Json)) : List (String × Json) :=
  Entries.insert "level" (.text (if call = "warn" then "warning" else call)) fields

end SecondFactor.Log
