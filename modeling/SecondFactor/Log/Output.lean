import SecondFactor.Log.Event
import SecondFactor.Log.Template

/-!
# Log output

An output drops what lies below its threshold. It writes an object with all fields to a line, or
only the level and the message for a reader at a console.
-/
namespace SecondFactor.Log

/-- Who holds a name that no field of a call may have. -/
inductive NameHolder
  /-- A call whose level is on. -/
  | call
  /-- A call whose level is off. -/
  | silentCall
  /-- The writing of a line. -/
  | writing
deriving DecidableEq, Repr

/-- Who reports a field with a name that is held. -/
def NameHolder.name : NameHolder → String
  | call => "_make_filtering_bound_logger.<locals>.make_method.<locals>.meth()"
  | silentCall => "_nop()"
  | writing => "BoundLoggerBase._proxy_to_logger()"

/-- The names that are held. -/
def NameHolder.held : NameHolder → List String
  | call | silentCall => ["self", "event"]
  | writing => ["method_name"]

/-- Why a line cannot be written. -/
inductive CallError
  | template (e : TemplateError)
  /-- A field has a name that is held. -/
  | nameHeld (holder : NameHolder) (name : String)
  /-- A value of a kind without length was given as a row of arguments. -/
  | noLength (kind : String)
  /-- A mapping with one member was given as a row of arguments. -/
  | noFirstItem
  /-- The end of a line is no text. -/
  | textExpected (kind : String)
deriving DecidableEq

namespace CallError

def className : CallError → String
  | template e => e.className
  | nameHeld .. | noLength _ | textExpected _ => "TypeError"
  | noFirstItem => "KeyError"

def message : CallError → String
  | template e => e.message
  | nameHeld holder name =>
    holder.name ++ " got multiple values for argument '" ++ name ++ "'"
  | noLength kind => "object of type '" ++ kind ++ "' has no len()"
  | noFirstItem => "0"
  | textExpected kind => "can only concatenate str (not \"" ++ kind ++ "\") to str"

end CallError

structure Output where
  threshold : Nat
  /-- Whether lines are objects with all fields. -/
  json : Bool
deriving DecidableEq, Repr

namespace Output

/-- The output for a configured level name. -/
def ofName (level : String) (json : Bool) : Except LevelError Output :=
  (⟨·, json⟩) <$> Log.threshold level

def isOn (o : Output) (l : Level) : Bool := o.threshold ≤ l.severity

/-- The fields of a written line. -/
def line (o : Output) (level : Level) (message : String) (fields : List (String × Json)) :
    List (String × Json) :=
  let shown := if o.json then Entries.erase "timestamp" fields else []
  withLevel level.name (Entries.insert "event" (.text message) shown)

/-- The line written for an event, if any. -/
def event? (o : Output) (e : Event) : Option (List (String × Json)) :=
  if o.isOn e.level then some (o.line e.level e.name e.fields) else none

/-- The lines written for a row of events. -/
def events (o : Output) (es : List Event) : List (List (String × Json)) := es.filterMap o.event?

/-- The field whose value is filled into the message once more. -/
def argumentsField : String := "positional_args"

/-- The fields that steer the writing of a line and are not written. -/
def steeringFields : List String := ["stack_info", "exc_info"]

/-- Whether a field is written; one for arguments is, if it has none. -/
def isWritten (field : String × Json) : Bool :=
  !steeringFields.contains field.1 && (field.1 != argumentsField || field.2 == .null)

/-- The fields whose texts end a line at a console. -/
def endingFields : List String := ["stack", "exception"]

/-- The arguments that the value of a field stands for. -/
def fieldArguments : Json → Except CallError Template.Supply
  | .list [.object (e :: es)] => .ok (.ofValue (.object (e :: es)))
  | .object [_] => .error .noFirstItem
  | .bool b => .error (.noLength (Json.bool b).kindName)
  | .number n => .error (.noLength (Json.number n).kindName)
  | j => .ok (.ofValue j)

/-- The message with the arguments in a field filled in, if there are any. -/
def refill (fields : List (String × Json)) (message : String) : Except CallError String :=
  match (fields.lookup argumentsField).filter Json.isTruthy with
  | none => .ok message
  | some j => do
    let supply ← fieldArguments j
    (Template.message message supply).mapError .template

/-- Whether the fields that end a line hold texts, if anything. -/
def checkEndings (fields : List (String × Json)) : Except CallError Unit :=
  endingFields.forM fun name =>
    match (fields.lookup name).getD .null with
    | .null | .text _ => .ok ()
    | j => .error (.textExpected j.kindName)

/-- Fails at the first field with a name that is held. -/
def checkNames (holder : NameHolder) (fields : List (String × Json)) : Except CallError Unit :=
  match fields.find? fun field => holder.held.contains field.1 with
  | some field => .error (.nameHeld holder field.1)
  | none => .ok ()

/-- The line written for a call with a template; nothing is filled in where nothing is written. -/
def call? (o : Output) (level : Level) (template : String) (args : List Json)
    (fields : List (String × Json)) : Except CallError (Option (List (String × Json))) := do
  if o.isOn level then
    checkNames .call fields
    let message ← (Template.format template args).mapError .template
    checkNames .writing fields
    let message ← refill fields message
    let fields := fields.filter isWritten
    if !o.json then checkEndings fields
    return some (o.line level message fields)
  else
    checkNames .silentCall fields
    return none

end Output

end SecondFactor.Log
