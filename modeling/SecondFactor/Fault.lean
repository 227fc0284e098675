import SecondFactor.Log.Level
import SecondFactor.Server.Message
import SecondFactor.Settings.Environment
import SecondFactor.Settings.Field
import SecondFactor.Text.Quoted

/-!
# Faults

Every way in which an operation can fail, by cause. A fault belongs to a category, which decides
who handles it, and has one message.
-/
namespace SecondFactor

/-- Why a secret for passcodes is unusable. -/
inductive SecretFault
  | empty
  | notAscii
  | padding
  | digit
deriving DecidableEq, Repr

def SecretFault.message : SecretFault → String
  | empty => "empty"
  | notAscii => "string argument should contain only ASCII characters"
  | padding => "Incorrect padding"
  | digit => "Non-base32 digit found"

/-- Why a clock does not show a time. -/
inductive ClockFault
  /-- The time is no number. -/
  | notANumber
  /-- The time has no place in a time step. -/
  | noRemainder
  | yearOutOfRange (year : Int)
  /-- The year does not fit the words that dates are kept in. -/
  | dateTooLarge
  /-- The seconds do not fit the words that times are kept in. -/
  | timeTooLarge
deriving DecidableEq, Repr

def ClockFault.message : ClockFault → String
  | notANumber => "Invalid value NaN (not a number)"
  | noRemainder => "cannot convert float NaN to integer"
  | yearOutOfRange year => "year " ++ Decimal.ofInt year ++ " is out of range"
  | dateTooLarge => "[Errno 75] Value too large for defined data type"
  | timeTooLarge => "timestamp out of range for platform time_t"

/-- Where the values of faulty settings came from. -/
inductive SettingsOrigin
  /-- Values given by the embedding program. -/
  | direct
  | host
  | environment
deriving DecidableEq, Repr

inductive Fault
  /-- The request failed on its way. -/
  | unreachable (endpoint : Endpoint) (kind : TransportKind) (message : String)
  /-- The body of an answer is no JSON. -/
  | unreadableBody (endpoint : Endpoint) (status : Int) (error : Json.ReadError)
  /-- The body of an answer is JSON but no object. -/
  | unexpectedBody (endpoint : Endpoint)
  /-- The service account could not log in. -/
  | loginRefused (reason : String)
  | noServiceAccount
  /-- The settings name no server. -/
  | noServerUrl
  /-- A client was to be made without a server. -/
  | emptyServerUrl
  /-- A variable of the environment cannot be set. -/
  | unsettable (cause : Settings.VariableFault)
  /-- A text that the program is given holds surrogates. -/
  | unwritable (run : Text.SurrogateRun)
  /-- A text of the settings that are to be shown holds surrogates. -/
  | unshowable (run : Text.SurrogateRun)
  /-- The settings cannot be looked up. -/
  | unloadable (cause : Settings.Obstacle)
  | invalidSettings (origin : SettingsOrigin) (issues : List Settings.Issue)
  /-- The session has no attempt counter. -/
  | counterMissing
  | counterUnreadable (note : String)
  /-- The attempt counter has too many digits to be read. -/
  | counterTooLong (digits : Nat)
  | badSecret (cause : SecretFault)
  /-- A passcode was asked for at a time that the clock does not show. -/
  | clock (cause : ClockFault)
  /-- A passcode was asked for at a time before the count of time steps begins. -/
  | timeTooEarly
  /-- A waiting time was asked for before the first one. -/
  | outsideSchedule
  /-- A waiting time is longer than any the timer can wait for. -/
  | waitTooLong
  /-- A list or an object in a JSON text is nested too deep. -/
  | tooDeep (inner : Json.Container)
  /-- An object lacks a member that was taken for granted. -/
  | memberMissing (key : String)
  /-- A value that was taken for an object is of another kind. -/
  | noMembers (kind : String)
  /-- The configured log level is none. -/
  | noLevel (cause : Log.LevelError)
  /-- A failure of the network layer that is not a transport failure. -/
  | crashed (kind message : String)
  /-- The markup of an item that is to be printed is faulty. -/
  | badMarkup (reason : String)
  | noReplyLeft
  | noAnswerLeft
deriving DecidableEq

namespace Fault

/-- The categories of faults. -/
inductive Category
  | connection
  | login
  | configuration
  | session
  | value
  /-- Settings given directly are reported as they were checked. -/
  | validation
  | index
  /-- Nothing in the program handles these. -/
  | foreign (kind : String)
deriving DecidableEq, Repr

def Category.name : Category → String
  | connection => "ServerConnectionError"
  | login => "ServerAuthError"
  | configuration => "ConfigurationError"
  | session => "SessionStateError"
  | value => "ValueError"
  | validation => "ValidationError"
  | index => "IndexError"
  | foreign kind => kind

def category : Fault → Category
  | unreachable .. | unreadableBody .. | unexpectedBody .. => .connection
  | loginRefused .. => .login
  | noServiceAccount | noServerUrl | emptyServerUrl => .configuration
  | invalidSettings .direct _ => .validation
  | invalidSettings .host _ | invalidSettings .environment _ => .configuration
  | counterMissing | counterUnreadable .. => .session
  | counterTooLong .. | badSecret .. | timeTooEarly => .value
  | clock (.yearOutOfRange _) | clock .notANumber | clock .noRemainder => .value
  | unsettable .nullByte | unsettable .illegalName => .value
  | clock .dateTooLarge | unsettable .emptyName => .foreign "OSError"
  | unwritable _ | unsettable (.noBytes _) => .foreign "UnicodeEncodeError"
  | unshowable _ => .foreign "PydanticSerializationError"
  | unloadable cause => .foreign cause.className
  | clock .timeTooLarge | waitTooLong => .foreign "OverflowError"
  | outsideSchedule => .index
  | tooDeep _ => .foreign "RecursionError"
  | memberMissing _ => .foreign "KeyError"
  | noMembers _ => .foreign "AttributeError"
  | noLevel cause => .foreign cause.className
  | crashed kind _ => .foreign kind
  | badMarkup _ => .foreign "MarkupError"
  | noReplyLeft | noAnswerLeft => .foreign "ScriptExhausted"

/-- Whether the server cannot be used: it is out of reach or refuses the service account. -/
def isServer (f : Fault) : Bool :=
  match f.category with
  | .connection | .login => true
  | _ => false

def isConfiguration (f : Fault) : Bool := f.category = .configuration

/-- Whether a value is at fault; settings given directly count too. -/
def isValue (f : Fault) : Bool :=
  match f.category with
  | .value | .validation => true
  | _ => false

/-- The endpoint at which the server could not be used. -/
def endpoint? : Fault → Option Endpoint
  | unreachable e _ _ | unreadableBody e _ _ | unexpectedBody e => some e
  | _ => none

/-- The note that holds the attempt counter. -/
def counterNote : String := "pi.attempt_counter"

def message : Fault → String
  | unreachable e _ m => "Request to " ++ e.path ++ " failed: " ++ m
  | unreadableBody e status _ =>
    e.path ++ " returned a non-JSON body (HTTP " ++ Decimal.ofInt status ++ ")"
  | unexpectedBody e => e.path ++ " returned an unexpected body"
  | loginRefused reason => "Service account login failed: " ++ reason
  | noServiceAccount => "A service account (name and password) is required for this operation"
  | noServerUrl =>
    "MFABRIDGE_SERVER_URL environment variable (or host key 'piserver') is required to contact " ++
      "the MFA server"
  | emptyServerUrl => "server_url is required"
  | unsettable cause => cause.message
  | unwritable run => run.message
  | unshowable run => "Error serializing to JSON: UnicodeEncodeError: " ++ run.message
  | unloadable cause => cause.message
  | invalidSettings .direct _ => ""
  | invalidSettings .host _ => "Invalid host configuration"
  | invalidSettings .environment _ => "Invalid settings"
  | counterMissing => "Session note '" ++ counterNote ++ "' is missing; was the flow begun?"
  | counterUnreadable note =>
    "Session note '" ++ counterNote ++ "' is not a counter: " ++ Text.quoted note
  | counterTooLong n =>
    "Exceeds the limit (" ++ Decimal.ofNat Decimal.digitLimit ++
      " digits) for integer string conversion: value has " ++ Decimal.ofNat n ++
      " digits; use sys.set_int_max_str_digits() to increase the limit"
  | badSecret cause => "Invalid TOTP secret: " ++ cause.message
  | clock cause => cause.message
  | timeTooEarly => "input must be positive integer"
  | outsideSchedule => "list index out of range"
  | waitTooLong => "timestamp too large to convert to C _PyTime_t"
  | tooDeep inner =>
    "maximum recursion depth exceeded while decoding a JSON " ++ inner.name ++
      " from a unicode string"
  | memberMissing key => Text.quoted key
  | noMembers kind => "'" ++ kind ++ "' object has no attribute 'get'"
  | noLevel cause => cause.message
  | crashed _ m => m
  | badMarkup reason => reason
  | noReplyLeft => "no reply left"
  | noAnswerLeft => "no answer left"

end Fault

/-!
## Work on a state

A piece of work gives a value or fails, and changes a state on the way. What it changed before it
failed stays changed. `runFrom` is the view of it: a result and the state that is left.
-/

abbrev Work (σ : Type) : Type → Type := ExceptT Fault (StateM σ)

namespace Work

variable {σ τ α β : Type}

/-- The result from a state, and the state that is left. -/
def runFrom (x : Work σ α) (s : σ) : Except Fault α × σ := x.run.run s

/-- Gives a value, or fails with a fault. -/
def ofExcept : Except Fault α → Work σ α
  | .ok a => pure a
  | .error f => throw f

/-- Works on a part of a larger state. -/
def within (part : τ → σ) (replace : τ → σ → τ) (x : Work σ α) : Work τ α :=
  ExceptT.mk fun t =>
    let (result, s) := x.runFrom (part t)
    (result, replace t s)

@[simp] theorem runFrom_pure (a : α) (s : σ) : (pure a : Work σ α).runFrom s = (.ok a, s) := rfl

@[simp] theorem runFrom_throw (f : Fault) (s : σ) :
    (throw f : Work σ α).runFrom s = (.error f, s) := rfl

@[simp] theorem runFrom_get (s : σ) : (get : Work σ σ).runFrom s = (.ok s, s) := rfl

@[simp] theorem runFrom_modify (g : σ → σ) (s : σ) :
    (modify g : Work σ PUnit).runFrom s = (.ok ⟨⟩, g s) := rfl

@[simp] theorem runFrom_ofExcept (e : Except Fault α) (s : σ) :
    (ofExcept e : Work σ α).runFrom s = (e, s) := by
  cases e <;> rfl

@[simp] theorem runFrom_within (part : τ → σ) (replace : τ → σ → τ) (x : Work σ α) (t : τ) :
    (within part replace x).runFrom t =
      ((x.runFrom (part t)).1, replace t (x.runFrom (part t)).2) := rfl

/-- The second piece of work starts where the first one ended, unless that one failed. -/
theorem runFrom_bind (x : Work σ α) (g : α → Work σ β) (s : σ) :
    (x >>= g).runFrom s =
      match x.runFrom s with
      | (.ok a, s) => (g a).runFrom s
      | (.error f, s) => (.error f, s) := by
  have h : (x >>= g).runFrom s = (ExceptT.bindCont g (x.runFrom s).1).run (x.runFrom s).2 := rfl
  rw [h]
  rcases x.runFrom s with ⟨a | f, s⟩ <;> rfl

theorem runFrom_map (g : α → β) (x : Work σ α) (s : σ) :
    (g <$> x).runFrom s = ((x.runFrom s).1.map g, (x.runFrom s).2) := by
  rw [← bind_pure_comp, runFrom_bind]
  rcases x.runFrom s with ⟨a | f, s⟩ <;> rfl

end Work

end SecondFactor
