import SecondFactor.Log.Level
import SecondFactor.Page
import SecondFactor.Server.Message
import SecondFactor.Server.Response

/-!
# Log events

Everything that the program reports, with what it tells about it. An event never holds a passcode
or a password.
-/
namespace SecondFactor.Log

/-- What the client tells about its traffic with the server: a text, or a failure. -/
inductive Diagnostic
  | text (s : String)
  | failure (kind message : String)
deriving DecidableEq, Repr

def Diagnostic.fields : Diagnostic → List (String × Json)
  | text s => [("message", .text s)]
  | failure kind message => [("error", .text message), ("error_type", .text kind)]

inductive Event
  | requestAnswered (endpoint : Endpoint) (status : Int)
  | serverUnreachable (endpoint : Endpoint) (error : String)
  | serverError (endpoint : Endpoint) (code : Option ErrorCode)
  | accountLoggedIn (account : String)
  | tokenRolledOut (username tokenType serial : String)
  | pollerStarted (transactionId : Option String)
  | pollFailed (transactionId : Option String) (error : String)
  | pollerFinished (transactionId : Option String) (attempts : Nat)
  | pollersStopped (count : Nat)
  /-- A diagnostic about traffic that went well. -/
  | traffic (d : Diagnostic)
  /-- A diagnostic about traffic that failed. -/
  | trafficFailed (d : Diagnostic)
  | flowExcluded (username : String)
  | challengesTriggered (username : String) (count : Nat) (types : List ChallengeType)
  | tokenEnrolled (username tokenType : String)
  | flowCancelled (username : String)
  | flowSucceeded (username : String) (tokenType : TokenType)
  | otpValidated (username : String) (success : Bool) (challenges : Nat)
  | flowRetried (username : String) (tokenType : TokenType) (attempt : Int) (newChallenge : Bool)
  | pushWithoutTransaction (username : String)
  | pushPolled (username : String) (resolved : Bool)
  | passcodeGenerated (length : Nat)
  | loginExhausted (username : String) (attempts : Nat)
  | loginFailed (username error : String)
  | tokenListingFailed (username error : String)
deriving DecidableEq, Repr

namespace Event

def name : Event → String
  | requestAnswered .. => "mfa_server_request"
  | serverUnreachable .. => "mfa_server_unreachable"
  | serverError .. => "mfa_server_error_response"
  | accountLoggedIn .. => "mfa_service_account_authenticated"
  | tokenRolledOut .. => "mfa_token_rolled_out"
  | pollerStarted .. => "mfa_poller_started"
  | pollFailed .. => "mfa_poll_failed"
  | pollerFinished .. => "mfa_poller_finished"
  | pollersStopped .. => "mfa_polling_stopped"
  | traffic .. => "mfa_server_log"
  | trafficFailed .. => "mfa_server_error"
  | flowExcluded .. => "mfa_flow_excluded"
  | challengesTriggered .. => "mfa_challenges_triggered"
  | tokenEnrolled .. => "mfa_token_enrolled"
  | flowCancelled .. => "mfa_flow_cancelled"
  | flowSucceeded .. => "mfa_flow_succeeded"
  | otpValidated .. => "mfa_otp_validated"
  | flowRetried .. => "mfa_flow_retry"
  | pushWithoutTransaction .. => "mfa_push_without_transaction"
  | pushPolled .. => "mfa_push_polled"
  | passcodeGenerated .. => "totp_generated"
  | loginExhausted .. => "terminal_login_exhausted"
  | loginFailed .. => "terminal_login_failed"
  | tokenListingFailed .. => "token_listing_failed"

def level : Event → Level
  | requestAnswered .. | accountLoggedIn .. | pollerStarted .. | pollerFinished ..
  | pollersStopped .. | pushPolled .. | passcodeGenerated .. => .debug
  | tokenRolledOut .. | traffic .. | flowExcluded .. | challengesTriggered .. | tokenEnrolled ..
  | flowCancelled .. | flowSucceeded .. | otpValidated .. | flowRetried .. => .info
  | serverUnreachable .. | serverError .. | pollFailed .. | pushWithoutTransaction ..
  | loginExhausted .. => .warning
  | trafficFailed .. | loginFailed .. | tokenListingFailed .. => .error

def transactionField (transactionId : Option String) : String × Json :=
  ("transaction_id", transactionId.elim .null .text)

/-- What the event tells, by name. -/
def fields : Event → List (String × Json)
  | requestAnswered e status =>
    [("method", .text e.method.name), ("endpoint", .text e.path), ("status", .int status)]
  | serverUnreachable e error => [("endpoint", .text e.path), ("error", .text error)]
  | serverError e code => [("endpoint", .text e.path), ("code", code.elim .null ErrorCode.toJson)]
  | accountLoggedIn account => [("account", .text account)]
  | tokenRolledOut user type serial =>
    [("username", .text user), ("token_type", .text type), ("serial", .text serial)]
  | pollerStarted tx => [transactionField tx]
  | pollFailed tx error => [transactionField tx, ("error", .text error)]
  | pollerFinished tx attempts => [transactionField tx, ("attempts", .int attempts)]
  | pollersStopped count => [("pollers", .int count)]
  | traffic d | trafficFailed d => d.fields
  | flowExcluded user | flowCancelled user | pushWithoutTransaction user =>
    [("username", .text user)]
  | challengesTriggered user count types =>
    [("username", .text user), ("challenges", .int count),
      ("types", .list (types.map fun t => .text t.name))]
  | tokenEnrolled user type => [("username", .text user), ("token_type", .text type)]
  | flowSucceeded user type => [("username", .text user), ("token_type", .text type.name)]
  | otpValidated user success challenges =>
    [("username", .text user), ("success", .bool success), ("challenges", .int challenges)]
  | flowRetried user type attempt new =>
    [("username", .text user), ("token_type", .text type.name), ("attempt", .int attempt),
      ("new_challenge", .bool new)]
  | pushPolled user resolved => [("username", .text user), ("resolved", .bool resolved)]
  | passcodeGenerated length => [("code_length", .int length)]
  | loginExhausted user attempts => [("username", .text user), ("attempts", .int attempts)]
  | loginFailed user error | tokenListingFailed user error =>
    [("username", .text user), ("error", .text error)]

/-- Whether the event is a diagnostic, written only where the settings ask for it. -/
def isDiagnostic : Event → Bool
  | traffic _ | trafficFailed _ => true
  | _ => false

/-- A diagnostic where diagnostics are asked for, and nothing elsewhere. -/
def gated (enabled : Bool) (e : Event) : List Event := if enabled then [e] else []

end Event

end SecondFactor.Log
