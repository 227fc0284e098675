import SecondFactor.Client
import SecondFactor.Fault
import SecondFactor.Log.Event
import SecondFactor.Server.Message
import SecondFactor.Server.Response

/-!
# Operations of a client

An error that the server reports inside an answer is logged and otherwise treated like a rejection;
only a request that brings no object fails.
-/
namespace SecondFactor

/-!
## Conversations with the server

A conversation holds what passes between a client and its server: the replies still to come, the
requests sent and the events logged so far, and the login token, which lasts as long as the
client. An `Exchange` reads and extends a conversation; when it fails, what it sent and logged
until then stays. The replies are a script: which of them comes next does not depend on the request
that it answers, so a request that cannot be written at all is one that finds `Reply.crashed` next.
-/

structure Conversation where
  pending : List Reply
  requests : List Request
  events : List Log.Event
  /-- The login token of the service account, once there is one. -/
  token : Option String

abbrev Exchange := Work Conversation

namespace Conversation

/-- A conversation in which nothing was said, with the replies to come. -/
def ofReplies (replies : List Reply) : Conversation := ⟨replies, [], [], none⟩

/-- Adds events to the log. -/
def log (v : Conversation) (es : List Log.Event) : Conversation :=
  { v with events := v.events ++ es }

/-- Adds a request to those sent. -/
def send (v : Conversation) (r : Request) : Conversation :=
  { v with requests := v.requests ++ [r] }

/-- The conversation with what was sent and logged so far left out. -/
def fromHere (v : Conversation) : Conversation := { v with requests := [], events := [] }

end Conversation

namespace Exchange

/-- Logs an event. -/
def log (e : Log.Event) : Exchange Unit := modify fun v => v.log [e]

/-- Logs a diagnostic, if the client was asked to. -/
def diagnose (c : Client) (e : Log.Event) : Exchange Unit :=
  modify fun v => v.log (e.gated c.logging)

/-- Sends a request and takes the next reply, which may be that the request failed or could not be
written. -/
def reply (r : Request) : Exchange Reply := do
  modify fun v => v.send r
  match (← get).pending with
  | [] => throw .noReplyLeft
  | reply :: rest =>
    modify fun v => { v with pending := rest }
    return reply

@[simp] theorem runFrom_log (e : Log.Event) (v : Conversation) :
    (log e).runFrom v = (.ok ⟨⟩, v.log [e]) := rfl

@[simp] theorem runFrom_diagnose (c : Client) (e : Log.Event) (v : Conversation) :
    (diagnose c e).runFrom v = (.ok ⟨⟩, v.log (e.gated c.logging)) := rfl

/-- A request is sent even where no reply is left for it. -/
theorem runFrom_reply_nil (r : Request) {v : Conversation} (h : v.pending = []) :
    (reply r).runFrom v = (.error .noReplyLeft, v.send r) := by
  simp [reply, Work.runFrom_bind, Conversation.send, h]

theorem runFrom_reply_cons (r : Request) {v : Conversation} {first : Reply} {rest : List Reply}
    (h : v.pending = first :: rest) :
    (reply r).runFrom v = (.ok first, { v.send r with pending := rest }) := by
  simp [reply, Work.runFrom_bind, Work.runFrom_map, Except.map, Conversation.send, h]

end Exchange

/-!
## Requests

A request either brings an object or fails. Requests to the endpoints of the service account carry
a login token, which the client fetches once and keeps; a login that fails keeps nothing.
-/

namespace Client

/-- Says that an answer with a status came in. -/
def answeredText (endpoint : Endpoint) (status : Int) : String :=
  endpoint.method.name ++ " " ++ endpoint.path ++ " -> HTTP " ++ Decimal.ofInt status

/-- The request to an endpoint, with a login token or without. -/
def requestTo (c : Client) (endpoint : Endpoint) (authorization : Option String)
    (fields : List (String × String)) : Request :=
  { endpoint
    url := c.serverUrl ++ endpoint.path
    authorization
    timeout := c.timeout
    verifySsl := c.verifySsl
    fields }

/-- Makes of a reply the object it brings. -/
def receive (c : Client) (endpoint : Endpoint) : Reply → Exchange Json
  | .lost kind message => do
    Exchange.log (.serverUnreachable endpoint message)
    Exchange.diagnose c (.trafficFailed (.failure kind.name message))
    throw (.unreachable endpoint kind message)
  | .crashed kind message => throw (.crashed kind message)
  | .answer status body => do
    Exchange.log (.requestAnswered endpoint status)
    Exchange.diagnose c (.traffic (.text (answeredText endpoint status)))
    match body with
    | .error (.tooDeep inner) => throw (.tooDeep inner)
    | .error e =>
      let fault := Fault.unreadableBody endpoint status e
      Exchange.diagnose c (.trafficFailed (.text fault.message))
      throw fault
    | .ok (.object es) => return .object es
    | .ok _ => throw (.unexpectedBody endpoint)

/-- Sends a request and makes an object of the reply. -/
def send (c : Client) (endpoint : Endpoint) (authorization : Option String)
    (fields : List (String × String)) : Exchange Json := do
  receive c endpoint (← Exchange.reply (requestTo c endpoint authorization fields))

/-- The token in the answer to a login: a text that is not empty, in an answer whose status counts
as given. -/
def tokenOf? (body : Json) : Option String :=
  let result := Response.part body "result"
  match result.member? "status", (Response.part result "value").member? "token" with
  | some status, some (.text token) =>
    if status.isTruthy && !token.isEmpty then some token else none
  | _, _ => none

/-- Why a login was refused, as far as the answer tells. -/
def refusalOf (body : Json) : String :=
  let error := Response.part (Response.part body "result") "error"
  ((error.member? "message").map Json.shown).getD "no token in response"

/-- The fields of a login. -/
def loginFields (c : Client) (name password : String) : List (String × String) :=
  [("username", name), ("password", password)] ++
    ((Text.given? c.account.realm).map fun realm => ("realm", realm)).toList

/-- Logs the service account in, unless it is logged in already. -/
def login (c : Client) : Exchange String := do
  match (← get).token with
  | some token => return token
  | none =>
    match c.credentials? with
    | none => throw .noServiceAccount
    | some (name, password) =>
      let body ← send c .auth none (loginFields c name password)
      match tokenOf? body with
      | none =>
        let fault := Fault.loginRefused (refusalOf body)
        Exchange.diagnose c (.trafficFailed (.text fault.message))
        throw fault
      | some token =>
        Exchange.log (.accountLoggedIn name)
        modify fun v => { v with token := some token }
        return token

/-- Calls an endpoint, in the name of the service account where the endpoint wants it. -/
def call (c : Client) (endpoint : Endpoint) (fields : List (String × String)) : Exchange Json := do
  if endpoint.isAdmin then
    let token ← login c
    send c endpoint (some token) fields
  else send c endpoint none fields

end Client

/-! ## Operations -/

namespace Client

/-- How an error code stands in a diagnostic. -/
def shownCode (code : Option ErrorCode) : String := (code.elim .null ErrorCode.toJson : Json).shown

/-- The response in an answer; an error in it is logged. -/
def responseOf (c : Client) (endpoint : Endpoint) (body : Json) : Exchange Response := do
  let r := Response.ofJson body
  if r.isError then
    Exchange.log (.serverError endpoint r.errorCode)
    Exchange.diagnose c (.trafficFailed (.text
      (endpoint.path ++ " error " ++ shownCode r.errorCode ++ ": " ++ r.errorMessage)))
  return r

/-- Triggers all challenges of a user's tokens. -/
def trigger (c : Client) (username : String) : Exchange Response := do
  let body ← call c .triggerChallenge (c.withRealm [("user", username)])
  responseOf c .triggerChallenge body

/-- The fields of a validation; a transaction that is given and not empty goes along. -/
def validateFields (c : Client) (username otp : String) (transactionId : Option String) :
    List (String × String) :=
  c.withRealm [("user", username), ("pass", otp)] ++
    ((Text.given? transactionId).map fun t => ("transaction_id", t)).toList

/-- Validates a passcode. An empty one with a transaction finishes a transaction that was confirmed
on the device. -/
def validate (c : Client) (username otp : String) (transactionId : Option String) :
    Exchange Response := do
  let body ← call c .validateCheck (validateFields c username otp transactionId)
  responseOf c .validateCheck body

/-- Whether a transaction was confirmed on the device. -/
def poll (c : Client) (transactionId : Option String) : Exchange Bool := do
  match Text.given? transactionId with
  | none =>
    Exchange.diagnose c (.trafficFailed (.text "Cannot poll a transaction without transaction id"))
    return false
  | some t =>
    let body ← call c .pollTransaction [("transaction_id", t)]
    let r ← responseOf c .pollTransaction body
    return r.status && r.value

/-- The result of an answer, which is taken for an object without looking. -/
def resultOf (body : Json) : Except Fault Json :=
  match body.member? "result" with
  | none => .error (.memberMissing "result")
  | some (.object es) => .ok (.object es)
  | some j => .error (.noMembers j.kindName)

/-- The tokens of a user; none if the server reports an error. -/
def tokens (c : Client) (username : String) : Exchange (List TokenInfo) := do
  let body ← call c .tokens (c.withRealm [("user", username)])
  let r ← responseOf c .tokens body
  if r.isError then return []
  else return TokenInfo.ofResult (← Work.ofExcept (resultOf body))

/-- Enrolls a token of a given type with a key that the server makes. -/
def rollout (c : Client) (username tokenType : String) : Exchange Rollout := do
  let body ← call c .tokenInit
    (c.withRealm [("user", username), ("type", tokenType), ("genkey", "1")])
  discard (responseOf c .tokenInit body)
  let r := Rollout.ofJson tokenType body
  Exchange.log (.tokenRolledOut username tokenType r.serial)
  return r

end Client

end SecondFactor
