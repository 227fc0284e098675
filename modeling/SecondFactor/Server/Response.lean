import SecondFactor.Json.Writer

/-!
# Responses of the server

What is read out of the object that a request brings. Whatever is missing or of the wrong kind
counts as empty.
-/
namespace SecondFactor

/-!
## Challenges

A challenge asks the user for a confirmation on a device or for a one-time passcode. Kinds that are
not known are kept apart instead of passing for one of the known ones.
-/

inductive ChallengeType
  | push
  | hotp
  | totp
  | unrecognized
deriving DecidableEq, Repr

namespace ChallengeType

def name : ChallengeType → String
  | push => "push"
  | hotp => "hotp"
  | totp => "totp"
  | unrecognized => "unrecognized"

/-- The kind that a text names exactly. -/
def ofText (s : String) : ChallengeType :=
  if s = "push" then push
  else if s = "hotp" then hotp
  else if s = "totp" then totp
  else unrecognized

/-- The kind that a value names; only texts name one. -/
def ofJson : Json → ChallengeType
  | .text s => ofText s
  | _ => unrecognized

/-- Whether a passcode answers the challenge. -/
def isOtp : ChallengeType → Bool
  | hotp | totp => true
  | push | unrecognized => false

end ChallengeType

structure Challenge where
  type : ChallengeType
  message : String
  /-- The kind as the server wrote it. -/
  rawType : String
  serial : String
  transactionId : String
  image : String
deriving DecidableEq, Repr

namespace Challenge

/-- The challenge that an object describes. -/
def ofJson (j : Json) : Challenge :=
  let field := fun key => Json.fieldText (j.member? key)
  { type := .ofText (field "type")
    message := field "message"
    rawType := field "type"
    serial := field "serial"
    transactionId := field "transaction_id"
    image := field "image" }

/-- Whether the challenge is confirmed on a device. -/
def isPush (c : Challenge) : Bool := c.type = .push

end Challenge

/-!
## Responses to a trigger or a validation

The envelope has a `result`, which tells whether the request was handled and whether the user
passed, and a `detail` with a message, a transaction and new challenges.
-/

/-- A server's code for an error: an integer, or a truth value in its place. -/
inductive ErrorCode
  | int (i : Int)
  | flag (b : Bool)
deriving DecidableEq, Repr

namespace ErrorCode

def ofJson? : Json → Option ErrorCode
  | .number (.int i) => some (int i)
  | .bool b => some (flag b)
  | _ => none

def toJson : ErrorCode → Json
  | int i => .int i
  | flag b => .bool b

end ErrorCode

structure Response where
  /-- Whether the server handled the request. -/
  status : Bool
  /-- Whether the user passed. -/
  value : Bool
  authentication : String
  message : String
  transactionId : String
  challenges : List Challenge
  errorCode : Option ErrorCode
  errorMessage : String
deriving DecidableEq, Repr

namespace Response

/-- Whether a member is the truth value true, not merely something that counts as true. -/
def isTrue (j : Option Json) : Bool :=
  match j with
  | some (.bool true) => true
  | _ => false

/-- A member as an object; anything else is an empty one. -/
def part (j : Json) (key : String) : Json := .object ((j.member? key).elim [] Json.entries)

/-- The challenges of a reply's detail. -/
def challengesOf (detail : Json) : List Challenge :=
  (((detail.member? "multi_challenge").elim [] Json.items).filter Json.isObject).map
    Challenge.ofJson

/-- The message of a reply's detail, or else its list of messages in one line. -/
def messageOf (detail : Json) : String :=
  let message := Json.fieldText (detail.member? "message")
  if message.isEmpty then
    ", ".intercalate (((detail.member? "messages").elim [] Json.items).map
      fun m => Json.fieldText (some m))
  else message

/-- The response that a reply's body describes. -/
def ofJson (body : Json) : Response :=
  let result := part body "result"
  let detail := part body "detail"
  let error := part result "error"
  { status := isTrue (result.member? "status")
    value := isTrue (result.member? "value")
    authentication := Json.fieldText (result.member? "authentication")
    message := messageOf detail
    transactionId := Json.fieldText (detail.member? "transaction_id")
    challenges := challengesOf detail
    errorCode := (error.member? "code").bind ErrorCode.ofJson?
    errorMessage := Json.fieldText (error.member? "message") }

/-- Whether the user is authenticated. -/
def success (r : Response) : Bool := r.value

/-- Whether the server reported an error instead of a result. -/
def isError (r : Response) : Bool := !r.status

def hasChallenges (r : Response) : Bool := !r.challenges.isEmpty

/-- The kinds of the challenges, each once, in the order of their first appearance. -/
def triggeredTypes (r : Response) : List ChallengeType :=
  (r.challenges.map (·.type)).foldl (fun ts t => if ts.contains t then ts else ts ++ [t]) []

def pushChallenges (r : Response) : List Challenge := r.challenges.filter Challenge.isPush

end Response

/-!
## Tokens of a user

The tokens that a listing names, and what the server hands out for a new one.
-/

structure TokenInfo where
  serial : String
  tokenType : String
  active : Bool
  description : String
  rolloutState : String
  username : String
deriving DecidableEq, Repr

namespace TokenInfo

/-- The token that an object describes; it is active unless it says otherwise. -/
def ofJson (j : Json) : TokenInfo :=
  let field := fun key => Json.fieldText (j.member? key)
  { serial := field "serial"
    tokenType := field "tokentype"
    active := match j.member? "active" with
      | some (.bool b) => b
      | _ => true
    description := field "description"
    rolloutState := field "rollout_state"
    username := field "username" }

def toJson (t : TokenInfo) : Json :=
  .object
    [("serial", .text t.serial), ("token_type", .text t.tokenType), ("active", .bool t.active),
      ("description", .text t.description), ("rollout_state", .text t.rolloutState),
      ("username", .text t.username)]

/-- The tokens that the result of a listing names. -/
def ofResult (result : Json) : List TokenInfo :=
  let value := Response.part result "value"
  (((value.member? "tokens").elim [] Json.items).filter Json.isObject).map ofJson

/-- The tokens in the body of a listing. -/
def listOf (body : Json) : List TokenInfo := ofResult (Response.part body "result")

end TokenInfo

structure Rollout where
  serial : String
  tokenType : String
  /-- The image that an authenticator scans. -/
  qrImage : String
  otpKeyImage : String
deriving DecidableEq, Repr

namespace Rollout

/-- The new token of a given type that a reply's body describes. -/
def ofJson (tokenType : String) (body : Json) : Rollout :=
  let detail := Response.part body "detail"
  { serial := Json.fieldText (detail.member? "serial")
    tokenType
    qrImage := Json.fieldText ((Response.part detail "googleurl").member? "img")
    otpKeyImage := Json.fieldText ((Response.part detail "otpkey").member? "img") }

end Rollout

end SecondFactor
