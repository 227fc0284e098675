import SecondFactor.Json.Reader
import SecondFactor.Json.Writer

/-!
# Requests and replies

What the client sends to its server and what comes back. A request carries fields, in the address
for GET and in the body for POST. A reply is an answer with a status and a body, a failure of the
transport, or a failure that is not the transport's.
-/
namespace SecondFactor

/-!
## Endpoints

The addresses that the client calls, each with its method.
-/

inductive Method
  | get
  | post
deriving DecidableEq, Repr

def Method.name : Method → String
  | get => "GET"
  | post => "POST"

inductive Endpoint
  | auth
  | triggerChallenge
  | validateCheck
  | pollTransaction
  | tokens
  | tokenInit
deriving DecidableEq, Repr

namespace Endpoint

def path : Endpoint → String
  | auth => "/auth"
  | triggerChallenge => "/validate/triggerchallenge"
  | validateCheck => "/validate/check"
  | pollTransaction => "/validate/polltransaction"
  | tokens => "/token/"
  | tokenInit => "/token/init"

/-- What only reads is asked with GET, everything else is posted. -/
def method : Endpoint → Method
  | pollTransaction | tokens => .get
  | auth | triggerChallenge | validateCheck | tokenInit => .post

/-- Whether an endpoint is called in the name of the service account. -/
def isAdmin : Endpoint → Bool
  | triggerChallenge | tokens | tokenInit => true
  | auth | validateCheck | pollTransaction => false

end Endpoint

/-! ## Messages -/

structure Request where
  endpoint : Endpoint
  url : String
  /-- The login token sent along, if any. -/
  authorization : Option String
  timeout : Number
  verifySsl : Bool
  fields : List (String × String)
deriving DecidableEq, Repr

/-- The ways in which a request can fail on its way. -/
inductive TransportKind
  | connection
  | timeout
  | readTimeout
  | connectTimeout
  | ssl
  | proxy
  | retries
  | invalidUrl
  | missingUrl
  | missingScheme
  | invalidScheme
  | invalidProxyUrl
  | invalidHeader
  | invalidJson
  | tooManyRedirects
  | badStatus
  | brokenChunks
  | brokenContent
  | consumedStream
  | unrewindableBody
  | other
deriving DecidableEq, Repr

def TransportKind.name : TransportKind → String
  | connection => "ConnectionError"
  | timeout => "Timeout"
  | readTimeout => "ReadTimeout"
  | connectTimeout => "ConnectTimeout"
  | ssl => "SSLError"
  | proxy => "ProxyError"
  | retries => "RetryError"
  | invalidUrl => "InvalidURL"
  | missingUrl => "URLRequired"
  | missingScheme => "MissingSchema"
  | invalidScheme => "InvalidSchema"
  | invalidProxyUrl => "InvalidProxyURL"
  | invalidHeader => "InvalidHeader"
  | invalidJson => "InvalidJSONError"
  | tooManyRedirects => "TooManyRedirects"
  | badStatus => "HTTPError"
  | brokenChunks => "ChunkedEncodingError"
  | brokenContent => "ContentDecodingError"
  | consumedStream => "StreamConsumedError"
  | unrewindableBody => "UnrewindableBodyError"
  | other => "RequestException"

def TransportKind.all : List TransportKind :=
  [connection, timeout, readTimeout, connectTimeout, ssl, proxy, retries, invalidUrl, missingUrl,
    missingScheme, invalidScheme, invalidProxyUrl, invalidHeader, invalidJson, tooManyRedirects,
    badStatus, brokenChunks, brokenContent, consumedStream, unrewindableBody, other]

/-- The kind with a given name. -/
def TransportKind.ofName? (name : String) : Option TransportKind :=
  all.find? fun kind => kind.name = name

inductive Reply
  /-- An answer; its body is a JSON value or cannot be read as one. -/
  | answer (status : Int) (body : Except Json.ReadError Json)
  | lost (kind : TransportKind) (message : String)
  /-- A failure outside the transport, which nothing handles. -/
  | crashed (kind message : String)

/-!
## Recorded replies

A recording is a list of objects. One with `exc` is a request that failed; the others hold a body,
as a value under `json` or as text under `text`, and a status.
-/

namespace Reply

/-- The text under a key, or an empty one. -/
def textOf (j : Json) (key : String) : String := Json.fieldText (j.member? key)

/-- The status of a recorded answer; 200 unless it says otherwise. -/
def statusOf (j : Json) : Int :=
  match j.member? "status" with
  | some (.number (.int status)) => status
  | _ => 200

/-- The reply that an object records; a body is read with no more than `depth` lists and objects
open at once. -/
def ofJson (depth : Nat) (j : Json) : Reply :=
  match j.member? "exc", j.member? "text" with
  | some (.text kind), _ =>
    match TransportKind.ofName? kind with
    | some known => .lost known (textOf j "message")
    | none => .crashed kind (textOf j "message")
  | _, some (.text body) => .answer (statusOf j) (Json.read depth body)
  | _, _ => .answer (statusOf j) (.ok ((j.member? "json").getD .null))

/-- The replies of a recording. -/
def listOf (depth : Nat) (j : Json) : List Reply := j.items.map (ofJson depth)

end Reply

end SecondFactor
