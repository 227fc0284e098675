import SecondFactor.Json
import SecondFactor.Server.Response

/-!
# The login page

The page asks for a confirmation on a device or for a passcode. Nothing about it is kept by the
server: all of it comes back with every submission.
-/
namespace SecondFactor

/-!
## Prompts

The page has an input for confirmation on a device and one for a passcode. A batch of challenges
gives each its prompt, and shows the first one when a device is among them.
-/

/-- Which input of the page is shown first. -/
inductive TokenType
  | push
  | otp
deriving DecidableEq, Repr

namespace TokenType

def name : TokenType → String
  | push => "push"
  | otp => "otp"

/-- The input that a submitted text names; anything but "push" means the passcode. -/
def ofText (s : Option String) : TokenType := if s = some push.name then push else otp

@[simp] theorem ofText_name (t : TokenType) : ofText (some t.name) = t := by
  cases t <;> decide

end TokenType

def defaultPushMessage : String := "Please confirm the authentication on your mobile device!"

def defaultOtpMessage : String := "Please enter the OTP!"

/-- Messages in one line. -/
def joinMessages (messages : List String) : String := ", ".intercalate messages

structure Prompts where
  pushMessage : String
  otpMessage : String
  pushTokenPresent : Bool
  /-- A passcode can always be entered. -/
  otpTokenPresent : Bool
deriving DecidableEq, Repr

namespace Prompts

/-- The messages in one line, or a default if there are none. -/
def joinedOr (default : String) (messages : List String) : String :=
  if messages.isEmpty then default else joinMessages messages

/-- The prompts for a batch of challenges; kinds that are not known are left out. -/
def ofChallenges (batch : List Challenge) : Prompts :=
  let push := (batch.filter Challenge.isPush).map (·.message)
  let otp := (batch.filter (·.type.isOtp)).map (·.message)
  { pushMessage := joinedOr defaultPushMessage push
    otpMessage := joinedOr defaultOtpMessage otp
    pushTokenPresent := !push.isEmpty
    otpTokenPresent := true }

/-- The input to show first. -/
def tokenType (p : Prompts) : TokenType := if p.pushTokenPresent then .push else .otp

end Prompts

/-!
## The page and its form

A page is shown from a `Presentation` and sends all of it back in hidden fields, together with what
the user entered. A field may come with several values, of which the first counts, or with none.
-/

namespace Page

def template : String := "mfabridge.html"

def pollingInterval : String := "pushtokenInterval"
def enrollmentQr : String := "tokenEnrollmentQR"
def tokenType : String := "tokenType"
def pushToken : String := "pushToken"
def otpToken : String := "otpToken"
def pushMessage : String := "pushMessage"
def otpMessage : String := "otpMessage"
def tokenTypeChanged : String := "tokenTypeChanged"
def otp : String := "pi_otp"
def cancel : String := "cancel"

/-- A truth value as it stands in a field. -/
def flag (b : Bool) : String := if b then "true" else "false"

/-- Whether a field holds the word "true". -/
def isTrue (value : Option String) : Bool := value = some "true"

@[simp] theorem isTrue_flag (b : Bool) : isTrue (some (flag b)) = b := by
  cases b <;> decide

end Page

/-- What a page shows. -/
structure Presentation where
  tokenType : TokenType
  pushMessage : String
  otpMessage : String
  pushTokenPresent : Bool
  otpTokenPresent : Bool
  /-- The image of a token that was just enrolled, or nothing. -/
  enrollmentQr : String
  /-- The seconds after which a page waiting for a device submits itself. -/
  pollingInterval : Int
deriving DecidableEq, Repr

/-- A value of a submitted field: one text, or several, each of which may be missing. -/
inductive FieldValue
  | missing
  | single (s : String)
  | many (values : List (Option String))
deriving DecidableEq, Repr

/-- The first value of a field. -/
def FieldValue.first : FieldValue → Option String
  | missing => none
  | single s => some s
  | many values => values.head?.join

/-- The submitted fields by name. -/
abbrev Fields := List (String × FieldValue)

/-- The first value of a field, if it was submitted. -/
def Fields.first (fields : Fields) (name : String) : Option String :=
  (fields.lookup name).bind FieldValue.first

namespace Presentation

/-- The hidden fields that the page sends back. -/
def formFields (p : Presentation) : List (String × String) :=
  [(Page.enrollmentQr, p.enrollmentQr),
    (Page.tokenType, p.tokenType.name),
    (Page.pushToken, Page.flag p.pushTokenPresent),
    (Page.otpToken, Page.flag p.otpTokenPresent),
    (Page.pushMessage, p.pushMessage),
    (Page.otpMessage, p.otpMessage),
    (Page.tokenTypeChanged, Page.flag false)]

/-- The values that the page's template is filled with. -/
def attributes (p : Presentation) : List (String × Json) :=
  [(Page.pollingInterval, .int p.pollingInterval),
    (Page.enrollmentQr, .text p.enrollmentQr),
    (Page.tokenType, .text p.tokenType.name),
    (Page.pushToken, .bool p.pushTokenPresent),
    (Page.otpToken, .bool p.otpTokenPresent),
    (Page.pushMessage, .text p.pushMessage),
    (Page.otpMessage, .text p.otpMessage)]

/-- The hidden fields as they arrive with a submission. -/
def submittedFields (p : Presentation) : Fields := p.formFields.map fun f => (f.1, .single f.2)

end Presentation

/-- A submission of the page. -/
structure Submission where
  /-- The cancel field was there, whatever it held. -/
  cancelled : Bool
  tokenType : TokenType
  pushTokenPresent : Bool
  otpTokenPresent : Bool
  pushMessage : Option String
  otpMessage : Option String
  /-- The user switched to the other input. -/
  tokenTypeChanged : Bool
  otp : String
  enrollmentQr : String
deriving DecidableEq, Repr

namespace Submission

def ofFields (fields : Fields) : Submission :=
  { cancelled := (fields.lookup Page.cancel).isSome
    tokenType := .ofText (fields.first Page.tokenType)
    pushTokenPresent := Page.isTrue (fields.first Page.pushToken)
    otpTokenPresent := Page.isTrue (fields.first Page.otpToken)
    pushMessage := fields.first Page.pushMessage
    otpMessage := fields.first Page.otpMessage
    tokenTypeChanged := Page.isTrue (fields.first Page.tokenTypeChanged)
    otp := (fields.first Page.otp).getD ""
    enrollmentQr := (fields.first Page.enrollmentQr).getD "" }

end Submission

end SecondFactor
