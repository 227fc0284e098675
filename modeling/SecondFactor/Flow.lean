import SecondFactor.Client.Operations
import SecondFactor.Page
import SecondFactor.Session

/-!
# The flow of the second factor

The flow begins with a first page, or without one, and goes on with a submission of each page until
one of them ends it. Between two steps only the notes of the session remain.
-/
namespace SecondFactor.Flow

/-!
## Results of a step

A step either ends the flow or shows a page. After a failed submission the page may say why.
-/

/-- The user, who has passed the first factor. -/
structure User where
  name : String
  groups : List String
deriving DecidableEq, Repr

/-- Whether a user in the first groups is exempt because one of them is among the second. -/
def isExcluded (groups excluded : List String) : Bool := groups.any excluded.contains

theorem isExcluded_iff {groups excluded : List String} :
    isExcluded groups excluded = true ↔ ∃ g ∈ groups, g ∈ excluded := by
  simp [isExcluded]

/-- What a host does with the result of a step. -/
inductive Outcome
  | success
  | challenge
  | failureChallenge
  | cancelled
deriving DecidableEq, Repr

def Outcome.name : Outcome → String
  | success => "success"
  | challenge => "challenge"
  | failureChallenge => "failure_challenge"
  | cancelled => "cancelled"

/-- Whether the flow is over. -/
def Outcome.isTerminal : Outcome → Bool
  | success | cancelled => true
  | challenge | failureChallenge => false

/-- Why a submission did not get through. -/
inductive Rejection
  /-- The device has not confirmed yet. -/
  | notVerified
  /-- The passcode was not accepted. -/
  | failed
deriving DecidableEq, Repr

def Rejection.message : Rejection → String
  | notVerified => "Authentication not verified yet."
  | failed => "Authentication failed."

/-- The rejection that goes with an input of the page. -/
def Rejection.of : TokenType → Rejection
  | .push => notVerified
  | .otp => failed

inductive Result
  | success
  | cancelled
  | challenge (page : Presentation)
  | failureChallenge (page : Presentation) (reason : Option Rejection)
deriving DecidableEq, Repr

namespace Result

def outcome : Result → Outcome
  | success => .success
  | cancelled => .cancelled
  | challenge _ => .challenge
  | failureChallenge _ _ => .failureChallenge

/-- The page to show. -/
def page? : Result → Option Presentation
  | challenge page | failureChallenge page _ => some page
  | success | cancelled => none

/-- What the page says about the last submission. -/
def rejection? : Result → Option Rejection
  | failureChallenge _ reason => reason
  | success | cancelled | challenge _ => none

/-- A step shows a page exactly when it does not end the flow. -/
theorem isSome_page? (r : Result) : r.page?.isSome = !r.outcome.isTerminal := by
  cases r <;> rfl

end Result

/-!
## Steps

A step works on the notes of the session and on the client, which is built from the settings when
it is first needed. When a step fails, what it did until then stays.
-/

structure State where
  notes : Notes
  conversation : Conversation
  client : Option Client
  /-- How many times a client was asked for where there was none. -/
  builds : Nat

/-- The start of a flow with the notes of a session and the replies to come. -/
def State.start (notes : Notes) (replies : List Reply) : State :=
  ⟨notes, .ofReplies replies, none, 0⟩

abbrev Step := Work State

namespace Step

/-- Runs an exchange of the client with the server. -/
def exchange {α : Type} (x : Exchange α) : Step α :=
  Work.within (·.conversation) (fun s conversation => { s with conversation }) x

/-- Logs an event. -/
def log (e : Log.Event) : Step Unit := exchange (Exchange.log e)

/-- The client, built now if there is none. -/
def client (settings : Settings) : Step Client := do
  match (← get).client with
  | some c => return c
  | none =>
    modify fun s => { s with builds := s.builds + 1 }
    let c ← Work.ofExcept (Client.ofSettings settings)
    modify fun s => { s with client := some c }
    return c

/-- Changes the notes of the session. -/
def updateNotes (f : Notes → Notes) : Step Unit := modify fun s => { s with notes := f s.notes }

/-- The attempt in the notes of the session. -/
def attempt : Step Attempt := do
  Work.ofExcept (Attempt.load (← get).notes)

@[simp] theorem runFrom_log (e : Log.Event) (s : State) :
    (log e).runFrom s = (.ok ⟨⟩, { s with conversation := s.conversation.log [e] }) := rfl

@[simp] theorem runFrom_exchange {α : Type} (x : Exchange α) (s : State) :
    (exchange x).runFrom s =
      ((x.runFrom s.conversation).1,
        { s with conversation := (x.runFrom s.conversation).2 }) := rfl

@[simp] theorem runFrom_updateNotes (f : Notes → Notes) (s : State) :
    (updateNotes f).runFrom s = (.ok ⟨⟩, { s with notes := f s.notes }) := rfl

@[simp] theorem runFrom_attempt (s : State) :
    attempt.runFrom s = (Attempt.load s.notes, s) := by
  simp [attempt, Work.runFrom_bind]

theorem runFrom_client_some (settings : Settings) {s : State} {c : Client}
    (h : s.client = some c) : (client settings).runFrom s = (.ok c, s) := by
  simp [client, Work.runFrom_bind, h]

/-- Building a client changes neither the notes nor the conversation. -/
theorem runFrom_client_none (settings : Settings) {s : State} (h : s.client = none) :
    (client settings).runFrom s =
      match Client.ofSettings settings with
      | .ok c => (.ok c, { s with client := some c, builds := s.builds + 1 })
      | .error f => (.error f, { s with builds := s.builds + 1 }) := by
  cases hc : Client.ofSettings settings <;>
    simp [client, Work.runFrom_bind, Work.runFrom_map, Except.map, h, hc]

end Step

/-!
## Beginning

A user in an excluded group needs no second factor. Everybody else gets a page; where the settings
ask for it, challenges are triggered first and a token is enrolled for a user who has none.
-/

/-- Triggers the user's challenges; gives the transaction and the prompts for the page. -/
def triggered (settings : Settings) (user : User) : Step (Option String × Prompts) := do
  let c ← Step.client settings
  let r ← Step.exchange (c.trigger user.name)
  Step.log (.challengesTriggered user.name r.challenges.length r.triggeredTypes)
  return (Text.given? (some r.transactionId), .ofChallenges r.challenges)

/-- Enrolls a token for a user who has none; gives the image to show for it, or nothing. -/
def enrolled (settings : Settings) (user : User) : Step String := do
  let c ← Step.client settings
  let tokens ← Step.exchange (c.tokens user.name)
  if tokens.isEmpty then
    let r ← Step.exchange (c.rollout user.name settings.enrollingTokenType)
    Step.log (.tokenEnrolled user.name settings.enrollingTokenType)
    return r.qrImage
  else return ""

/-- The first page of a login. -/
def firstPage (settings : Settings) (prompts : Prompts) (enrollmentQr : String) : Presentation :=
  { tokenType := prompts.tokenType
    pushMessage := prompts.pushMessage
    otpMessage := prompts.otpMessage
    pushTokenPresent := prompts.pushTokenPresent
    otpTokenPresent := prompts.otpTokenPresent
    enrollmentQr
    pollingInterval := settings.schedule.clamped 0 }

/-- Begins the second factor of a user. -/
def begin (settings : Settings) (user : User) : Step Result := do
  if isExcluded user.groups settings.excludedGroups then
    Step.log (.flowExcluded user.name)
    return .success
  else
    let (transactionId, prompts) ←
      if settings.triggerChallenge then triggered settings user
      else pure (none, Prompts.ofChallenges [])
    let enrollmentQr ← if settings.enrollToken then enrolled settings user else pure ""
    Step.updateNotes (Attempt.fresh transactionId).save
    return .challenge (firstPage settings prompts enrollmentQr)

/-!
## Taking a submission

A submission cancels the login, asks whether the device has confirmed, or brings a passcode. One
that does not get through counts as an attempt and leads to the next page. The answer to a passcode
may bring new challenges, which replace the transaction and the prompts.
-/

/-- Whether the device has confirmed the transaction and the server accepts it. -/
def pushAccepted (settings : Settings) (user : User) (attempt : Attempt) : Step Bool := do
  match Text.given? attempt.transactionId with
  | none =>
    Step.log (.pushWithoutTransaction user.name)
    return false
  | some t =>
    let c ← Step.client settings
    let resolved ← Step.exchange (c.poll (some t))
    Step.log (.pushPolled user.name resolved)
    if resolved then
      let r ← Step.exchange (c.validate user.name "" (some t))
      return r.success
    else return false

/-- Goes over to the transaction of new challenges. Without one, the old one is forgotten too. -/
def adopt (attempt : Attempt) (r : Response) : Step Attempt := do
  let next := attempt.withTransaction (some r.transactionId)
  Step.updateNotes next.save
  if next.transactionId.isNone then
    Step.updateNotes fun notes => notes.remove Attempt.transactionNote
  return next

/-- The prompt for the device: of the first new challenge for it, or else the one shown before. -/
def pushPrompt (form : Submission) (batch : List Challenge) : String :=
  match batch.find? Challenge.isPush with
  | some challenge => challenge.message
  | none => form.pushMessage.getD defaultPushMessage

/-- The next page. `answer` is the response that brought new challenges, if one did. -/
def nextPage (settings : Settings) (form : Submission) (answer : Option Response) (counter : Int) :
    Presentation :=
  let batch := answer.elim [] (·.challenges)
  { tokenType := form.tokenType
    pushMessage := pushPrompt form batch
    otpMessage := match answer with
      | some r => r.message
      | none => form.otpMessage.getD defaultOtpMessage
    pushTokenPresent := form.pushTokenPresent || batch.any Challenge.isPush
    otpTokenPresent := form.otpTokenPresent
    enrollmentQr := form.enrollmentQr
    pollingInterval := settings.schedule.clamped counter }

/-- What the next page says: nothing when the user only switched inputs or new challenges came. -/
def reasonFor (form : Submission) (answer : Option Response) : Option Rejection :=
  if form.tokenTypeChanged || answer.isSome then none else some (.of form.tokenType)

/-- Counts the submission as an attempt and shows the next page. -/
def retry (settings : Settings) (user : User) (form : Submission) (attempt : Attempt)
    (answer : Option Response) : Step Result := do
  let attempt := attempt.advance settings.schedule.length
  Step.updateNotes attempt.save
  Step.log (.flowRetried user.name form.tokenType attempt.counter answer.isSome)
  return .failureChallenge (nextPage settings form answer attempt.counter) (reasonFor form answer)

/-- Takes a submission that asks whether the device has confirmed. -/
def resumePush (settings : Settings) (user : User) (form : Submission) (attempt : Attempt) :
    Step Result := do
  if ← pushAccepted settings user attempt then
    Step.log (.flowSucceeded user.name .push)
    return .success
  else retry settings user form attempt none

/-- Takes a submission with a passcode. -/
def resumeOtp (settings : Settings) (user : User) (form : Submission) (attempt : Attempt) :
    Step Result := do
  let c ← Step.client settings
  let r ← Step.exchange (c.validate user.name form.otp none)
  Step.log (.otpValidated user.name r.success r.challenges.length)
  let attempt ← if r.hasChallenges then adopt attempt r else pure attempt
  if r.success then
    Step.log (.flowSucceeded user.name .otp)
    return .success
  else retry settings user form attempt (if r.hasChallenges then some r else none)

/-- Takes a submission of the page. -/
def resume (settings : Settings) (user : User) (fields : Fields) : Step Result := do
  let form := Submission.ofFields fields
  if form.cancelled then
    Step.log (.flowCancelled user.name)
    return .cancelled
  else
    let attempt ← Step.attempt
    match form.tokenType with
    | .push => resumePush settings user form attempt
    | .otp => resumeOtp settings user form attempt

end SecondFactor.Flow
