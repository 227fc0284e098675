import SecondFactor.Decimal
import SecondFactor.Flow
import SecondFactor.Page
import SecondFactor.Passcode
import SecondFactor.Text
import SecondFactor.Text.CodePoint

/-!
# Login at a terminal

The terminal takes the place of the login page: it shows each page, asks for an answer and submits
the page's fields, until the flow ends or a number of submissions is used up. The machine it runs on
tells the time, waits and prints. It may fail to wait, or to print a text that it takes for faulty
markup, and then the login ends there.
-/
namespace SecondFactor.Terminal

/-!
## What is printed

Status and pages go to one console and data to another. What is printed is a line, a framed panel or
a table, with markup in square brackets.
-/

inductive Console
  /-- For status messages and pages. -/
  | status
  /-- For data. -/
  | data
deriving DecidableEq, Repr

inductive Item
  | line (text : String)
  | panel (text title border : String)
  | table (title : String) (columns : List String) (rows : List (List String))
deriving DecidableEq, Repr

/-- An item and where it is printed. -/
structure Printed where
  console : Console
  item : Item
deriving DecidableEq, Repr

/-- A text between an opening and a closing tag. -/
def tagged (style text : String) : String := "[" ++ style ++ "]" ++ text ++ "[/" ++ style ++ "]"

def successLine (message : String) : Item := .line (tagged "green" ("  ✓ " ++ message))

def errorLine (message : String) : Item := .line (tagged "red" ("  ✗ " ++ message))

def infoLine (message : String) : Item := .line (tagged "dim" ("  " ++ message))

/-- How many code points of an image are shown. -/
def shownImageLength : Nat := 80

/-- What a page says about the last submission. -/
def failureLines (failure : Option String) : List String :=
  ((Text.given? failure).map fun f => tagged "red" f ++ "\n").toList

/-- The prompt of the input shown first, and how to change to the other one. -/
def promptLines (page : Presentation) : List String :=
  match page.tokenType with
  | .push =>
    [tagged "bold" page.pushMessage,
      tagged "dim" ("Checking again in " ++ Decimal.ofInt page.pollingInterval ++ "s")] ++
      if page.otpTokenPresent then [tagged "dim" "Type 'otp' to enter a code instead"] else []
  | .otp =>
    tagged "bold" page.otpMessage ::
      if page.pushTokenPresent then [tagged "dim" "Type 'push' to confirm on your device instead"]
      else []

/-- The start of the image of a token that was just enrolled. -/
def enrollmentLines (page : Presentation) : List String :=
  if page.enrollmentQr.isEmpty then []
  else
    ["\n" ++ tagged "yellow" "A new token was enrolled. Scan the QR code:",
      tagged "dim" (String.ofList (Text.take shownImageLength page.enrollmentQr.toList) ++ "...")]

/-- A page as a panel, with what it says about the last submission. -/
def pagePanel (page : Presentation) (failure : Option String) : Item :=
  .panel
    ("\n".intercalate (failureLines failure ++ promptLines page ++ enrollmentLines page ++
      [tagged "dim" "Type 'cancel' to abort"]))
    "🔐 Second factor" "cyan"

/-- What a login shows. -/
inductive Showing
  | page (page : Presentation) (failure : Option String)
  | info (message : String)
deriving DecidableEq, Repr

def Showing.item : Showing → Item
  | page p failure => pagePanel p failure
  | info message => infoLine message

/-- The page, if one is shown. -/
def Showing.page? : Showing → Option Presentation
  | page p _ => some p
  | info _ => none

/-! ## Machines and dialogs -/

/-- What a login relies on. -/
structure Machine where
  /-- The time that the clock shows when it is read after so many other times. -/
  clock : Nat → Passcode.Time
  timer : Timer
  /-- Why an item cannot be printed, if its markup is faulty. -/
  markupError? : Item → Option String

namespace Machine

/-- The clock stands still, nothing waits in fact and everything is printed as it is. -/
def plain (now : Passcode.Time) : Machine := ⟨fun _ => now, .unbounded, fun _ => none⟩

/-- Prints an item. -/
def printing (m : Machine) (item : Item) : Except Fault Unit :=
  match m.markupError? item with
  | none => .ok ()
  | some reason => .error (.badMarkup reason)

/-- Waits for some seconds. -/
def waiting (m : Machine) (seconds : Int) : Except Fault Unit :=
  if m.timer.takes seconds then .ok () else .error .waitTooLong

theorem printing_of_none {m : Machine} {item : Item} (h : m.markupError? item = none) :
    m.printing item = .ok () := by
  rw [printing, h]

theorem printing_of_some {m : Machine} {item : Item} {reason : String}
    (h : m.markupError? item = some reason) : m.printing item = .error (.badMarkup reason) := by
  rw [printing, h]

end Machine

structure State where
  flow : Flow.State
  /-- The answers still to be typed. -/
  answers : List String
  prompts : List String
  /-- The seconds of each sleep, in order. -/
  sleeps : List Int
  /-- What was handed over to be printed, in order. -/
  shown : List Showing
  /-- How many times the clock was read. -/
  readings : Nat

/-- The start of a login with the answers that will be typed and the replies to come. -/
def State.start (answers : List String) (replies : List Reply) : State :=
  ⟨.start .empty replies, answers, [], [], [], 0⟩

/-- What was handed over to be printed, as it is printed. -/
def State.printed (s : State) : List Printed := s.shown.map fun x => ⟨.status, x.item⟩

/-- What a login is given. -/
structure Options where
  settings : Settings
  user : Flow.User
  /-- A secret from which passcodes are made instead of asking for them. -/
  secret : Option String
  machine : Machine

abbrev Dialog := Work State

namespace Dialog

/-- Runs a step of the flow. -/
def flow {α : Type} (x : Flow.Step α) : Dialog α :=
  Work.within (·.flow) (fun s flow => { s with flow }) x

/-- Logs an event. -/
def log (e : Log.Event) : Dialog Unit := flow (Flow.Step.log e)

def display (m : Machine) (x : Showing) : Dialog Unit := do
  modify fun s => { s with shown := s.shown ++ [x] }
  Work.ofExcept (m.printing x.item)

def sleep (m : Machine) (seconds : Int) : Dialog Unit := do
  Work.ofExcept (m.waiting seconds)
  modify fun s => { s with sleeps := s.sleeps ++ [seconds] }

/-- Reads the clock. -/
def now (m : Machine) : Dialog Passcode.Time := do
  let readings := (← get).readings
  modify fun s => { s with readings := readings + 1 }
  return m.clock readings

/-- Asks for an answer. -/
def ask (prompt : String) : Dialog String := do
  modify fun s => { s with prompts := s.prompts ++ [prompt] }
  match (← get).answers with
  | [] => throw .noAnswerLeft
  | answer :: rest =>
    modify fun s => { s with answers := rest }
    return answer

@[simp] theorem runFrom_flow {α : Type} (x : Flow.Step α) (s : State) :
    (flow x).runFrom s =
      ((x.runFrom s.flow).1, { s with flow := (x.runFrom s.flow).2 }) := rfl

@[simp] theorem runFrom_log (e : Log.Event) (s : State) :
    (log e).runFrom s =
      (.ok ⟨⟩, { s with
        flow := { s.flow with conversation := s.flow.conversation.log [e] } }) := rfl

@[simp] theorem runFrom_display (m : Machine) (x : Showing) (s : State) :
    (display m x).runFrom s = (m.printing x.item, { s with shown := s.shown ++ [x] }) := by
  simp [display, Work.runFrom_bind]

/-- A time that is too long is not slept. -/
theorem runFrom_sleep (m : Machine) (seconds : Int) (s : State) :
    (sleep m seconds).runFrom s =
      if m.timer.takes seconds then (.ok ⟨⟩, { s with sleeps := s.sleeps ++ [seconds] })
      else (.error .waitTooLong, s) := by
  unfold sleep Machine.waiting
  split <;> rfl

@[simp] theorem runFrom_now (m : Machine) (s : State) :
    (now m).runFrom s = (.ok (m.clock s.readings), { s with readings := s.readings + 1 }) := rfl

end Dialog

def cancelWord : String := "cancel"

/-- The fields of a page with some of them changed. -/
def changed (page : Presentation) (changes : List (String × String)) : Fields :=
  Entries.overlay page.submittedFields (changes.map fun c => (c.1, .single c.2))

/-- The fields when the user changes to another input. -/
def switched (page : Presentation) (type : TokenType) : Fields :=
  changed page [(Page.tokenType, type.name), (Page.tokenTypeChanged, Page.flag true)]

/-- The fields when the user cancels. -/
def cancelled (page : Presentation) : Fields := changed page [(Page.cancel, "")]

/-- The fields with a passcode. -/
def withOtp (page : Presentation) (otp : String) : Fields := changed page [(Page.otp, otp)]

/-- Waits for the user to confirm on the device, to change to the passcode or to cancel. -/
def answerPush (m : Machine) (page : Presentation) : Dialog Fields := do
  let word := Text.lower (Text.trim (← Dialog.ask "Press Enter once confirmed"))
  if word = TokenType.otp.name then return switched page .otp
  else if word = cancelWord then return cancelled page
  else
    Dialog.sleep m page.pollingInterval
    return page.submittedFields

/-- What is said when a passcode was made. -/
def codeRemark : String := "Using generated TOTP code"

/-- Answers with a passcode made from a secret at the time that the clock shows now. -/
def answerGenerated (m : Machine) (page : Presentation) (secret : String) : Dialog Fields := do
  let code ← Work.ofExcept (Passcode.generate secret (← Dialog.now m))
  Dialog.log (.passcodeGenerated code.length)
  Dialog.display m (.info codeRemark)
  return withOtp page code

/-- Asks for a passcode; the user may change to the device, if there is one, or cancel. -/
def answerOtp (page : Presentation) : Dialog Fields := do
  let answer := Text.trim (← Dialog.ask "Code")
  let word := Text.lower answer
  if word = TokenType.push.name && page.pushTokenPresent then return switched page .push
  else if word = cancelWord then return cancelled page
  else return withOtp page answer

/-- The fields to submit for a page. -/
def answerPage (o : Options) (page : Presentation) : Dialog Fields :=
  match page.tokenType, Text.given? o.secret with
  | .push, _ => answerPush o.machine page
  | .otp, some secret => answerGenerated o.machine page secret
  | .otp, none => answerOtp page

/-- Goes on from a result after `made` submissions, with at most `left` more. -/
def converse (o : Options) : (left made : Nat) → Flow.Result → Dialog (Option Flow.Outcome)
  | left, made, result =>
    match result.page?, left with
    | none, _ => return some result.outcome
    | some _, 0 => do
      Dialog.log (.loginExhausted o.user.name made)
      return none
    | some page, left + 1 => do
      Dialog.display o.machine (.page page (result.rejection?.map Flow.Rejection.message))
      let fields ← answerPage o page
      let next ← Dialog.flow (Flow.resume o.settings o.user fields)
      converse o left (made + 1) next

/-- Runs a login to its outcome; none if the submissions are used up. -/
def login (o : Options) (maxAttempts : Int) : Dialog (Option Flow.Outcome) := do
  let result ← Dialog.flow (Flow.begin o.settings o.user)
  converse o maxAttempts.toNat 0 result

end SecondFactor.Terminal
