import SecondFactor.CommandLine.Run
import SecondFactor.Proofs.Terminal.Endings
import SecondFactor.Proofs.Terminal.Waits

/-!
# The login command

The command makes one login of its words, the settings and what is typed. Its exit code says whether
the user was let in and told so; why a user was not is printed, unless nothing more was typed or the
fault is one that nothing handles. What is printed last may itself be taken for faulty markup, and
that is a fault that nothing handles either.
-/
namespace SecondFactor.CommandLine

open Terminal (login State Course Machine)

/-- The login that the command makes. -/
def loginOf (input : Input) (settings : Settings) (username : String) (groups : List String)
    (secret : Option String) (maxAttempts : Int) : Except Fault (Option Flow.Outcome) :=
  ((login ⟨settings, ⟨username, groups⟩, secret, input.machine⟩ maxAttempts).runFrom
    (.fresh (.start .empty input.replies) (Text.lines input.typed))).1

/-- Faults that the command reports: the server's, the configuration's and those of a value. -/
def IsReported (f : Fault) : Prop := (f.isServer || f.isConfiguration || f.isValue) = true

/-- The last thing that is handed over to be printed is this item, and nothing else goes wrong. -/
structure EndsWith (m : Machine) (outcome : Outcome) (item : Terminal.Item) : Prop where
  last : ∃ before, outcome.printed = before ++ [⟨.status, item⟩]
  escaped : outcome.escaped = (m.markupError? item).map Fault.badMarkup

namespace Outcome

variable {o : Outcome} {m : Machine} {item : Terminal.Item}

theorem endsWith_print (h : o.escaped = none) : EndsWith m (o.print m .status item) item := by
  unfold print
  cases hbad : m.markupError? item with
  | none =>
    rw [Machine.printing_of_none hbad]
    exact ⟨⟨o.printed, rfl⟩, by rw [hbad]; exact h⟩
  | some reason =>
    rw [Machine.printing_of_some hbad]
    exact ⟨⟨o.printed, rfl⟩, by rw [hbad]; rfl⟩

/-- Printing changes an exit code only where it fails. -/
theorem exitCode_print (o : Outcome) (m : Machine) (console : Terminal.Console)
    (item : Terminal.Item) :
    (o.print m console item).exitCode =
      if m.markupError? item = none then o.exitCode else failureCode := by
  unfold print
  cases hbad : m.markupError? item with
  | none =>
    rw [Machine.printing_of_none hbad]
    rfl
  | some reason =>
    rw [Machine.printing_of_some hbad]
    rfl

theorem endsWith_fail (h : o.escaped = none) (message : String) :
    EndsWith m (o.fail m message) (Terminal.errorLine message) := endsWith_print h

theorem exitCode_fail (o : Outcome) (m : Machine) (message : String) :
    (o.fail m message).exitCode = 1 := by
  rw [fail, exitCode_print, ite_self]
  rfl

end Outcome

/-- What the command makes of a login. -/
structure Exits (m : Machine) (username : String) (maxAttempts : Int)
    (result : Except Fault (Option Flow.Outcome)) (outcome : Outcome) : Prop where
  zero : outcome.exitCode = 0 ↔
    result = .ok (some .success) ∧ m.markupError? (welcome username) = none
  one : outcome.exitCode ≠ 0 → outcome.exitCode = 1
  letIn : result = .ok (some .success) → EndsWith m outcome (welcome username)
  cancelled : result = .ok (some .cancelled) →
    EndsWith m outcome (Terminal.errorLine "Login cancelled")
  exhausted : result = .ok none → EndsWith m outcome (Terminal.errorLine
    ("No second factor confirmed after " ++ Decimal.ofInt maxAttempts ++ " attempt(s)"))
  reported : ∀ f, result = .error f → IsReported f →
    EndsWith m outcome (Terminal.errorLine f.message)
  unhandled : ∀ f, result = .error f → ¬ IsReported f →
    outcome.escaped = if f = .noAnswerLeft then none else some f

/-- Ending by an outcome fails unless the user was let in and told so. -/
theorem exits_endLogin {m : Machine} {done : Outcome} (hcode : done.exitCode = 0)
    (hescaped : done.escaped = none) (username : String) (maxAttempts : Int)
    (outcome : Option Flow.Outcome) :
    Exits m username maxAttempts (.ok outcome) (endLogin m done username maxAttempts outcome) := by
  have hfailed := fun message => done.exitCode_fail m message
  have hends := fun message => Outcome.endsWith_fail (m := m) hescaped message
  rcases outcome with _ | outcome
  · constructor <;> simp [endLogin, hfailed, hends]
  · cases outcome with
    | success =>
      have htold := done.exitCode_print m .status (welcome username)
      have hwelcome : EndsWith m (done.print m .status (welcome username)) (welcome username) :=
        Outcome.endsWith_print hescaped
      constructor
      · cases hbad : m.markupError? (welcome username) <;>
          simp [endLogin, htold, hbad, hcode, failureCode]
      · cases hbad : m.markupError? (welcome username) <;>
          simp [endLogin, htold, hbad, hcode, failureCode]
      · exact fun _ => hwelcome
      all_goals simp
    | cancelled => constructor <;> simp [endLogin, hfailed, hends]
    | challenge => constructor <;> simp [endLogin, hfailed]
    | failureChallenge => constructor <;> simp [endLogin, hfailed]

/-- How the command ends by what comes of its login. -/
def endCommand (m : Machine) (done : Outcome) (username : String) (maxAttempts : Int) :
    Except Fault (Option Flow.Outcome) → Outcome
  | .ok outcome => endLogin m done username maxAttempts outcome
  | .error .noAnswerLeft => { done with exitCode := failureCode }
  | .error f =>
    if f.isServer || f.isConfiguration || f.isValue then
      (done.log (.loginFailed username f.message)).fail m f.message
    else done.crash f

theorem exits_endCommand {m : Machine} {done : Outcome} (hcode : done.exitCode = 0)
    (hescaped : done.escaped = none) (username : String) (maxAttempts : Int)
    (result : Except Fault (Option Flow.Outcome)) :
    Exits m username maxAttempts result (endCommand m done username maxAttempts result) := by
  unfold endCommand
  split
  · next outcome => exact exits_endLogin hcode hescaped username maxAttempts outcome
  · constructor <;> simp [failureCode, hescaped, IsReported, Fault.isServer, Fault.isConfiguration,
      Fault.isValue, Fault.category]
  · next f hf =>
    have hanswers : f ≠ .noAnswerLeft := fun h => hf h
    split
    · next hreported =>
      have hreported : IsReported f := hreported
      have hfailed := (done.log (.loginFailed username f.message)).exitCode_fail m f.message
      have hends := Outcome.endsWith_fail (m := m)
        (show (done.log (.loginFailed username f.message)).escaped = none from hescaped) f.message
      constructor <;> simp [hfailed, hends, hreported]
    · next hreported =>
      have hreported : ¬ IsReported f := hreported
      constructor <;> simp [Outcome.crash, failureCode, hreported, hanswers]

/-- Before the command ends, it has only taken over what the login did. -/
theorem exists_runLogin_eq (input : Input) (settings : Settings) (username : String)
    (groups : List String) (secret : Option String) (maxAttempts : Int) :
    ∃ done : Outcome, done.exitCode = 0 ∧ done.escaped = none ∧
      runLogin input settings username groups secret maxAttempts =
        endCommand input.machine done username maxAttempts
          (loginOf input settings username groups secret maxAttempts) := ⟨_, rfl, rfl, rfl⟩

theorem exits_runLogin (input : Input) (settings : Settings) (username : String)
    (groups : List String) (secret : Option String) (maxAttempts : Int) :
    Exits input.machine username maxAttempts
      (loginOf input settings username groups secret maxAttempts)
      (runLogin input settings username groups secret maxAttempts) := by
  obtain ⟨done, hcode, hescaped, hrun⟩ :=
    exists_runLogin_eq input settings username groups secret maxAttempts
  rw [hrun]
  exact exits_endCommand hcode hescaped username maxAttempts _

/-- Where all that is handed over can be printed, the exit code says whether the user was let in. -/
theorem Exits.zero_of_prints {m : Machine} {username : String} {maxAttempts : Int}
    {result : Except Fault (Option Flow.Outcome)} {outcome : Outcome}
    (h : Exits m username maxAttempts result outcome)
    (prints : ∀ p ∈ outcome.printed, m.markupError? p.item = none) :
    outcome.exitCode = 0 ↔ result = .ok (some .success) := by
  rw [h.zero]
  refine and_iff_left_of_imp fun letIn => ?_
  obtain ⟨before, hprinted⟩ := (h.letIn letIn).last
  refine prints ⟨.status, welcome username⟩ ?_
  rw [hprinted]
  exact List.mem_append_right before List.mem_cons_self

/-! ## From the words of the command -/

/-- A run whose words ask for a login. -/
structure AsksLogin (input : Input) (invocation : Invocation) (username : String)
    (groups : List String) (secret : Option String) (maxAttempts : Int) : Prop where
  words : Invocation.read input.args = .read invocation
  command : ∃ args, invocation.command = some (.login, args) ∧
    Command.read input.environment.vars .login args =
      .read (.login username groups secret maxAttempts)

theorem runInvocation_login {input : Input} {invocation : Invocation} {username : String}
    {groups : List String} {secret : Option String} {maxAttempts : Int}
    (h : AsksLogin input invocation username groups secret maxAttempts) (settings : Settings) :
    runInvocation input invocation settings =
      runLogin input settings username groups secret maxAttempts := by
  obtain ⟨args, hcommand, hread⟩ := h.command
  simp only [runInvocation, hcommand, hread, runCommand]

/-- A program that was asked for a login and starts ends with zero exactly when the settings and the
log output can be had, the login lets the user in and the user can be told; otherwise it ends with
one. -/
theorem run_login {input : Input} {invocation : Invocation} {username : String}
    {groups : List String} {secret : Option String} {maxAttempts : Int}
    (h : AsksLogin input invocation username groups secret maxAttempts) {outcome : Outcome}
    {output : Log.Output} (hrun : run input = .ok (outcome, output)) :
    (outcome.exitCode = 0 ↔ ∃ settings first,
      Settings.ofEnvironment input.environment = .ok settings ∧
      initialOutput input.environment.vars = .ok first ∧
      chosenOutput first invocation settings = .ok output ∧
      loginOf input settings username groups secret maxAttempts = .ok (some .success) ∧
      input.machine.markupError? (welcome username) = none) ∧
    (outcome.exitCode ≠ 0 → outcome.exitCode = 1) := by
  unfold run at hrun
  cases hfirst : initialOutput input.environment.vars with
  | error cause => simp [hfirst] at hrun
  | ok first =>
    cases htyped : Text.unwritable? input.typed with
    | some bad => simp [hfirst, htyped] at hrun
    | none =>
      simp only [hfirst, htyped, h.words, Except.ok.injEq] at hrun
      cases hsettings : Settings.ofEnvironment input.environment with
      | error f =>
        simp only [hsettings] at hrun
        cases hrun
        simp [Outcome.crash, failureCode]
      | ok settings =>
        cases hchosen : chosenOutput first invocation settings with
        | error cause =>
          simp only [hsettings, hchosen] at hrun
          cases hrun
          simp [Outcome.crash, failureCode, hchosen]
        | ok chosen =>
          simp only [hsettings, hchosen, runInvocation_login h] at hrun
          cases hrun
          have hexits := exits_runLogin input settings username groups secret maxAttempts
          refine ⟨?_, hexits.one⟩
          rw [hexits.zero]
          simp [hchosen]

/-- Settings that exempt the guests. -/
def guestsExempt : Settings :=
  { Settings.ofUrl "https://mfa.example" with excludedGroups := ["guests"] }

/-- A machine that takes a tag in the name of a user for one that closes nothing. -/
def strict : Machine where
  clock := fun _ => .int 0
  timer := .nanoseconds
  markupError? := fun item =>
    if item = welcome "[/x]" then
      some "closing tag '[/x]' at position 11 doesn't match any open tag"
    else none

/-- Alice's login where nobody answers. -/
def unanswered : Input where
  args := ["login", "alice", "--group", "guests"]
  environment := ⟨[], none, Json.usualDepth⟩
  typed := ""
  replies := []
  machine := strict

/-- Such a user is let in and cannot be told, so the exit code is one all the same. -/
example :
    loginOf unanswered guestsExempt "[/x]" ["guests"] none 3 = .ok (some .success) ∧
      (runCommand unanswered guestsExempt (.login "[/x]" ["guests"] none 3)).exitCode = 1 :=
  ⟨rfl, rfl⟩

end SecondFactor.CommandLine
