import SecondFactor.Client.Poller
import SecondFactor.CommandLine.Invocation
import SecondFactor.Json.Writer
import SecondFactor.Log.Output
import SecondFactor.Server.Response
import SecondFactor.Settings
import SecondFactor.Terminal
import SecondFactor.Text

/-!
# Running the program

An invocation runs on a machine and in an environment, against the replies of the server and the
lines that are typed, and ends with an exit code. The settings are loaded before the command's own
words are read. Whatever is printed may be taken for faulty markup, and nothing handles that.
-/
namespace SecondFactor.CommandLine

/-!
## Reports of the commands

What the commands print for their reader: the version, the configuration and the tokens of a user.
-/

open Terminal (Item tagged)

def programVersion : String := "1.0.0"

/-- A text, or a remark if it is empty. -/
def orRemark (text remark : String) : String := if text.isEmpty then remark else text

/-- A remark in place of a value. -/
def remark (text : String) : String := tagged "dim" ("(" ++ text ++ ")")

def yesNo (b : Bool) : String := if b then "yes" else "no"

/-- The version of the program and the server it is set up for. -/
def versionPanel (s : Settings) : Item :=
  .panel
    (tagged "bold cyan" "mfabridge" ++ " v" ++ programVersion ++ "\n\n" ++
      tagged "dim" "Server:" ++ " " ++ orRemark s.serverUrl "(not configured)")
    "Second-factor authentication bridge" "cyan"

/-- The service account, and whether it has a password. -/
def accountText (s : Settings) : String :=
  orRemark (s.serviceAccountName.getD "") (remark "none") ++
    if (Text.given? s.serviceAccountPassword).isSome then " " ++ remark "password set" else ""

/-- The rows of the configuration; their values are aligned. -/
def configRows (s : Settings) : List (String × String) :=
  [("Server URL:", orRemark s.serverUrl (remark "not configured")),
    ("Verify SSL:", if s.verifySsl then "yes" else tagged "red" "no"),
    ("Realm:", orRemark (s.realm.getD "") (remark "default")),
    ("Service account:", accountText s),
    ("Trigger challenges:", yesNo s.triggerChallenge),
    ("Enroll tokens:", if s.enrollToken then "yes (" ++ s.enrollingTokenType ++ ")" else "no"),
    ("Excluded groups:", orRemark (", ".intercalate s.excludedGroups) (remark "none")),
    ("Polling schedule:",
      ", ".intercalate (s.schedule.toList.map fun i => Decimal.ofInt i ++ "s")),
    ("Server logging:", if s.doLog then "on" else "off"),
    ("Log level:", s.logLevel),
    ("Log format:", s.logFormat)]

/-- The width of the widest label, with a blank behind it. -/
def labelWidth : Nat := 20

def configRow (row : String × String) : String :=
  tagged "dim" row.1 ++ String.ofList (List.replicate (labelWidth - row.1.length) ' ') ++ row.2

/-- The configuration as a panel, without blanks at its end. -/
def configPanel (s : Settings) : Item :=
  .panel (Text.trim ("\n".intercalate ((configRows s).map configRow))) "⚙ Configuration" "cyan"

/-- The configuration as data. -/
def configData (s : Settings) : Except Fault Item := do
  return .line (Json.unicodeForm.indented 0 (.object (← s.shown)))

/-- The tokens of a user as data. -/
def tokenData (tokens : List TokenInfo) : Item :=
  .line (Json.asciiForm.indented 0 (.list (tokens.map TokenInfo.toJson)))

def statusText (active : Bool) : String :=
  if active then tagged "green" "● active" else tagged "red" "○ disabled"

def tokenRow (t : TokenInfo) : List String :=
  [t.serial, t.tokenType, statusText t.active, orRemark t.description (tagged "dim" "—")]

/-- The tokens of a user as a table with their number below it, or a remark that there are none. -/
def tokenReport (username : String) (tokens : List TokenInfo) : List Item :=
  if tokens.isEmpty then
    [.panel (tagged "dim" (username ++ " has no tokens.")) "No Tokens" "yellow"]
  else
    [.table ("Tokens of " ++ username) ["Serial", "Type", "Status", "Description"]
        (tokens.map tokenRow),
      .line ("\n" ++ tagged "dim" (Decimal.ofNat tokens.length ++ " token(s)"))]

/-! ## Commands -/

/-- Exit code of a run that fails. -/
def failureCode : Nat := 1

/-- Exit code of a wrong use. -/
def misuseCode : Nat := 2

/-- What the program runs with. -/
structure Input where
  args : List String
  environment : Settings.Environment
  /-- The text on standard input. -/
  typed : String
  replies : List Reply
  machine : Terminal.Machine

/-- What comes of a run. -/
structure Outcome where
  exitCode : Nat
  /-- A fault that nothing in the program handles. -/
  escaped : Option Fault
  /-- What was handed over to be printed, in order. -/
  printed : List Terminal.Printed
  /-- The seconds of each sleep, in order. -/
  sleeps : List Int
  requests : List Request
  events : List Log.Event
  /-- How many connections were closed. -/
  closings : Nat

namespace Outcome

/-- A run that does nothing but end with an exit code. -/
def exit (code : Nat) : Outcome := ⟨code, none, [], [], [], [], 0⟩

/-- Ends a run with a fault that nothing handles. -/
def crash (o : Outcome) (f : Fault) : Outcome :=
  { o with exitCode := failureCode, escaped := some f }

/-- Prints an item, and ends the run if it cannot be printed. -/
def print (o : Outcome) (m : Terminal.Machine) (console : Terminal.Console)
    (item : Terminal.Item) : Outcome :=
  let o := { o with printed := o.printed ++ [⟨console, item⟩] }
  match m.printing item with
  | .ok _ => o
  | .error f => o.crash f

/-- Prints data, up to the first item that cannot be printed. -/
def report (o : Outcome) (m : Terminal.Machine) : List Terminal.Item → Outcome
  | [] => o
  | item :: rest =>
    let o := o.print m .data item
    if o.escaped.isSome then o else o.report m rest

/-- Ends a run with an error for the user. -/
def fail (o : Outcome) (m : Terminal.Machine) (message : String) : Outcome :=
  { o with exitCode := failureCode }.print m .status (Terminal.errorLine message)

/-- Logs one more event. -/
def log (o : Outcome) (e : Log.Event) : Outcome := { o with events := o.events ++ [e] }

end Outcome

/-- The log level when the environment sets none. -/
def defaultLogLevel : String := "WARNING"

/-- The log output before the settings are loaded, from two variables by their exact names. -/
def initialOutput (vars : List (String × String)) : Except Log.LevelError Log.Output :=
  Log.Output.ofName ((vars.lookup "MFABRIDGE_LOG_LEVEL").getD defaultLogLevel)
    (vars.lookup "MFABRIDGE_LOG_FORMAT" = some "json")

/-- The log output that the invocation asks for; without a wish the first one stays. -/
def chosenOutput (first : Log.Output) (invocation : Invocation) (settings : Settings) :
    Except Log.LevelError Log.Output :=
  let json := match invocation.logFormat with
    | some format => format = .json
    | none => settings.logFormat = "json"
  if 2 ≤ invocation.verbosity then Log.Output.ofName "DEBUG" json
  else if invocation.verbosity = 1 then Log.Output.ofName "INFO" json
  else if invocation.logFormat.isSome then Log.Output.ofName settings.logLevel json
  else .ok first

/-- Lists the tokens of a user. The connection is closed whatever happens. -/
def runTokens (input : Input) (settings : Settings) (username : String) (json : Bool) : Outcome :=
  let refuse := fun (o : Outcome) (f : Fault) =>
    if f.isServer || f.isConfiguration then
      (o.log (.tokenListingFailed username f.message)).fail input.machine f.message
    else o.crash f
  match Client.ofSettings settings with
  | .error f => refuse (.exit 0) f
  | .ok c =>
    let (result, session) := (Client.Session.ofReplies c input.replies).run (c.tokens username)
    let session := session.close
    let done : Outcome :=
      { Outcome.exit 0 with
        requests := session.conversation.requests
        events := session.conversation.events
        closings := session.closings }
    match result with
    | .error f => refuse done f
    | .ok tokens =>
      done.report input.machine (if json then [tokenData tokens] else tokenReport username tokens)

/-- What a user is told who was let in. -/
def welcome (username : String) : Terminal.Item :=
  Terminal.successLine (username ++ " authenticated")

/-- Ends a login by its outcome. -/
def endLogin (m : Terminal.Machine) (done : Outcome) (username : String) (maxAttempts : Int) :
    Option Flow.Outcome → Outcome
  | some .success => done.print m .status (welcome username)
  | some .cancelled => done.fail m "Login cancelled"
  | _ =>
    done.fail m ("No second factor confirmed after " ++ Decimal.ofInt maxAttempts ++ " attempt(s)")

/-- Logs a user in. The end of the typed lines ends the run without a word. -/
def runLogin (input : Input) (settings : Settings) (username : String) (groups : List String)
    (secret : Option String) (maxAttempts : Int) : Outcome :=
  let options : Terminal.Options := ⟨settings, ⟨username, groups⟩, secret, input.machine⟩
  let (result, state) := (Terminal.login options maxAttempts).runFrom
    (.start (Text.lines input.typed) input.replies)
  let done : Outcome :=
    { Outcome.exit 0 with
      printed := state.printed
      sleeps := state.sleeps
      requests := state.flow.conversation.requests
      events := state.flow.conversation.events }
  match result with
  | .ok outcome => endLogin input.machine done username maxAttempts outcome
  | .error .noAnswerLeft => { done with exitCode := failureCode }
  | .error f =>
    if f.isServer || f.isConfiguration || f.isValue then
      (done.log (.loginFailed username f.message)).fail input.machine f.message
    else done.crash f

/-- Runs a command with the settings. -/
def runCommand (input : Input) (settings : Settings) : Command → Outcome
  | .version => (Outcome.exit 0).report input.machine [versionPanel settings]
  | .config json =>
    match if json then configData settings else .ok (configPanel settings) with
    | .ok item => (Outcome.exit 0).report input.machine [item]
    | .error f => (Outcome.exit 0).crash f
  | .tokens username json => runTokens input settings username json
  | .login username groups secret maxAttempts =>
    runLogin input settings username groups secret maxAttempts

/-- Runs an invocation once its settings are loaded. -/
def runInvocation (input : Input) (invocation : Invocation) (settings : Settings) : Outcome :=
  match invocation.command with
  | none => .exit 0
  | some (name, args) =>
    match Command.read input.environment.vars name args with
    | .help => .exit 0
    | .misuse => .exit misuseCode
    | .unsupported => .exit failureCode
    | .read command => runCommand input settings command

/-- The outcome of a run and the log output it writes to. The program does not start without a first
log output, nor with a typed text that cannot be written. -/
def run (input : Input) : Except Fault (Outcome × Log.Output) :=
  match initialOutput input.environment.vars, Text.unwritable? input.typed with
  | .error cause, _ => .error (.noLevel cause)
  | _, some run => .error (.unwritable run)
  | .ok first, none => .ok <|
    match Invocation.read input.args with
    | .help => (.exit 0, first)
    | .misuse => (.exit misuseCode, first)
    | .unsupported => (.exit failureCode, first)
    | .read invocation =>
      match Settings.ofEnvironment input.environment with
      | .error f => ((Outcome.exit 0).crash f, first)
      | .ok settings =>
        match chosenOutput first invocation settings with
        | .error cause => ((Outcome.exit 0).crash (.noLevel cause), first)
        | .ok output => (runInvocation input invocation settings, output)

end SecondFactor.CommandLine
