import SecondFactor.CommandLine.Run
import SecondFactor.Server.Message
import SecondFactor.Terminal
import Std.Time.DateTime.Timestamp

/-!
# The program

Reads the words of the invocation, the environment, the environment file, the typed lines of a
login, the clock and a recording of the server's replies, runs, and prints what comes of it.
-/
namespace SecondFactor

/-!
## Printing without styles

On a plain terminal the style tags are left out; panels and tables become lines.
-/

namespace Terminal

/-- The styles that occur in tags. -/
def styles : List String := ["green", "red", "yellow", "dim", "bold", "bold cyan"]

/-- A text without its style tags. -/
def withoutTags (text : String) : String :=
  styles.foldl (fun t style =>
    (t.replace ("[" ++ style ++ "]") "").replace ("[/" ++ style ++ "]") "") text

/-- A text as it is shown on a plain terminal. -/
def plainText (text : String) : String := Text.displayed (withoutTags text)

/-- An item as plain text. -/
def Item.plain : Item → String
  | line text => plainText text
  | panel text title _ => title ++ "\n" ++ plainText text
  | table title columns rows =>
    "\n".intercalate (title :: (columns :: rows).map fun row =>
      plainText ("  ".intercalate row))

end Terminal

/-! ## From the arguments to the exit code -/

namespace CommandLine

/-- The contents of a file as a text, if it can be read. -/
def fileText? (path : String) : IO (Option String) := do
  try return some (Text.ofCharacters (← IO.FS.readFile path))
  catch _ => return none

/-- The variables of the process. -/
def processVariables : IO (List (String × String)) := do
  let text := (← fileText? "/proc/self/environ").getD ""
  return (text.splitOn "\x00").filterMap fun entry =>
    match entry.splitOn "=" with
    | name :: value :: rest => some (name, "=".intercalate (value :: rest))
    | _ => none

/-- The variable that names the recording. -/
def recordingVariable : String := "MFABRIDGE_RECORDING"

/-- The replies in the recording, if there is a readable one. -/
def recordedReplies (vars : List (String × String)) : IO (List Reply) := do
  match vars.lookup recordingVariable with
  | none => return []
  | some path =>
    match (← fileText? path).map (Json.read Json.usualDepth) with
    | some (.ok recording) => return Reply.listOf Json.usualDepth recording
    | _ => return []

/-- Prints an item on its console. -/
def printItem (p : Terminal.Printed) : IO Unit :=
  match p.console with
  | .status => IO.eprintln p.item.plain
  | .data => IO.println p.item.plain

/-- Prints a fault that nothing in the program handles. -/
def printFault (f : Fault) : IO Unit :=
  IO.eprintln (f.category.name ++ ": " ++ Text.displayed f.message)

end CommandLine

end SecondFactor

open SecondFactor SecondFactor.CommandLine in
def main (args : List String) : IO UInt32 := do
  let vars ← processVariables
  let file ← fileText? ".env"
  let typed ← if args.contains "login" then (← IO.getStdin).readToEnd else pure ""
  let replies ← recordedReplies vars
  let now ← Std.Time.Timestamp.now
  let result := run
    { args := args.map Text.ofCharacters
      environment := ⟨vars, file, Json.usualDepth⟩
      typed := Text.ofCharacters typed
      replies
      machine := .plain (.int now.toSecondsSinceUnixEpoch.val) }
  match result with
  | .error fault =>
    printFault fault
    return 1
  | .ok (outcome, output) =>
    for line in output.events outcome.events do
      IO.eprintln (Json.asciiForm.inline (.object line))
    for p in outcome.printed do
      printItem p
    if let some fault := outcome.escaped then
      printFault fault
    return UInt32.ofNat outcome.exitCode
