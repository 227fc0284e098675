import SecondFactor.Json
import SecondFactor.Json.Writer
import SecondFactor.Settings.Environment
import SecondFactor.Text
import SecondFactor.Text.Encoding

/-!
# Where a settings value comes from

A value given directly wins over the environment, the environment over the environment file, and
the file over the default. Variable names match in any case.
-/
namespace SecondFactor.Settings

/-!
## Environment files

A file of lines `NAME=value`. A line may start with `export`, a name may be quoted, a value may be
quoted by either mark and then run over several lines, and what follows a blank and `#` is a
comment. A line that does not follow these rules is skipped. Afterwards `\x24{NAME}` and
`\x24{NAME:-default}` in the values are replaced by earlier values or by the environment.
-/

namespace EnvFile

/-- Blanks that do not end a line. -/
def isInnerBlank (c : Char) : Bool := Text.isBlank c && c != '\n'

/-- Splits the text after an opening mark at its closing mark. A backslash takes the character after
it along, so a mark there does not close. -/
def splitQuoted (mark : Char) : List Char → Option (List Char × List Char)
  | [] => none
  | '\\' :: c :: cs => (splitQuoted mark cs).map fun (inside, rest) => ('\\' :: c :: inside, rest)
  | c :: cs =>
    if c = mark then some ([], cs)
    else (splitQuoted mark cs).map fun (inside, rest) => (c :: inside, rest)

/-- The character an escape between single marks stands for. -/
def singleEscape? : Char → Option Char
  | '\\' => some '\\'
  | '\'' => some '\''
  | _ => none

/-- The character an escape between double marks stands for. -/
def doubleEscape? : Char → Option Char
  | '\\' => some '\\'
  | '\'' => some '\''
  | '"' => some '"'
  | 'a' => some '\x07'
  | 'b' => some '\x08'
  | 'f' => some '\x0c'
  | 'n' => some '\n'
  | 'r' => some '\r'
  | 't' => some '\t'
  | 'v' => some '\x0b'
  | _ => none

/-- Replaces the known escapes and keeps every other backslash. -/
def unescape (escape? : Char → Option Char) : List Char → List Char
  | '\\' :: c :: cs =>
    match escape? c with
    | some x => x :: unescape escape? cs
    | none => '\\' :: unescape escape? (c :: cs)
  | c :: cs => c :: unescape escape? cs
  | [] => []

/-- A value without marks: up to a comment, without the blanks before it. -/
def cutComment : List Char → List Char
  | [] => []
  | c :: cs =>
    if Text.isBlank c && (cs.dropWhile Text.isBlank).head? == some '#' then []
    else c :: cutComment cs

/-- A reader of the text that is left; a fault leaves the text from the fault on. -/
abbrev Reader := EStateM Unit (List Char)

/-- Takes the characters of a class. -/
def takeWhile (p : Char → Bool) : Reader (List Char) :=
  modifyGet fun cs => (cs.takeWhile p, cs.dropWhile p)

/-- The text between a mark at hand and its closing mark. -/
def quotedBy (mark : Char) (escape? : Char → Option Char) : Reader (List Char) := do
  match splitQuoted mark ((← get).drop 1) with
  | some (inside, rest) =>
    set rest
    return unescape escape? inside
  | none => throw ()

/-- The name at the start of a line; a comment has none. -/
def readName : Reader (Option (List Char)) := do
  match ← get with
  | '#' :: _ => return none
  | '\'' :: rest =>
    let name := rest.takeWhile (· != '\'')
    match rest.dropWhile (· != '\'') with
    | _ :: after =>
      if name.isEmpty then throw ()
      set after
      return some name
    | [] => throw ()
  | _ =>
    let name ← takeWhile fun c => !(c == '=' || c == '#' || Text.isBlank c)
    if name.isEmpty then throw ()
    return some name

/-- The value after the sign `=`. Blanks around it do not count, except that a comment needs one
before its mark. -/
def readValue : Reader (List Char) := do
  match (← get).dropWhile isInnerBlank with
  | '\'' :: rest =>
    set ('\'' :: rest)
    quotedBy '\'' singleEscape?
  | '"' :: rest =>
    set ('"' :: rest)
    quotedBy '"' doubleEscape?
  | _ =>
    let line ← takeWhile (· != '\n')
    return Text.trimWhile Text.isBlank (cutComment line)

/-- The value of a name that may come without one. -/
def readOptionalValue : Reader (Option (List Char)) := do
  match ← get with
  | '=' :: rest =>
    set rest
    some <$> readValue
  | _ => return none

/-- A comment and the end of the line. -/
def readLineEnd : Reader Unit := do
  let cs ← get
  match cs.dropWhile isInnerBlank with
  | [] => set ([] : List Char)
  | '\n' :: rest => set rest
  | '#' :: rest => set ((rest.dropWhile (· != '\n')).drop 1)
  | _ => throw ()

/-- The word `export` and the blanks behind it. -/
def skipExport (cs : List Char) : List Char :=
  match cs with
  | 'e' :: 'x' :: 'p' :: 'o' :: 'r' :: 't' :: c :: rest =>
    if isInnerBlank c then rest.dropWhile isInnerBlank else cs
  | _ => cs

/-- One line: a name with its value, if it sets one. -/
def readLine : Reader (Option (String × Option String)) := do
  modify skipExport
  let name ← readName
  modify (List.dropWhile isInnerBlank)
  let value ← readOptionalValue
  readLineEnd
  return name.map fun n => (String.ofList n, value.map String.ofList)

/-- The settings of a file, in order. A faulty line is skipped from the fault on. -/
def lines (cs : List Char) : List (String × Option String) :=
  let start := cs.dropWhile Text.isBlank
  if start.isEmpty then []
  else
    let (found, rest) := match readLine.run start with
      | .ok found rest => (found, rest)
      | .error () rest => (none, (rest.dropWhile (· != '\n')).drop 1)
    if rest.length < cs.length then found.toList ++ lines rest else found.toList
termination_by cs.length

/-- A place in a value where another value goes: its name, its default and what follows. -/
def reference? : List Char → Option (List Char × List Char × List Char)
  | '$' :: '{' :: cs =>
    let isNameChar := fun c => c != '}' && c != ':'
    let name := cs.takeWhile isNameChar
    match cs.dropWhile isNameChar with
    | '}' :: rest => some (name, [], rest)
    | ':' :: '-' :: rest =>
      match rest.dropWhile (· != '}') with
      | _ :: after => some (name, rest.takeWhile (· != '}'), after)
      | [] => none
    | _ => none
  | _ => none

/-- Replaces the references in a value. A name without a value gives an empty text. -/
def resolve (value? : String → Option (Option String)) (cs : List Char) : List Char :=
  match cs with
  | [] => []
  | c :: tail =>
    match reference? (c :: tail) with
    | some (name, fallback, rest) =>
      let text := match value? (String.ofList name) with
        | some v => (v.getD "").toList
        | none => fallback
      if rest.length ≤ tail.length then text ++ resolve value? rest else text
    | none => c :: resolve value? tail
termination_by cs.length

/-- The values of a file, read within an environment. -/
def read (environment : List (String × String)) (file : String) : List (String × Option String) :=
  (lines (Text.joinLineEnds (Text.withoutByteOrderMark file.toList))).foldl (fun known line =>
    let value? := fun name => known.lookup name <|> (environment.lookup name).map some
    let value := line.2.map fun v => String.ofList (resolve value? v.toList)
    Entries.insert line.1 value known) []

end EnvFile

/-!
## Looking a value up

Some names that are given directly are no fields but change how variables are looked up.
-/

/-- A value given directly that changes the look-up; a missing one is null. -/
def wish (given : List (String × Json)) (name : String) : Json :=
  (given.lookup name).getD .null

/-- The text of a value, if it is one. -/
def textOf? : Json → Option String
  | .text s => some s
  | _ => none

/-- How the variables of the fields are looked up. -/
structure Lookup where
  /-- What the name of a variable starts with, before the name of the field. -/
  start : String := "MFABRIDGE_"
  /-- Whether a name has to match in case. -/
  exactCase : Bool := false
  /-- Whether an empty variable counts as missing. -/
  skipsEmpty : Bool := false
  /-- What stands between the name of a field and the name of a part of it. -/
  joint : Option String := none
  /-- The text of a variable that stands for no value. -/
  nullText : Option String := none
deriving DecidableEq, Repr

namespace Lookup

/-- The lookup that the values given directly ask for. -/
def ofGiven (given : List (String × Json)) : Except Obstacle Lookup := do
  let start ← match wish given "_env_prefix" with
    | .null => pure "MFABRIDGE_"
    | .text start => pure start
    | _ => throw .noStart
  return {
    start
    exactCase := (wish given "_case_sensitive").isTruthy
    skipsEmpty := (wish given "_env_ignore_empty").isTruthy
    joint := (textOf? (wish given "_env_nested_delimiter")).filter fun joint => joint != ""
    nullText := textOf? (wish given "_env_parse_none_str") }

/-- A name in the form in which names are compared. -/
def key (l : Lookup) (name : String) : String := if l.exactCase then name else Text.lower name

/-- The name of the variable of a field. -/
def fieldKey (l : Lookup) (f : Field) : String := l.key (l.start ++ f.name)

/-- The raw value that a variable's text stands for. -/
def value (l : Lookup) (text : String) : Json :=
  if l.nullText = some text then .null else .text text

/-- The value of the last variable of a field. -/
def last? (l : Lookup) (f : Field) (vars : List (String × Option String)) : Option Json :=
  (vars.reverse.find? fun v => l.key v.1 = l.fieldKey f).bind fun v => v.2.map l.value

/-- The variables of the parts of a list field as an object. -/
def parts? (l : Lookup) (f : Field) (vars : List (String × Option String)) : Option Json := do
  let joint ← l.joint
  let parts := vars.filterMap fun v => do
    let part ← (l.fieldKey f ++ joint).toList.isPrefixOf? (l.key v.1).toList
    return (String.ofList part, (v.2.map l.value).getD .null)
  if f.isList && !parts.isEmpty then some (.object parts) else none

/-- The raw value of a field among variables, some of which may have no value. -/
def find? (l : Lookup) (f : Field) (vars : List (String × Option String)) : Option Json :=
  let vars := if l.skipsEmpty then vars.filter fun v => v.2 != some "" else vars
  l.last? f vars <|> l.parts? f vars

end Lookup

/-- The name of the environment file. -/
def fileName : String := ".env"

/-- Whether a path leads to the environment file. -/
def isFilePath (path : String) : Bool :=
  let cs := path.toList
  let parts := (cs.splitOn '/').filter fun part => !part.isEmpty && part != ['.']
  cs.head? != some '/' && parts = [fileName.toList]

/-- The files of a choice. -/
def chosenFiles : Json → Except Obstacle (List Json)
  | .null => .ok []
  | .text path => .ok [.text path]
  | .list files => .ok files
  | .object files => .ok (files.map fun file => .text file.1)
  | j => .error (.noFiles j.kindName)

/-- The text of a file in a chosen encoding. -/
def decoded (encoding : Json) (file : String) : Except Obstacle String :=
  if encoding.isTruthy then
    match encoding with
    | .text name => (Text.Encoding.ofName name >>= (·.read file)).mapError .unreadableFile
    | j => .error (.noEncodingName j.kindName)
  else .ok file

/-- The text of the environment file, if one of the files leads to it. -/
def fileText (encoding : Json) (file : Option String) : List Json → Except Obstacle (Option String)
  | [] => .ok none
  | .text path :: rest => do
    let text ← if isFilePath path then file.mapM (decoded encoding) else pure none
    return (← fileText encoding file rest).or text
  | j :: _ => .error (.noPath j.kindName)

/-- The variables that the environment file sets; a name without a value comes with `none`. -/
def fileVariables (given : List (String × Json)) (env : Environment) :
    Except Obstacle (List (String × Option String)) := do
  let files ← chosenFiles ((given.lookup "_env_file").getD (.text fileName))
  let text ← fileText (wish given "_env_file_encoding") env.file files
  return (text.map (EnvFile.read env.vars)).getD []

/-- Refuses the environment file as a directory of secrets. -/
def checkSecrets (given : List (String × Json)) (env : Environment) : Except Obstacle Unit := do
  let paths ← (← chosenFiles (wish given "_secrets_dir")).mapM fun
    | .text path => pure path
    | j => throw (.noPath j.kindName)
  if env.file.isSome && paths.any isFilePath then throw .noDirectory

/-- Refuses words of a command line that are no row; null, zero and truth values ask for none. -/
def checkWords (words : Json) : Except Obstacle Unit :=
  match words with
  | .null | .bool _ | .list _ => .ok ()
  | .number _ => if words.isTruthy then .error (.noWords words.kindName) else .ok ()
  | _ => .error (.noWords words.kindName)

/-- Whether the start of the names of variables is of a kind with a length. -/
def hasLength : Json → Bool
  | .bool _ | .number _ => false
  | _ => true

/-- The raw values of the fields: given directly, or a text from the environment. -/
def rawValues (given : List (String × Json)) (env : Environment) :
    Except Obstacle (Field → Option Json) := do
  if (given.lookup Obstacle.heldName).isSome then throw .nameHeld
  let start := wish given "_env_prefix"
  if !hasLength start then throw (.noLength start.kindName)
  let inFile ← fileVariables given env
  checkWords (wish given "_cli_parse_args")
  let l ← Lookup.ofGiven given
  checkSecrets given env
  let inEnvironment := env.vars.map fun v => (v.1, some v.2)
  return fun f => given.lookup f.name <|> l.find? f inEnvironment <|> l.find? f inFile

end SecondFactor.Settings
