import SecondFactor.Json
import SecondFactor.Settings.Field
import SecondFactor.Text.Encoding

/-!
# The environment

The variables of a process and the text of its environment file. Variables are set one after the
other; a name or a value that no variable can have ends this and leaves those set before it. Names
and values are bytes, so a text that is set may come back with other code points.
-/
namespace SecondFactor.Settings

/-- What settings are read from, and how. -/
structure Environment where
  /-- The variables of the process. -/
  vars : List (String × String)
  /-- The text of the environment file, if there is one. -/
  file : Option String
  /-- How many lists and objects may be open at once in a text that is read. -/
  depth : Nat

/-- Why a variable cannot be set. -/
inductive VariableFault
  /-- The name or the value holds surrogates that are no bytes. -/
  | noBytes (run : Text.SurrogateRun)
  /-- The name or the value holds the character that ends both. -/
  | nullByte
  /-- The name holds the sign that ends names. -/
  | illegalName
  | emptyName
deriving DecidableEq, Repr

def VariableFault.message : VariableFault → String
  | noBytes run => run.message
  | nullByte => "embedded null byte"
  | illegalName => "illegal environment variable name"
  | emptyName => "[Errno 22] Invalid argument"

namespace Environment

/-- A name or a value as it comes back from the process. -/
def stored (text : String) : Except VariableFault String :=
  (Text.throughBytes text).mapError .noBytes

/-- Sets a variable, or removes it if there is no value. -/
def set (env : Environment) (name : String) (value : Option String) :
    Except VariableFault Environment := do
  let name ← stored name
  match value with
  | none => return { env with vars := Entries.erase name env.vars }
  | some value =>
    let value ← stored value
    if name.toList.contains '\x00' ∨ value.toList.contains '\x00' then throw .nullByte
    else if name.toList.contains '=' then throw .illegalName
    else if name.isEmpty then throw .emptyName
    else return { env with vars := Entries.insert name value env.vars }

/-- Sets variables in order, up to the first that cannot be set. -/
def assign (env : Environment) :
    List (String × Option String) → Option VariableFault × Environment
  | [] => (none, env)
  | (name, value) :: rest =>
    match env.set name value with
    | .error fault => (some fault, env)
    | .ok env => env.assign rest

/-- Writes the environment file; a file has no surrogates. -/
def write (env : Environment) (file : String) : Except Text.SurrogateRun Environment :=
  match Text.unwritable? file with
  | some run => .error run
  | none => .ok { env with file := some file }

end Environment

/-!
## What keeps settings from being looked up

Some names that are given directly are no fields but say how variables are looked up. A value that
cannot say so ends the look-up before any field is checked.
-/

inductive Obstacle
  /-- A value is given under the name that the settings have for themselves. -/
  | nameHeld
  /-- What the names of variables start with is of a kind without length. -/
  | noLength (kind : String)
  /-- What the names of variables start with is no text. -/
  | noStart
  /-- The choice of files is no row. -/
  | noFiles (kind : String)
  /-- A chosen file has no path. -/
  | noPath (kind : String)
  /-- The encoding of the file has no name. -/
  | noEncodingName (kind : String)
  | unreadableFile (fault : Text.EncodingFault)
  /-- The words of a command line are no row. -/
  | noWords (kind : String)
  /-- Secrets are to be read from a file in place of a directory. -/
  | noDirectory
deriving DecidableEq, Repr

namespace Obstacle

/-- The name of the settings for themselves. -/
def heldName : String := "__pydantic_self__"

def className : Obstacle → String
  | nameHeld | noLength _ | noFiles _ | noPath _ | noEncodingName _ => "TypeError"
  | noStart | noWords _ | noDirectory => "SettingsError"
  | unreadableFile fault => fault.className

def message : Obstacle → String
  | nameHeld => "BaseSettings.__init__() got multiple values for argument '" ++ heldName ++ "'"
  | noLength kind => "object of type '" ++ kind ++ "' has no len()"
  | noStart =>
    "error getting value for field \"" ++ Field.serverUrl.name ++
      "\" from source \"EnvSettingsSource\""
  | noFiles kind => "'" ++ kind ++ "' object is not iterable"
  | noPath kind => "expected str, bytes or os.PathLike object, not " ++ kind
  | noEncodingName kind => "open() argument 'encoding' must be str or None, not " ++ kind
  | unreadableFile fault => fault.message
  | noWords kind =>
    "cli_parse_args must be a list or tuple of strings, received <class '" ++ kind ++ "'>"
  | noDirectory => "secrets_dir must reference a directory, not a file"

end Obstacle

end SecondFactor.Settings
