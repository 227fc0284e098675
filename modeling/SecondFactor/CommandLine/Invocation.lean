import SecondFactor.Decimal
import SecondFactor.Text

/-!
# Invocations of the program

The words of an invocation start with options of the program itself and go on with a command and
its own words. Help wins over everything but options that are not known; a command's own words are
read after the program's options took effect.
-/
namespace SecondFactor.CommandLine

/-!
## Options in a row of words

An option is written with its long name or its letter. Letters may be put together after one dash.
A value stands in the next word, after `=` behind a long name, or right behind a letter. The word
`--` ends the options. A single dash and words that do not start with one are arguments.
-/

/-- An option: its names and whether it takes a value. -/
structure OptionSpec (α : Type) where
  option : α
  long : String
  letter : Option Char
  takesValue : Bool

/-- An option in a row of words, with its value if it takes one. -/
structure Given (α : Type) where
  option : α
  value : Option String
deriving Repr

/-- A row of words taken apart: its options and its arguments, each in order. -/
structure Words (α : Type) where
  options : List (Given α)
  arguments : List String
deriving Repr

/-- A word with options: those that are complete, and one that still needs a value. -/
structure OptionWord (α : Type) where
  complete : List (Given α)
  open? : Option α

variable {α : Type}

/-- A word that starts with a long name. -/
def readLong (specs : List (OptionSpec α)) (word : List Char) : Option (OptionWord α) :=
  let name := String.ofList (word.takeWhile (· != '='))
  let value? := match word.dropWhile (· != '=') with
    | [] => none
    | _ :: value => some (String.ofList value)
  match specs.find? (·.long = name), value? with
  | none, _ => none
  | some spec, none =>
    if spec.takesValue then some ⟨[], some spec.option⟩ else some ⟨[⟨spec.option, none⟩], none⟩
  | some spec, some value =>
    if spec.takesValue then some ⟨[⟨spec.option, some value⟩], none⟩ else none

/-- The letters after a dash; behind a letter that takes a value the rest of them is the value. -/
def readLetters (specs : List (OptionSpec α)) : List Char → Option (OptionWord α)
  | [] => some ⟨[], none⟩
  | c :: cs =>
    match specs.find? (·.letter = some c) with
    | none => none
    | some spec =>
      if spec.takesValue then
        if cs.isEmpty then some ⟨[], some spec.option⟩
        else some ⟨[⟨spec.option, some (String.ofList cs)⟩], none⟩
      else (readLetters specs cs).map fun w =>
        { w with complete := ⟨spec.option, none⟩ :: w.complete }

/-- The options in a word, unless one of them is not known or its value is wrongly placed. -/
def readOptionWord (specs : List (OptionSpec α)) : List Char → Option (OptionWord α)
  | '-' :: '-' :: cs => readLong specs ('-' :: '-' :: cs)
  | cs => readLetters specs (cs.drop 1)

/-- Whether a word holds options. -/
def isOptionWord (word : String) : Bool := word.startsWith "-" && word != "-"

namespace Words

def withOptions (os : List (Given α)) (w : Words α) : Words α :=
  { w with options := os ++ w.options }

def withArgument (a : String) (w : Words α) : Words α := { w with arguments := a :: w.arguments }

/-- Takes a row of words apart. With `mixed`, options may follow arguments; otherwise the first
argument ends them. -/
def read (specs : List (OptionSpec α)) (mixed : Bool) : List String → Option (Words α)
  | [] => some ⟨[], []⟩
  | "--" :: rest => some ⟨[], rest⟩
  | word :: rest =>
    if isOptionWord word then
      match readOptionWord specs word.toList, rest with
      | none, _ => none
      | some ⟨os, none⟩, rest => (read specs mixed rest).map (withOptions os)
      | some ⟨_, some _⟩, [] => none
      | some ⟨os, some o⟩, value :: rest =>
        (read specs mixed rest).map (withOptions (os ++ [⟨o, some value⟩]))
    else if mixed then (read specs mixed rest).map (withArgument word)
    else some ⟨[], word :: rest⟩

/-- The values of an option, in order. -/
def values [DecidableEq α] (w : Words α) (option : α) : List String :=
  (w.options.filter (·.option = option)).filterMap (·.value)

/-- How many times an option is given. -/
def count [DecidableEq α] (w : Words α) (option : α) : Nat :=
  (w.options.filter (·.option = option)).length

def has [DecidableEq α] (w : Words α) (option : α) : Bool := 0 < w.count option

end Words

/-! ## The program and its commands -/

/-- What comes of reading words. -/
inductive Reading (α : Type)
  | help
  /-- The words are no valid use of the program. -/
  | misuse
  /-- The words ask for something that the program cannot do here. -/
  | unsupported
  | read (a : α)
deriving DecidableEq, Repr

inductive LogFormat
  | console
  | json
deriving DecidableEq, Repr

/-- The format with a given name. -/
def LogFormat.ofName? : String → Option LogFormat
  | "console" => some console
  | "json" => some json
  | _ => none

inductive CommandName
  | login
  | version
  | config
  | tokens
deriving DecidableEq, Repr

def CommandName.ofName? : String → Option CommandName
  | "login" => some login
  | "version" => some version
  | "config" => some config
  | "tokens" => some tokens
  | _ => none

/-- The program's own options, and the command with its words. -/
structure Invocation where
  verbosity : Nat
  logFormat : Option LogFormat
  command : Option (CommandName × List String)
deriving DecidableEq, Repr

/-- The options of the program. -/
inductive ProgramOption
  | verbose
  | logFormat
  | installCompletion
  | showCompletion
  | help
deriving DecidableEq, Repr

def programOptions : List (OptionSpec ProgramOption) :=
  [⟨.verbose, "--verbose", some 'v', false⟩, ⟨.logFormat, "--log-format", none, true⟩,
    ⟨.installCompletion, "--install-completion", none, false⟩,
    ⟨.showCompletion, "--show-completion", none, false⟩, ⟨.help, "--help", some 'h', false⟩]

/-- The log format of an invocation: that of the last option for it, which has to be a known one. -/
def readLogFormat (words : Words ProgramOption) : Reading (Option LogFormat) :=
  match (words.values .logFormat).getLast? with
  | none => .read none
  | some name =>
    match LogFormat.ofName? name with
    | none => .misuse
    | some format => .read (some format)

/-- Whether an option asks for the completion of words in a shell. -/
def ProgramOption.isCompletion (o : ProgramOption) : Bool :=
  o = .installCompletion || o = .showCompletion

/-- Whether the completion of words is asked for before the log format. -/
def startsWithCompletion (words : Words ProgramOption) : Bool :=
  ((words.options.map (·.option)).find? fun o => o.isCompletion || o = .logFormat).any
    ProgramOption.isCompletion

/-- Reads the options of the program. Completion is not supported, as the shell is not known. -/
def readProgramOptions (args : List String) : Reading (Words ProgramOption × Option LogFormat) :=
  match Words.read programOptions false args with
  | none => .misuse
  | some words =>
    if words.has .help then .help
    else if startsWithCompletion words then .unsupported
    else match readLogFormat words with
      | .read format =>
        if words.options.any (·.option.isCompletion) then .unsupported else .read (words, format)
      | .help => .help
      | .misuse => .misuse
      | .unsupported => .unsupported

/-- Reads an invocation up to its command. A word in the place of the command that is not one is
taken for options once more, so that help is still found. -/
def Invocation.read (args : List String) : Reading Invocation :=
  if args.isEmpty then .misuse
  else match readProgramOptions args with
    | .help => .help
    | .misuse => .misuse
    | .unsupported => .unsupported
    | .read (words, logFormat) =>
      let verbosity := words.count .verbose
      match words.arguments with
      | [] => .read ⟨verbosity, logFormat, none⟩
      | name :: rest =>
        match CommandName.ofName? name with
        | some command => .read ⟨verbosity, logFormat, some (command, rest)⟩
        | none =>
          match readProgramOptions (name :: rest) with
          | .help => .help
          | .unsupported => .unsupported
          | _ => .misuse

inductive Command
  | version
  | config (json : Bool)
  | tokens (username : String) (json : Bool)
  | login (username : String) (groups : List String) (secret : Option String) (maxAttempts : Int)
deriving DecidableEq, Repr

/-- The options of the commands. -/
inductive CommandOption
  | json
  | group
  | totpSecret
  | maxAttempts
  | help
deriving DecidableEq, Repr

def helpOption : OptionSpec CommandOption := ⟨.help, "--help", some 'h', false⟩

def CommandName.options : CommandName → List (OptionSpec CommandOption)
  | .version => [helpOption]
  | .config | .tokens => [⟨.json, "--json", some 'j', false⟩, helpOption]
  | .login =>
    [⟨.group, "--group", some 'g', true⟩, ⟨.totpSecret, "--totp-secret", none, true⟩,
      ⟨.maxAttempts, "--max-attempts", none, true⟩, helpOption]

/-- The submissions allowed when the invocation does not say. -/
def defaultMaxAttempts : Int := 10

/-- The submissions that a login allows: at least one. -/
def readMaxAttempts (words : Words CommandOption) : Option Int :=
  match (words.values .maxAttempts).getLast? with
  | none => some defaultMaxAttempts
  | some text => (Decimal.readTyped? text).filter (1 ≤ ·)

/-- The name of the variable that holds a secret for logins. -/
def secretVariable : String := "MFABRIDGE_TOTP_SECRET"

/-- The secret of a login, from its option or else from the environment. -/
def readSecret (words : Words CommandOption) (vars : List (String × String)) :
    Option String :=
  match (words.values .totpSecret).getLast? with
  | some secret => some secret
  | none => Text.given? (vars.lookup secretVariable)

/-- Reads the words of a command. -/
def Command.read (vars : List (String × String)) (name : CommandName) (args : List String) :
    Reading Command :=
  match Words.read name.options true args with
  | none => .misuse
  | some words =>
    if words.has .help then .help
    else match name, words.arguments with
      | .version, [] => .read .version
      | .config, [] => .read (.config (words.has .json))
      | .tokens, [username] => .read (.tokens username (words.has .json))
      | .login, [username] =>
        match readMaxAttempts words with
        | none => .misuse
        | some maxAttempts =>
          .read (.login username (words.values .group) (readSecret words vars) maxAttempts)
      | _, _ => .misuse

end SecondFactor.CommandLine
