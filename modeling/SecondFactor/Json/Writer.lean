import SecondFactor.Binary64
import SecondFactor.Json
import SecondFactor.Text.Quoted

/-!
# JSON values as text

A value is shown inside a message or written as JSON.
-/
namespace SecondFactor

/-!
## Values inside messages

A server may send any value where a text is expected. It is then shown in place: a text as itself,
a number by its shortest form, truth values and the empty value by name, lists and objects with
their parts, in which texts are quoted.
-/

/-- The text of a number in a message. -/
def Number.shown : Number → String
  | .int i => Decimal.ofInt i
  | .float x => x.write Binary64.plain

namespace Json

/-- The name of a value's kind in a message about it. -/
def kindName : Json → String
  | .null => "NoneType"
  | .bool _ => "bool"
  | .number (.int _) => "int"
  | .number (.float _) => "float"
  | .text _ => "str"
  | .list _ => "list"
  | .object _ => "dict"

/-- The name of a truth value. -/
def shownBool (b : Bool) : String := if b then "True" else "False"

mutual

/-- A value inside a list or an object. -/
def shownPart : Json → String
  | .null => "None"
  | .bool b => shownBool b
  | .number n => n.shown
  | .text s => Text.quoted s
  | .list xs => "[" ++ ", ".intercalate (shownItems xs) ++ "]"
  | .object es => "\x7b" ++ ", ".intercalate (shownEntries es) ++ "\x7d"

def shownItems : List Json → List String
  | [] => []
  | x :: xs => shownPart x :: shownItems xs

def shownEntries : List (String × Json) → List String
  | [] => []
  | (k, v) :: es => (Text.quoted k ++ ": " ++ shownPart v) :: shownEntries es

end

/-- A value on its own: a text stands unquoted. -/
def shown : Json → String
  | .text s => s
  | j => shownPart j

/-- A text field of a server message. A missing or null field is empty. -/
def fieldText : Option Json → String
  | none => ""
  | some .null => ""
  | some j => j.shown

/-!
## Writing JSON

A `Form` says how texts and numbers are written; a value can be put on one line or spread over
indented lines.
-/

structure Form where
  /-- Whether every character outside printable ASCII is escaped. -/
  ascii : Bool
  numbers : Binary64.Style

/-- Escapes whatever is not printable ASCII. -/
def asciiForm : Form :=
  ⟨true, { Binary64.plain with
    nan := "NaN", infinity := "Infinity", negativeInfinity := "-Infinity" }⟩

/-- Keeps all characters but control characters; writes null for what is no real number. -/
def unicodeForm : Form := ⟨false, Binary64.compact⟩

/-- An escape of one UTF-16 unit. -/
def unitEscape (n : Nat) : List Char := '\\' :: 'u' :: Text.hexDigits 4 n

/-- An escape of a code point, by two units beyond the first plane. -/
def codeEscape (n : Nat) : List Char :=
  if n < 0x10000 then unitEscape n
  else unitEscape (0xd800 + (n - 0x10000) / 0x400) ++ unitEscape (0xdc00 + (n - 0x10000) % 0x400)

/-- One character inside a written text. -/
def Form.char (form : Form) (c : Char) : List Char :=
  match c with
  | '"' => ['\\', '"']
  | '\\' => ['\\', '\\']
  | '\n' => ['\\', 'n']
  | '\r' => ['\\', 'r']
  | '\t' => ['\\', 't']
  | '\x08' => ['\\', 'b']
  | '\x0c' => ['\\', 'f']
  | c =>
    if c.toNat < 0x20 ∨ (form.ascii ∧ 0x7f ≤ c.toNat) then codeEscape c.toNat
    else (Text.CodePoint.char c).kept

/-- One code point inside a written text. -/
def Form.codePoint (form : Form) : Text.CodePoint → List Char
  | .char c => form.char c
  | p => if form.ascii then codeEscape p.toNat else p.kept

def Form.text (form : Form) (s : String) : String :=
  String.ofList ('"' :: (Text.codePoints s.toList).flatMap form.codePoint ++ ['"'])

def Form.number (form : Form) : Number → String
  | .int i => Decimal.ofInt i
  | .float x => x.write form.numbers

/-- A value that has no parts. -/
def Form.scalar (form : Form) : Json → String
  | .null => "null"
  | .bool b => if b then "true" else "false"
  | .number n => form.number n
  | .text s => form.text s
  | .list _ => "[]"
  | .object _ => "\x7b\x7d"

mutual

/-- A value on one line. -/
def Form.inline (form : Form) : Json → String
  | .list xs => "[" ++ ", ".intercalate (form.inlineItems xs) ++ "]"
  | .object es => "\x7b" ++ ", ".intercalate (form.inlineEntries es) ++ "\x7d"
  | j => form.scalar j

def Form.inlineItems (form : Form) : List Json → List String
  | [] => []
  | x :: xs => form.inline x :: form.inlineItems xs

def Form.inlineEntries (form : Form) : List (String × Json) → List String
  | [] => []
  | (k, v) :: es => (form.text k ++ ": " ++ form.inline v) :: form.inlineEntries es

end

/-- A line break followed by two spaces for each level. -/
def lineBreak (level : Nat) : String := String.ofList ('\n' :: List.replicate (2 * level) ' ')

/-- Parts between brackets, each on a line of its own. -/
def bracketed (opening closing : String) (level : Nat) (parts : List String) : String :=
  if parts.isEmpty then opening ++ closing
  else opening ++ lineBreak (level + 1) ++ (("," ++ lineBreak (level + 1)).intercalate parts) ++
    lineBreak level ++ closing

mutual

/-- A value spread over lines, indented by two spaces per level. -/
def Form.indented (form : Form) (level : Nat) : Json → String
  | .list xs => bracketed "[" "]" level (form.indentedItems (level + 1) xs)
  | .object es => bracketed "\x7b" "\x7d" level (form.indentedEntries (level + 1) es)
  | j => form.scalar j

def Form.indentedItems (form : Form) (level : Nat) : List Json → List String
  | [] => []
  | x :: xs => form.indented level x :: form.indentedItems level xs

def Form.indentedEntries (form : Form) (level : Nat) : List (String × Json) → List String
  | [] => []
  | (k, v) :: es =>
    (form.text k ++ ": " ++ form.indented level v) :: form.indentedEntries level es

end

end Json

end SecondFactor
