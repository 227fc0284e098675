import SecondFactor.Json.Reader
import SecondFactor.Settings.Field
import SecondFactor.Text
import SecondFactor.Text.Encoding

/-!
# Lenient readings of a settings value

Values come from code, from JSON or as text, so each kind of field accepts every form that can only
mean one thing.
-/
namespace SecondFactor.Settings

/-- The first integer beyond the signed words of 64 bits. -/
def wordBound : Int := 0x8000000000000000

/-- Whether an integer fits a signed word of 64 bits. -/
def fitsWord (i : Int) : Bool := -wordBound ≤ i && i < wordBound

/-- A whole floating-point number strictly inside the range of a word. -/
def wholeWord? (x : Binary64) : Option Int :=
  x.toInt?.filter fun i => -wordBound < i && i < wordBound

def asText : Json → Except Cause String
  | .text s => .ok s
  | _ => .error .textExpected

/-- A text, or nothing if the value is null. -/
def asOptionalText : Json → Except Cause (Option String)
  | .null => .ok none
  | j => some <$> asText j

/-- Reads a text that holds no surrogates. -/
def readText {α : Type} (s : String) (read : List Char → Except Cause α) : Except Cause α :=
  if (Text.unwritable? s).isSome then .error .textUnreadable else read s.toList

/-- The words for yes and no, in any case. -/
def wordBool? (cs : List Char) : Option Bool :=
  let word := String.ofList (cs.map Char.toLower)
  if ["1", "on", "t", "true", "y", "yes"].contains word then some true
  else if ["0", "off", "f", "false", "n", "no"].contains word then some false
  else none

/-- One and zero as truth values. -/
def intBool? (i : Int) : Option Bool :=
  if i = 0 then some false else if i = 1 then some true else none

def asBool : Json → Except Cause Bool
  | .bool b => .ok b
  | .text s => readText s fun cs => (wordBool? cs).elim (.error .boolUnreadable) .ok
  | .number (.int i) =>
    if fitsWord i then (intBool? i).elim (.error .boolUnreadable) .ok else .error .boolExpected
  | .number (.float x) =>
    match wholeWord? x with
    | some i => (intBool? i).elim (.error .boolUnreadable) .ok
    | none => .error .boolExpected
  | _ => .error .boolExpected

/-- Whether two underscores stand side by side. -/
def hasDoubleUnderscore : List Char → Bool
  | '_' :: '_' :: _ => true
  | _ :: cs => hasDoubleUnderscore cs
  | [] => false

/-- The text without its underscores, if it has some and they are single and inside. -/
def withoutUnderscores? (cs : List Char) : Option (List Char) :=
  if cs.head? = some '_' ∨ cs.getLast? = some '_' ∨ !cs.contains '_' ∨ hasDoubleUnderscore cs then
    none
  else some (cs.filter (· != '_'))

/-- The rest of a text that starts with zeros and underscores, the last of which is given: from the
first other digit or a minus sign on. One character stays before a point, and one stays of a text
that has nothing else. -/
def afterZeros? : (last : Char) → List Char → Option (List Char)
  | last, [] => some [last]
  | last, c :: cs =>
    if c = '0' ∨ c = '_' then afterZeros? c cs
    else if c = '.' then some (last :: c :: cs)
    else if c.isDigit ∨ c = '-' then some (c :: cs)
    else none

/-- A text that starts with a digit, without its leading zeros. -/
def withoutLeadingZeros? : List Char → Option (List Char)
  | [] => none
  | c :: cs => if c = '0' then afterZeros? c cs else if c.isDigit then some (c :: cs) else none

/-- The text without a point and the zeros behind it. -/
def withoutZeroFraction (cs : List Char) : List Char :=
  match cs.dropWhile (· != '.') with
  | _ :: zero :: zeros =>
    if (zero :: zeros).all (· == '0') then cs.takeWhile (· != '.') else cs
  | _ => cs

/-- Reads an integer as it is written: a minus sign or none, and digits with no leading zero. -/
def writtenInt? (cs : List Char) : Option Int :=
  let negative := cs.head? == some '-'
  let ds := if negative then cs.drop 1 else cs
  if ds.isEmpty ∨ !ds.all Char.isDigit ∨ (ds.head? = some '0' ∧ 1 < ds.length) ∨
      Decimal.digitLimit < cs.length then none
  else some (Decimal.signed negative (Decimal.value (ds.map fun c => c.toNat - 48)))

/-- Whether a text starts with more digits, counted with a minus sign, than are read. -/
def startsTooLong (cs : List Char) : Bool :=
  let ds := if cs.head? = some '-' then cs.drop 1 else cs
  ds.head? != some '0' &&
    Decimal.digitLimit < (ds.takeWhile Char.isDigit).length + (cs.length - ds.length)

/-- An integer as text. Around it may be blanks, before it a sign and zeros, behind it a fraction
of zeros, and in it single underscores. -/
def intText (cs : List Char) : Except Cause Int :=
  if startsTooLong cs then .error .intTooLong
  else
    let (negative, cs) := Decimal.sign (Text.trimWhile Text.isWhiteSpace cs)
    let written := do
      let digits := withoutZeroFraction (← withoutLeadingZeros? cs)
      let digits := (withoutUnderscores? digits).getD digits
      writtenInt? (if negative then '-' :: digits else digits)
    written.elim (.error .intUnreadable) .ok

def asInt : Json → Except Cause Int
  | .bool b => .ok (if b then 1 else 0)
  | .number (.int i) => .ok i
  | .number (.float x) =>
    match x.toRatio?, x.toInt? with
    | none, _ => .error .notFinite
    | some _, none => .error .intFractional
    | some _, some _ => (wholeWord? x).elim (.error .intTooLong) .ok
  | .text s => readText s intText
  | _ => .error .intExpected

/-- Reads a floating-point number: a sign, then a name of no real number in any case, or digits
with a point and an exponent. -/
def writtenFloat? (cs : List Char) : Option Binary64 :=
  let (negative, cs) := Decimal.sign cs
  let word := String.ofList (cs.map Char.toLower)
  if word = "inf" ∨ word = "infinity" then some (.infinity negative)
  else if word = "nan" then some .nan
  else
    let whole := cs.takeWhile Char.isDigit
    let rest := cs.dropWhile Char.isDigit
    let part := if rest.head? = some '.' then (rest.drop 1).takeWhile Char.isDigit else []
    let rest := if rest.head? = some '.' then (rest.drop 1).dropWhile Char.isDigit else rest
    let number := fun exponent : Int =>
      some (Binary64.ofDecimal negative
        (Decimal.value ((whole ++ part).map fun c => c.toNat - 48)) (exponent - part.length))
    if (whole ++ part).isEmpty then none
    else match rest with
      | [] => number 0
      | e :: rest =>
        let (minus, ds) := Decimal.sign rest
        if (e = 'e' ∨ e = 'E') ∧ !ds.isEmpty ∧ ds.all Char.isDigit then
          number (Decimal.signed minus (Decimal.value (ds.map fun c => c.toNat - 48)))
        else none

/-- A floating-point number as text, with blanks around it or with single underscores in it. -/
def floatText (cs : List Char) : Except Cause Binary64 :=
  (writtenFloat? (Text.trimWhile Text.isWhiteSpace cs) <|>
    (withoutUnderscores? cs).bind writtenFloat?).elim (.error .floatUnreadable) .ok

def asFloat : Json → Except Cause Binary64
  | .bool b => .ok (Binary64.ofDecimal false (if b then 1 else 0) 0)
  | .number (.int i) => (Binary64.ofInt? i).elim (.error .floatExpected) .ok
  | .number (.float x) => .ok x
  | .text s => readText s floatText
  | _ => .error .floatExpected

/-!
## Lists written as text

A list setting may be a JSON array or items separated by commas. A text in brackets that is no JSON
array is read as items too, without the brackets at its ends. Only an array that is nested too deep
is refused.
-/

/-- The items between the commas, trimmed, without the empty ones. -/
def commaItems (cs : List Char) : List (List Char) :=
  ((cs.splitOn ',').map (Text.trimWhile Text.isBlank)).filter (!·.isEmpty)

/-- The items as values. -/
def itemValues (cs : List Char) : List Json :=
  (commaItems cs).map fun item => .text (String.ofList item)

def isBracket (c : Char) : Bool := c == '[' || c == ']'

/-- The list that a text stands for. An array is read with no more than `depth` lists and objects
open at once. -/
def listOfText (depth : Nat) (s : String) : Except Json.Container (List Json) :=
  let cs := Text.trimWhile Text.isBlank s.toList
  if cs.head? = some '[' then
    match Json.read depth (String.ofList cs) with
    | .ok (.list items) => .ok items
    | .error (.tooDeep inner) => .error inner
    | _ => .ok (itemValues (Text.trimWhile isBracket cs))
  else .ok (itemValues cs)

/-- A list setting with a text read as a list; other values are left as they are. -/
def expandListText (depth : Nat) : Json → Except Json.Container Json
  | .text s => .list <$> listOfText depth s
  | j => .ok j

end SecondFactor.Settings
