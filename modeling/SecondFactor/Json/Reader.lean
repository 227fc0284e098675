import SecondFactor.Json
import SecondFactor.Text.CodePoint

/-!
# Reading JSON

The text is cut into tokens by a scanner that moves one character at a time, and the tokens are fed
to a machine with a stack of open lists and objects. Both steps recurse on their input; the stack
has a limit, which is that of the process and depends on what it is doing. Besides the standard
form, the names `NaN`, `Infinity` and `-Infinity` are numbers; an escaped surrogate without its
partner stays a surrogate.
-/
namespace SecondFactor.Json

/-- The values that hold others. -/
inductive Container
  | list
  | object
deriving DecidableEq, Repr

def Container.name : Container → String
  | list => "array"
  | object => "object"

/-- Why a text is no JSON value. -/
inductive ReadError
  /-- The text does not follow the grammar. -/
  | malformed
  /-- A whole number has more digits than `Decimal.digitLimit`. -/
  | numberTooLong
  /-- A list or an object opens inside as many others as may be open at once. -/
  | tooDeep (inner : Container)
deriving DecidableEq, Repr

inductive Token
  | value (j : Json)
  | openList
  | closeList
  | openObject
  | closeObject
  | comma
  | colon
  /-- Something that is no token; `numberTooLong` where a value would have been. -/
  | bad (e : ReadError)

/-- A character of a text in the making: itself, or a UTF-16 unit from an escape. -/
inductive Piece
  | char (c : Char)
  | unit (n : Nat)

/-- Joins escaped surrogate pairs. -/
def joinPieces : List Piece → List Char
  | [] => []
  | .char c :: rest => c :: joinPieces rest
  | .unit a :: .unit b :: rest =>
    if 0xd800 ≤ a ∧ a < 0xdc00 ∧ 0xdc00 ≤ b ∧ b < 0xe000 then
      let n := 0x10000 + (a - 0xd800) * 0x400 + (b - 0xdc00)
      (Text.CodePoint.ofNat n).kept ++ joinPieces rest
    else (Text.CodePoint.ofNat a).kept ++ joinPieces (.unit b :: rest)
  | .unit a :: rest => (Text.CodePoint.ofNat a).kept ++ joinPieces rest

/-- The characters between tokens. -/
def isSpace (c : Char) : Bool := c == ' ' || c == '\t' || c == '\n' || c == '\r'

/-- The characters of numbers and names. -/
def isWordChar (c : Char) : Bool := c.isAlphanum || c == '+' || c == '-' || c == '.'

/-- The parts of a number's text, and what follows it. -/
structure Numeral where
  negative : Bool
  whole : List Char
  /-- The digits after the point, if there is a point with digits after it. -/
  part : Option (List Char)
  exponent : Option Int
  rest : List Char

/-- The value of ASCII digits. -/
def asciiValue (ds : List Char) : Nat := Decimal.value (ds.map fun c => c.toNat - 48)

/-- Splits a point with at least one digit off. -/
def splitPart : List Char → Option (List Char) × List Char
  | '.' :: cs =>
    let ds := cs.takeWhile Char.isDigit
    if ds.isEmpty then (none, '.' :: cs) else (some ds, cs.dropWhile Char.isDigit)
  | cs => (none, cs)

/-- Splits an exponent with at least one digit off. -/
def splitExponent : List Char → Option Int × List Char
  | e :: cs =>
    if e = 'e' ∨ e = 'E' then
      let (negative, ds) := Decimal.sign cs
      let digits := ds.takeWhile Char.isDigit
      if digits.isEmpty then (none, e :: cs)
      else (some (Decimal.signed negative (asciiValue digits)), ds.dropWhile Char.isDigit)
    else (none, e :: cs)
  | [] => (none, [])

/-- The longest number at the start of a word. The whole part is zero or starts with another
digit. -/
def splitNumeral (cs : List Char) : Option Numeral :=
  let (negative, cs) := match cs with
    | '-' :: rest => (true, rest)
    | cs => (false, cs)
  let whole := match cs with
    | '0' :: _ => ['0']
    | cs => cs.takeWhile Char.isDigit
  if whole.isEmpty then none
  else
    let (part, cs) := splitPart (cs.drop whole.length)
    let (exponent, cs) := splitExponent cs
    some ⟨negative, whole, part, exponent, cs⟩

/-- A number with a point or an exponent is a floating-point number. -/
def Numeral.value (n : Numeral) : Except ReadError Number :=
  if n.part.isNone && n.exponent.isNone then
    if Decimal.digitLimit < n.whole.length then .error .numberTooLong
    else .ok (.int (Decimal.signed n.negative (asciiValue n.whole)))
  else
    let part := n.part.getD []
    .ok (.float (.ofDecimal n.negative (asciiValue (n.whole ++ part))
      (n.exponent.getD 0 - part.length)))

/-- What a word stands for. -/
def wordToken (cs : List Char) : Token :=
  match String.ofList cs with
  | "null" => .value .null
  | "true" => .value (.bool true)
  | "false" => .value (.bool false)
  | "NaN" => .value (.number (.float .nan))
  | "Infinity" => .value (.number (.float (.infinity false)))
  | "-Infinity" => .value (.number (.float (.infinity true)))
  | _ =>
    match splitNumeral cs with
    | none => .bad .malformed
    | some n =>
      match n.value with
      | .error e => .bad e
      | .ok v => if n.rest.isEmpty then .value (.number v) else .bad .malformed

/-- Where the scanner stands. Collected characters are in reverse. -/
inductive Mode
  | between
  | word (chars : List Char)
  | text (pieces : List Piece)
  | escape (pieces : List Piece)
  | hex (pieces : List Piece) (left value : Nat)

/-- The value of a hexadecimal digit. -/
def hexValue? (c : Char) : Option Nat :=
  if c.isDigit then some (c.toNat - 48)
  else if 'a' ≤ c ∧ c ≤ 'f' then some (c.toNat - 87)
  else if 'A' ≤ c ∧ c ≤ 'F' then some (c.toNat - 55)
  else none

/-- The character that a short escape stands for. -/
def escaped? : Char → Option Char
  | '"' => some '"'
  | '\\' => some '\\'
  | '/' => some '/'
  | 'b' => some '\x08'
  | 'f' => some '\x0c'
  | 'n' => some '\n'
  | 'r' => some '\r'
  | 't' => some '\t'
  | _ => none

/-- One character outside words and texts. -/
def stepBetween (c : Char) : Mode × List Token :=
  if isSpace c then (.between, [])
  else if isWordChar c then (.word [c], [])
  else match c with
    | '"' => (.text [], [])
    | '[' => (.between, [.openList])
    | ']' => (.between, [.closeList])
    | '{' => (.between, [.openObject])
    | '}' => (.between, [.closeObject])
    | ',' => (.between, [.comma])
    | ':' => (.between, [.colon])
    | _ => (.between, [.bad .malformed])

def Mode.step : Mode → Char → Mode × List Token
  | .between, c => stepBetween c
  | .word cs, c =>
    if isWordChar c then (.word (c :: cs), [])
    else
      let (mode, tokens) := stepBetween c
      (mode, wordToken cs.reverse :: tokens)
  | .text ps, c =>
    if c = '"' then (.between, [.value (.text (String.ofList (joinPieces ps.reverse)))])
    else if c = '\\' then (.escape ps, [])
    else if c.toNat < 0x20 then (.between, [.bad .malformed])
    else (.text (.char c :: ps), [])
  | .escape ps, c =>
    if c = 'u' then (.hex ps 4 0, [])
    else match escaped? c with
      | some x => (.text (.char x :: ps), [])
      | none => (.between, [.bad .malformed])
  | .hex ps left n, c =>
    match hexValue? c with
    | none => (.between, [.bad .malformed])
    | some d =>
      if left ≤ 1 then (.text (.unit (16 * n + d) :: ps), [])
      else (.hex ps (left - 1) (16 * n + d), [])

/-- What the end of the input leaves. -/
def Mode.finish : Mode → List Token
  | .between => []
  | .word cs => [wordToken cs.reverse]
  | _ => [.bad .malformed]

/-- The tokens of a text. -/
def scan : Mode → List Char → List Token
  | mode, [] => mode.finish
  | mode, c :: cs =>
    let (next, tokens) := mode.step c
    tokens ++ scan next cs

/-- A list or an object that is still open, with what it holds so far; a list in reverse. -/
inductive Frame
  | list (done : List Json)
  | object (done : List (String × Json)) (key : String)

/-- What the machine expects next. -/
inductive State
  | value (frames : List Frame)
  | firstItem (frames : List Frame)
  | firstKey (frames : List Frame)
  | key (done : List (String × Json)) (frames : List Frame)
  | colon (done : List (String × Json)) (key : String) (frames : List Frame)
  | done (j : Json) (frames : List Frame)

/-- Opens a list or an object; no more than `depth` of them may be open at once. -/
def openContainer (depth : Nat) (frames : List Frame) (inner : Container) :
    Except ReadError State :=
  if depth ≤ frames.length then .error (.tooDeep inner)
  else match inner with
    | .list => .ok (.firstItem frames)
    | .object => .ok (.firstKey frames)

/-- A token where a value must start. -/
def startValue (depth : Nat) (frames : List Frame) : Token → Except ReadError State
  | .value j => .ok (.done j frames)
  | .openList => openContainer depth frames .list
  | .openObject => openContainer depth frames .object
  | .bad e => .error e
  | _ => .error .malformed

def State.step (depth : Nat) : State → Token → Except ReadError State
  | .value frames, t => startValue depth frames t
  | .firstItem frames, .closeList => .ok (.done (.list []) frames)
  | .firstItem frames, t => startValue depth (.list [] :: frames) t
  | .firstKey frames, .closeObject => .ok (.done (.object []) frames)
  | .firstKey frames, .value (.text k) => .ok (.colon [] k frames)
  | .key es frames, .value (.text k) => .ok (.colon es k frames)
  | .colon es k frames, .colon => .ok (.value (.object es k :: frames))
  | .done j (.list xs :: frames), .comma => .ok (.value (.list (j :: xs) :: frames))
  | .done j (.list xs :: frames), .closeList => .ok (.done (.list (j :: xs).reverse) frames)
  | .done j (.object es k :: frames), .comma => .ok (.key (Entries.insert k j es) frames)
  | .done j (.object es k :: frames), .closeObject =>
    .ok (.done (.object (Entries.insert k j es)) frames)
  | _, _ => .error .malformed

/-- Reads a text that holds one JSON value, with no more than `depth` lists and objects open at
once. -/
def read (depth : Nat) (s : String) : Except ReadError Json :=
  match (scan .between s.toList).foldlM (State.step depth) (State.value []) with
  | .ok (.done j []) => .ok j
  | .ok _ => .error .malformed
  | .error e => .error e

/-- The depth that is left to a program with a stack of a thousand frames, some of them in use. -/
def usualDepth : Nat := 980

/-! ## Nesting -/

theorem scan_openLists (n : Nat) :
    scan .between (List.replicate n '[') = List.replicate n .openList := by
  induction n with
  | zero => rfl
  | succ n ih =>
    have hstep : stepBetween '[' = (.between, [.openList]) := by rfl
    simp [List.replicate_succ, scan, Mode.step, hstep, ih]

theorem step_value_openList (depth : Nat) (frames : List Frame) :
    State.step depth (.value frames) .openList =
      if depth ≤ frames.length then .error (.tooDeep .list) else .ok (.firstItem frames) := rfl

/-- Opening lists ends in an error once there are too many. -/
theorem foldlM_openLists {depth n : Nat} {frames : List Frame} (hfits : frames.length ≤ depth)
    (h : depth < frames.length + n) :
    (List.replicate n Token.openList).foldlM (State.step depth) (.value frames) =
      .error (.tooDeep .list) := by
  induction n generalizing frames with
  | zero => omega
  | succ n ih =>
    rw [List.replicate_succ, List.foldlM_cons, step_value_openList]
    split
    · rfl
    · next hfull =>
      have hitem : (List.replicate n Token.openList).foldlM (State.step depth) (.firstItem frames) =
          (List.replicate n Token.openList).foldlM (State.step depth)
            (.value (.list [] :: frames)) := by
        cases n with
        | zero => omega
        | succ n => rfl
      exact hitem.trans (ih (by simp only [List.length_cons]; omega)
        (by simp only [List.length_cons]; omega))

theorem read_openLists {depth n : Nat} (h : depth < n) :
    read depth (String.ofList (List.replicate n '[')) = .error (.tooDeep .list) := by
  have hmachine : (List.replicate n Token.openList).foldlM (State.step depth) (.value []) =
      .error (.tooDeep .list) :=
    foldlM_openLists (Nat.zero_le _) (by simpa using h)
  rw [read, String.toList_ofList, scan_openLists, hmachine]

end SecondFactor.Json
