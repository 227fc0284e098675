import SecondFactor.Binary64
import SecondFactor.Json.Writer

/-!
# Message templates

A template is filled with its arguments, directive by directive, or cannot be filled.
-/
namespace SecondFactor.Log

/-!
## Directives

A directive writes one value: `%s` shows it, `%r` shows it as a part and `%a` does so in ASCII; `%c`
writes a character, `%d` (`%i`, `%u`), `%o`, `%x` and `%X` a whole number, and `%f`, `%e` and `%g`,
in either case, a floating-point number. A `Layout` holds the flags, the least width and the
precision.
-/

/-- Why a template cannot be filled. -/
inductive TemplateError
  | tooFewArguments
  | tooManyArguments
  /-- The template ends inside a directive. -/
  | incomplete
  | unknownDirective (letter : Text.CodePoint) (index : Nat)
  /-- A directive by name, where there are no names. -/
  | mappingExpected
  | unknownName (name : String)
  /-- A directive by name, where there is a list. -/
  | nameInList
  /-- The template ends inside a name. -/
  | incompleteName
  /-- A width or a precision taken from the arguments is no whole number. -/
  | sizeExpected
  | widthTooBig
  | precisionTooBig
  /-- A width taken from the arguments fits no word. -/
  | widthOverflow
  /-- A precision taken from the arguments fits no word. -/
  | precisionOverflow
  /-- More digits are asked for than whole numbers are written with. -/
  | tooManyDigits
  | outOfMemory
  | numberExpected (letter : Char) (kind : String)
  | integerExpected (letter : Char) (kind : String)
  | realExpected (kind : String)
  | characterExpected
  | characterOutOfRange
  | notANumber
  | infinite
  | floatTooLarge
deriving DecidableEq, Repr

namespace TemplateError

def className : TemplateError → String
  | tooFewArguments | tooManyArguments | mappingExpected | nameInList | sizeExpected
  | numberExpected .. | integerExpected .. | realExpected _ | characterExpected => "TypeError"
  | unknownName _ => "KeyError"
  | incomplete | incompleteName | unknownDirective .. | widthTooBig | precisionTooBig
  | notANumber => "ValueError"
  | characterOutOfRange | infinite | floatTooLarge | widthOverflow | precisionOverflow
  | tooManyDigits => "OverflowError"
  | outOfMemory => "MemoryError"

/-- The letter of an unknown directive; one that is not plain ASCII shows as a question mark. -/
def shownLetter : Text.CodePoint → Char
  | .char c => if 31 ≤ c.toNat ∧ c.toNat < 127 then c else '?'
  | _ => '?'

def message : TemplateError → String
  | tooFewArguments => "not enough arguments for format string"
  | tooManyArguments => "not all arguments converted during string formatting"
  | incomplete => "incomplete format"
  | unknownDirective p i =>
    "unsupported format character '" ++ String.singleton (shownLetter p) ++ "' (0x" ++
      String.ofList (Nat.toDigits 16 p.toNat) ++ ") at index " ++ Decimal.ofNat i
  | mappingExpected => "format requires a mapping"
  | unknownName name => Text.quoted name
  | nameInList => "list indices must be integers or slices, not str"
  | incompleteName => "incomplete format key"
  | sizeExpected => "* wants int"
  | widthTooBig => "width too big"
  | precisionTooBig => "precision too big"
  | widthOverflow => "Python int too large to convert to C ssize_t"
  | precisionOverflow => "Python int too large to convert to C int"
  | tooManyDigits => "precision too large"
  | outOfMemory => ""
  | numberExpected c kind =>
    "%" ++ String.singleton c ++ " format: a real number is required, not " ++ kind
  | integerExpected c kind =>
    "%" ++ String.singleton c ++ " format: an integer is required, not " ++ kind
  | realExpected kind => "must be real number, not " ++ kind
  | characterExpected => "%c requires int or char"
  | characterOutOfRange => "%c arg not in range(0x110000)"
  | notANumber => "cannot convert float NaN to integer"
  | infinite => "cannot convert float infinity to integer"
  | floatTooLarge => "int too large to convert to float"

end TemplateError

/-- The value of an argument that is a whole number; truth values count as one and zero. -/
def integer? : Json → Option Int
  | .bool b => some (if b then 1 else 0)
  | .number (.int i) => some i
  | _ => none

/-- The whole number of an argument of `%d`; a fraction is dropped. -/
def wholeNumber (letter : Char) : Json → Except TemplateError Int
  | .number (.float .nan) => .error .notANumber
  | .number (.float (.infinity _)) => .error .infinite
  | .number (.float x) => .ok (x.toRatio?.elim 0 fun (num, den) => num.tdiv den)
  | j => (integer? j).elim (.error (.numberExpected letter (j.kindName))) .ok

/-- The floating-point number of an argument of `%f`. -/
def realNumber : Json → Except TemplateError Binary64
  | .number (.float x) => .ok x
  | j =>
    match integer? j with
    | none => .error (.realExpected (j.kindName))
    | some i => (Binary64.ofInt? i).elim (.error .floatTooLarge) .ok

/-- The code point of an argument of `%c`: a text of one, or its number. -/
def character (j : Json) : Except TemplateError Text.CodePoint :=
  match j, integer? j with
  | .text s, _ =>
    match Text.codePoints s.toList with
    | [p] => .ok p
    | _ => .error .characterExpected
  | _, some i =>
    if i < 0 ∨ 0x110000 ≤ i then .error .characterOutOfRange
    else .ok (.ofNat i.toNat)
  | _, none => .error .characterExpected

/-- A text in which every code point beyond ASCII is escaped. -/
def asciiText (s : String) : String :=
  String.ofList ((Text.codePoints s.toList).flatMap fun p =>
    if p.toNat < 0x80 then p.kept else Text.codeEscape p.toNat)

/-- What stands between the mark and the letter of a directive. -/
structure Layout where
  left : Bool := false
  plus : Bool := false
  blank : Bool := false
  zero : Bool := false
  alternate : Bool := false
  width : Nat := 0
  precision : Option Nat := none
deriving Repr

namespace Layout

/-- Sets the flag that a character stands for. -/
def flag? (l : Layout) : Char → Option Layout
  | '-' => some { l with left := true }
  | '+' => some { l with plus := true }
  | ' ' => some { l with blank := true }
  | '0' => some { l with zero := true }
  | '#' => some { l with alternate := true }
  | _ => none

/-- Fills a text up to the width with blanks. -/
def fill (l : Layout) (cs : List Char) : List Char :=
  let blanks := List.replicate (l.width - Text.size cs) ' '
  if l.left then cs ++ blanks else blanks ++ cs

/-- A text, cut to the precision. -/
def text (l : Layout) (s : String) : List Char :=
  l.fill (l.precision.elim s.toList fun n => Text.take n s.toList)

/-- A number by its sign, the mark of its base and its digits; where asked for, zeros fill up the
width. -/
def number (l : Layout) (negative : Bool) (mark ds : List Char) : List Char :=
  let sign := if negative then ['-'] else if l.plus then ['+'] else if l.blank then [' '] else []
  let front := sign ++ mark
  let zeros := if l.zero && !l.left then l.width - front.length - ds.length else 0
  l.fill (front ++ List.replicate zeros '0' ++ ds)

/-- A whole number in a base; zeros fill up to the precision. -/
def integer (l : Layout) (mark : List Char) (base : Nat) (upper : Bool) (i : Int) : List Char :=
  let ds := Nat.toDigits base i.natAbs
  let ds := if upper then ds.map Char.toUpper else ds
  l.number (i < 0) (if l.alternate then mark else [])
    (List.replicate (l.precision.getD 0 - ds.length) '0' ++ ds)

/-- The precision at which the count of digits of `%e` no longer fits its word. -/
def wrappedPrecision : Nat := 0x7fffffff

/-- The digits of a floating-point number in the form that a letter stands for. At the wrapped
precision `%e` writes one digit. -/
def places (l : Layout) (letter : Char) (m : Nat) (e : Int) : List Char :=
  let n := l.precision.getD 6
  match letter.toLower with
  | 'f' => Binary64.fixed l.alternate n m e
  | 'e' => Binary64.scientific l.alternate (if n = wrappedPrecision then 0 else n) m e
  | _ =>
    let n := if l.alternate then n else min n Binary64.allDigits
    Binary64.general l.alternate (max n 1) m e

/-- A floating-point number in the form that a letter stands for. -/
def float (l : Layout) (letter : Char) (x : Binary64) : List Char :=
  let (negative, cs) := match x with
    | .nan => (false, ['n', 'a', 'n'])
    | .infinity negative => (negative, ['i', 'n', 'f'])
    | .finite negative m e => (negative, l.places letter m e)
  l.number negative [] (if letter.isUpper then cs.map Char.toUpper else cs)

/-- The longest text that is written. -/
def textLimit : Nat := 0x40000000

/-- The most digits that a whole number is written with. -/
def digitLimit : Nat := 0x7ffffffc

/-- How many characters the precision makes a floating-point number have at least. -/
def floatSize (l : Layout) (letter : Char) : Binary64 → Nat
  | .finite _ _ _ =>
    let n := l.precision.getD 6
    match letter.toLower with
    | 'f' => n
    | 'e' => if n = wrappedPrecision then 0 else n
    | _ => if l.alternate then n else 0
  | _ => 0

/-- Writes a text of at least `size` characters and the width, if memory holds it. -/
def inMemory (l : Layout) (size : Nat) (cs : Unit → List Char) :
    Except TemplateError (List Char) :=
  if max l.width size ≤ textLimit then .ok (cs ()) else .error .outOfMemory

/-- Writes a whole number in a base, if its digits are not too many. -/
def inBase (l : Layout) (mark : List Char) (base : Nat) (upper : Bool) (i : Int) :
    Except TemplateError (List Char) :=
  let size := l.precision.getD 0
  if digitLimit < size then .error .tooManyDigits
  else l.inMemory size fun _ => l.integer mark base upper i

/-- What the directive with a letter, at an index of its template, writes for a value. -/
def write (l : Layout) (letter : Char) (index : Nat) (j : Json) :
    Except TemplateError (List Char) :=
  let exact : Except TemplateError Int :=
    (integer? j).elim (.error (.integerExpected letter (j.kindName))) .ok
  match letter with
  | 's' => l.inMemory 0 fun _ => l.text j.shown
  | 'r' => l.inMemory 0 fun _ => l.text j.shownPart
  | 'a' => l.inMemory 0 fun _ => l.text (asciiText j.shownPart)
  | 'c' => do
    let p ← character j
    l.inMemory 0 fun _ => l.fill p.kept
  | 'd' | 'i' | 'u' => do l.inBase [] 10 false (← wholeNumber letter j)
  | 'o' => do l.inBase ['0', 'o'] 8 false (← exact)
  | 'x' => do l.inBase ['0', 'x'] 16 false (← exact)
  | 'X' => do l.inBase ['0', 'X'] 16 true (← exact)
  | 'f' | 'F' | 'e' | 'E' | 'g' | 'G' => do
    let x ← realNumber j
    l.inMemory (l.floatSize letter x) fun _ => l.float letter x
  | _ => .error (.unknownDirective (.char letter) index)

end Layout

/-!
## Templates

A directive in a template starts with `%` and takes the next argument. Between mark and letter may
stand a name in brackets, flags, a least width and, after a point, a precision; a star takes width
or precision from the arguments. A name replaces the arguments by one member of a mapping. One
letter for a size is passed over. `%%` is the mark itself.
-/

namespace Template

/-- Which part of a directive may come next. -/
inductive Stage
  | flags
  | width
  | point
  | precisionStart
  | precision
  | size
  | letter
deriving DecidableEq, Repr

/-- What a character of a directive does. -/
inductive Move
  | next (stage : Stage) (l : Layout)
  /-- Takes the width from the arguments. -/
  | takeWidth
  /-- Takes the precision from the arguments. -/
  | takePrecision
  /-- The character is the directive's letter. -/
  | finish
  | fail (e : TemplateError)

def widthLimit : Nat := 0x8000000000000000

def precisionLimit : Nat := 0x80000000

/-- One more digit of the width. -/
def widthDigit (l : Layout) (c : Char) : Move :=
  let width := 10 * l.width + (c.toNat - 48)
  if width < widthLimit then .next .width { l with width } else .fail .widthTooBig

/-- One more digit of the precision. -/
def precisionDigit (l : Layout) (c : Char) : Move :=
  let n := 10 * l.precision.getD 0 + (c.toNat - 48)
  if n < precisionLimit then .next .precision { l with precision := some n }
  else .fail .precisionTooBig

/-- Behind width and precision. -/
def sizeMove (l : Layout) (c : Char) : Move :=
  if c = 'h' ∨ c = 'l' ∨ c = 'L' then .next .letter l else .finish

/-- Behind the width. -/
def pointMove (l : Layout) (c : Char) : Move :=
  if c = '.' then .next .precisionStart { l with precision := some 0 } else sizeMove l c

/-- What a character does. -/
def Stage.moveChar (stage : Stage) (l : Layout) (c : Char) : Move :=
  match stage with
  | flags =>
    match l.flag? c with
    | some l => .next .flags l
    | none =>
      if c = '*' then .takeWidth else if c.isDigit then widthDigit l c else pointMove l c
  | width => if c.isDigit then widthDigit l c else pointMove l c
  | point => pointMove l c
  | precisionStart =>
    if c = '*' then .takePrecision else if c.isDigit then precisionDigit l c else sizeMove l c
  | precision => if c.isDigit then precisionDigit l c else sizeMove l c
  | size => sizeMove l c
  | letter => .finish

def Stage.move (stage : Stage) (l : Layout) : Text.CodePoint → Move
  | .char c => stage.moveChar l c
  | .surrogate _ => .finish

/-- The layout with a width from the arguments; a negative one fills at the right. The least number
of a word has no positive counterpart and sets no width. -/
def withWidth (l : Layout) (j : Json) : Except TemplateError Layout :=
  match integer? j with
  | none => .error .sizeExpected
  | some i =>
    if i < -widthLimit ∨ widthLimit ≤ i then .error .widthOverflow
    else
      let width := if i.natAbs < widthLimit then i.natAbs else 0
      .ok { l with width, left := l.left || i < 0 }

/-- The layout with a precision from the arguments; a negative one counts as zero. -/
def withPrecision (l : Layout) (j : Json) : Except TemplateError Layout :=
  match integer? j with
  | none => .error .sizeExpected
  | some i =>
    if i < -precisionLimit ∨ precisionLimit ≤ i then .error .precisionOverflow
    else .ok { l with precision := some i.toNat }

/-- The arguments of a template that are left. -/
structure Supply where
  /-- The values still to be taken. -/
  left : List Json
  /-- The value in which names are looked up. With one, values may be left over. -/
  named : Option Json := none

namespace Supply

/-- A row of values, each for one directive. -/
def ofRow (values : List Json) : Supply := { left := values }

/-- One value, in which names are looked up if it holds others. -/
def ofValue (j : Json) : Supply :=
  match j with
  | .list _ | .object _ => ⟨[j], some j⟩
  | _ => ⟨[j], none⟩

/-- The arguments replaced by the value of a name. -/
def enter (s : Supply) (name : String) : Except TemplateError Supply :=
  match s.named with
  | none => .error .mappingExpected
  | some (.object members) =>
    match members.lookup name with
    | some j => .ok { s with left := [j] }
    | none => .error (.unknownName name)
  | some _ => .error .nameInList

end Supply

/-- Where in a template a character stands. -/
inductive Place
  | text
  /-- Inside a name, which is kept in reverse, with the number of open brackets. -/
  | name (reversed : List Text.CodePoint) (depth : Nat)
  | directive (stage : Stage) (l : Layout)

/-- What the directive with a letter writes for a value. -/
def written (l : Layout) (letter : Text.CodePoint) (index : Nat) (j : Json) :
    Except TemplateError (List Char) :=
  match letter with
  | .char c => l.write c index j
  | p => .error (.unknownDirective p index)

/-- Fills the arguments into a template; `index` is the place of the next code point. -/
def fill : Place → (index : Nat) → List Text.CodePoint → Supply →
    Except TemplateError (List Char)
  | .text, _, [], s =>
    if s.left.isEmpty ∨ s.named.isSome then .ok [] else .error .tooManyArguments
  | .text, i, .char '%' :: .char '%' :: ps, s => ('%' :: ·) <$> fill .text (i + 2) ps s
  | .text, i, .char '%' :: .char '(' :: ps, s =>
    if s.named.isNone then .error .mappingExpected else fill (.name [] 1) (i + 2) ps s
  | .text, i, .char '%' :: ps, s => fill (.directive .flags {}) (i + 1) ps s
  | .text, i, p :: ps, s => (p.kept ++ ·) <$> fill .text (i + 1) ps s
  | .name _ _, _, [], _ => .error .incompleteName
  | .name reversed depth, i, p :: ps, s =>
    if p = .char ')' ∧ depth = 1 then do
      let s ← s.enter (String.ofList (Text.ofCodePoints reversed.reverse))
      fill (.directive .flags {}) (i + 1) ps s
    else
      let depth :=
        if p = .char '(' then depth + 1 else if p = .char ')' then depth - 1 else depth
      fill (.name (p :: reversed) depth) (i + 1) ps s
  | .directive _ _, _, [], _ => .error .incomplete
  | .directive stage l, i, p :: ps, s =>
    match stage.move l p, s.left with
    | .next stage l, _ => fill (.directive stage l) (i + 1) ps s
    | .fail e, _ => .error e
    | _, [] => .error .tooFewArguments
    | .takeWidth, arg :: left => do
      let l ← withWidth l arg
      fill (.directive .point l) (i + 1) ps { s with left }
    | .takePrecision, arg :: left => do
      let l ← withPrecision l arg
      fill (.directive .size l) (i + 1) ps { s with left }
    | .finish, arg :: left => do
      let part ← written l p i arg
      return part ++ (← fill .text (i + 1) ps { s with left })

/-- The message of a template for its arguments. -/
def message (template : String) (s : Supply) : Except TemplateError String :=
  String.ofList <$> fill .text 0 (Text.codePoints template.toList) s

/-- The message of a template; without arguments it is taken as it stands. -/
def format (template : String) (args : List Json) : Except TemplateError String :=
  if args.isEmpty then .ok template else message template (.ofRow args)

end Template

end SecondFactor.Log
