import SecondFactor.Text

/-!
# Whole numbers as decimal text

Writing is canonical: ASCII digits, no leading zero, a minus sign before a negative number. Reading
accepts the digits of any script and leading zeros.
-/
namespace SecondFactor.Decimal

/-- The ASCII digit of a value below ten. -/
def digit (n : Nat) : Char := Char.ofNat (48 + n)

/-- A power of ten. -/
def tenTo (n : Nat) : Nat := Nat.pow 10 n

/-- The canonical digits of a natural number. -/
def digits (n : Nat) : List Char :=
  if n < 10 then [digit n] else digits (n / 10) ++ [digit (n % 10)]

/-- The canonical text of a natural number. -/
def ofNat (n : Nat) : String := String.ofList (digits n)

/-- The canonical text of an integer. -/
def ofInt : Int → String
  | .ofNat n => ofNat n
  | .negSucc n => "-" ++ ofNat (n + 1)

/-- The value of a row of digits, the most significant first. -/
def value (ds : List Nat) : Nat := ds.foldl (fun n d => 10 * n + d) 0

/-- Reads a non-empty row of decimal digits of any script. -/
def read? (s : String) : Option Nat :=
  if s.toList.isEmpty then none else (s.toList.mapM Text.digitValue?).map value

/-- Reads digits that single underscores may separate. -/
def grouped? (digitOf : Char → Option Nat) : List Char → Option (List Nat)
  | [] => none
  | [c] => (digitOf c).map ([·])
  | c :: '_' :: cs => do return (← digitOf c) :: (← grouped? digitOf cs)
  | c :: cs => do return (← digitOf c) :: (← grouped? digitOf cs)

/-- Splits an optional sign off; `true` stands for minus. -/
def sign : List Char → Bool × List Char
  | '-' :: cs => (true, cs)
  | '+' :: cs => (false, cs)
  | cs => (false, cs)

/-- The number with the sign taken off it by `sign`. -/
def signed (negative : Bool) (n : Nat) : Int := if negative then -(n : Int) else n

/-- How many digits a text may have and still be read as a number. -/
def digitLimit : Nat := 4300

/-- Reads an integer as it is typed: blanks around it, a sign, digits of any script, single
underscores between digits. -/
def readTyped? (s : String) : Option Int := do
  let (negative, cs) := sign (Text.trimWhile Text.isBlank s.toList)
  let ds ← grouped? Text.digitValue? cs
  if digitLimit < ds.length then none else return signed negative (value ds)

theorem digits_of_lt {n : Nat} (h : n < 10) : digits n = [digit n] := by
  rw [digits, if_pos h]

theorem digits_ne_nil (n : Nat) : digits n ≠ [] := by
  rw [digits]
  split <;> simp

theorem value_append_singleton (ds : List Nat) (d : Nat) :
    value (ds ++ [d]) = 10 * value ds + d := by
  simp [value]

end SecondFactor.Decimal
