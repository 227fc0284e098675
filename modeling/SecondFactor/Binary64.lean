import SecondFactor.Decimal

/-!
# Binary floating-point numbers

A number with 53 significant bits, kept exactly: a sign, a natural mantissa and a power of two.
Nothing is computed with these numbers beyond reading, comparing and writing them, so they need no
arithmetic of their own; `ofRatio` rounds an exact quotient to the nearest of them.
-/
namespace SecondFactor

/-- The value of `finite s m q` is `m * 2 ^ q`, negated when `s` is true. -/
inductive Binary64
  | nan
  | infinity (negative : Bool)
  | finite (negative : Bool) (mantissa : Nat) (exponent : Int)
deriving DecidableEq, Repr

namespace Binary64

open Decimal (tenTo)

/-- A power of two. -/
def twoTo (n : Nat) : Nat := Nat.pow 2 n

/-- The exponent of the smallest numbers, which are spaced by `2 ^ lowest`. -/
def lowest : Int := -1074

/-- The exponent above which a full mantissa no longer fits. -/
def highest : Int := 971

/-- The quotient rounded to the nearest natural number, a tie to the even one. -/
def divEven (num den : Nat) : Nat :=
  let q := num / den
  let r := 2 * (num % den)
  if r < den then q else if den < r then q + 1 else q + q % 2

/-- The quotient `num / den / 2 ^ e` as one of natural numbers. -/
def scaled (num den : Nat) (e : Int) : Nat × Nat :=
  if 0 ≤ e then (num, den * twoTo e.toNat) else (num * twoTo (-e).toNat, den)

/-- The exponent at which the mantissa of `num / den` has 53 bits before rounding. -/
def leadingExponent (num den : Nat) : Int :=
  let guess := (Nat.log2 num : Int) - Nat.log2 den - 52
  let (n, d) := scaled num den guess
  if n / d < twoTo 52 then guess - 1 else guess

/-- The nearest number to `num / den`, a tie to the even mantissa. -/
def ofRatio (negative : Bool) (num den : Nat) : Binary64 :=
  if num = 0 then .finite negative 0 lowest else
    let e := max (leadingExponent num den) lowest
    let (n, d) := scaled num den e
    let m := divEven n d
    let (m, e) := if m = twoTo 53 then (twoTo 52, e + 1) else (m, e)
    if highest < e then .infinity negative else .finite negative m e

/-- The nearest number to `mantissa * 10 ^ exponent`. -/
def ofDecimal (negative : Bool) (mantissa : Nat) (exponent : Int) : Binary64 :=
  if mantissa = 0 then .finite negative 0 lowest
  else if 400 < exponent then .infinity negative
  else if exponent + Nat.log2 mantissa < -400 then .finite negative 0 lowest
  else if 0 ≤ exponent then ofRatio negative (mantissa * tenTo exponent.toNat) 1
  else ofRatio negative mantissa (tenTo (-exponent).toNat)

/-- The nearest number to an integer; `none` when there is no finite one. -/
def ofInt? (i : Int) : Option Binary64 :=
  match ofRatio (i < 0) i.natAbs 1 with
  | .finite s m e => some (.finite s m e)
  | _ => none

/-- The integer that the number is, if it is one. -/
def toInt? : Binary64 → Option Int
  | .finite s m e =>
    if 0 ≤ e then some (Decimal.signed s (m * twoTo e.toNat))
    else if m % twoTo (-e).toNat = 0 then some (Decimal.signed s (m / twoTo (-e).toNat))
    else none
  | _ => none

/-- The number as a quotient of an integer and a positive natural number, unless it is no real. -/
def toRatio? : Binary64 → Option (Int × Nat)
  | .finite s m e =>
    if 0 ≤ e then some (Decimal.signed s (m * twoTo e.toNat), 1)
    else some (Decimal.signed s m, twoTo (-e).toNat)
  | _ => none

/-- Whether the number equals zero, of either sign. -/
def isZero : Binary64 → Bool
  | .finite _ m _ => m == 0
  | _ => false

/-!
## The shortest decimal

Among the decimals that round to a given number, those with the fewest digits are found by trying
one digit, then two, and so on up to seventeen; on each grid only the two neighbours of the number
can be nearest. Everything is compared exactly, as natural numbers.
-/

/-- A decimal `digits * 10 ^ exponent`. -/
structure DecimalForm where
  digits : Nat
  exponent : Int
deriving DecidableEq, Repr

/-- Whether `a * 10 ^ t < b * 2 ^ e`. -/
def ltBinary (a : Nat) (t : Int) (b : Nat) (e : Int) : Bool :=
  a * tenTo t.toNat * twoTo (-e).toNat < b * twoTo e.toNat * tenTo (-t).toNat

/-- Whether `b * 2 ^ e < a * 10 ^ t`. -/
def gtBinary (a : Nat) (t : Int) (b : Nat) (e : Int) : Bool :=
  b * twoTo e.toNat * tenTo (-t).toNat < a * tenTo t.toNat * twoTo (-e).toNat

/-- Whether the decimal `a * 10 ^ t` rounds to the number `m * 2 ^ e`: it lies between the
midpoints to the neighbours, which are closer below a power of two; a midpoint itself rounds to the
even mantissa. -/
def roundsTo (m : Nat) (e : Int) (a : Nat) (t : Int) : Bool :=
  let low := if m = twoTo 52 ∧ lowest < e then 4 * m - 1 else 4 * m - 2
  let high := 4 * m + 2
  if m % 2 = 0 then !ltBinary a t low (e - 2) && !gtBinary a t high (e - 2)
  else gtBinary a t low (e - 2) && ltBinary a t high (e - 2)

/-- The floor of `m * 2 ^ e / 10 ^ t`. -/
def floorOn (m : Nat) (e t : Int) : Nat :=
  m * twoTo e.toNat * tenTo (-t).toNat / (twoTo (-e).toNat * tenTo t.toNat)

/-- The power of ten `p` with `10 ^ p ≤ m * 2 ^ e < 10 ^ (p + 1)`. -/
def leadingPower (m : Nat) (e : Int) : Int :=
  if 0 ≤ e then ((Decimal.digits (m * twoTo e.toNat)).length : Int) - 1
  else
    let shift := (-e).toNat
    let places := (Decimal.digits (m * tenTo shift / twoTo shift)).length
    (places : Int) - 1 - shift

/-- The decimal nearest to the number on the grid of `n` digits, if it rounds to it. Of two equally
near ones the even one is taken. -/
def onGrid (m : Nat) (e : Int) (n : Nat) : Option DecimalForm :=
  let t := leadingPower m e - n + 1
  let below := floorOn m e t
  let above := below + 1
  let upward := ltBinary (2 * below + 1) t (2 * m) e ||
    (!gtBinary (2 * below + 1) t (2 * m) e && below % 2 == 1)
  let nearer := if upward then [above, below] else [below, above]
  (nearer.find? fun a => roundsTo m e a t).map (DecimalForm.mk · t)

/-- A decimal without trailing zeros in its digits; zero is `0 * 10 ^ 0`. -/
def DecimalForm.trimmed (d : DecimalForm) : DecimalForm :=
  if d.digits = 0 then ⟨0, 0⟩
  else
    let ds := (Decimal.digits d.digits)
    let kept := Text.dropRightWhile (· == '0') ds
    ⟨d.digits / tenTo (ds.length - kept.length), d.exponent + (ds.length - kept.length)⟩

/-- The shortest decimal that rounds to `m * 2 ^ e`, and the nearest of those. -/
def shortest (m : Nat) (e : Int) : DecimalForm :=
  if m = 0 then ⟨0, 0⟩
  else (((List.range 17).findSome? fun n => onGrid m e (n + 1)).getD ⟨m, e⟩).trimmed

/-!
## Numbers as text

The digits are the shortest that read back. A `Style` says where the positional form ends and how
an exponent looks; the two styles in use are `plain`, for messages and ordinary JSON, and `compact`,
for the printed configuration.
-/

/-- How a finite number is laid out. With the point `p` places after the first digit's front
(`0.d₁d₂… × 10 ^ p`), the form is positional when `least < p ≤ most`. -/
structure Style where
  least : Int
  most : Int
  /-- Whether a non-negative exponent carries a plus sign. -/
  plus : Bool
  /-- The least number of exponent digits. -/
  width : Nat
  nan : String
  infinity : String
  negativeInfinity : String

/-- Positional from `0.0001` up to `10 ^ 16`; exponents carry a sign and two digits. -/
def plain : Style := ⟨-4, 16, true, 2, "nan", "inf", "-inf"⟩

/-- Positional from `0.00001` up to `10 ^ 16`; exponents are bare, and no number that is not a real
is written. -/
def compact : Style := ⟨-5, 16, false, 1, "null", "null", "null"⟩

/-- The exponent with its sign and least width. -/
def Style.exponent (style : Style) (e : Int) : List Char :=
  let sign := if e < 0 then ['-'] else if style.plus then ['+'] else []
  let ds := Decimal.digits e.natAbs
  sign ++ List.replicate (style.width - ds.length) '0' ++ ds

/-- A positive decimal in the style. -/
def Style.decimal (style : Style) (d : DecimalForm) : List Char :=
  let ds := Decimal.digits d.digits
  let point := d.exponent + ds.length
  if style.least < point ∧ point ≤ style.most then
    if point ≤ 0 then '0' :: '.' :: List.replicate (-point).toNat '0' ++ ds
    else
      let n := point.toNat
      let whole := ds.take n ++ List.replicate (n - ds.length) '0'
      let part := if ds.length ≤ n then ['0'] else ds.drop n
      whole ++ '.' :: part
  else
    let part := if ds.length ≤ 1 then [] else '.' :: ds.drop 1
    ds.take 1 ++ part ++ 'e' :: style.exponent (point - 1)

/-- The text of a number in a style. -/
def write (style : Style) : Binary64 → String
  | .nan => style.nan
  | .infinity false => style.infinity
  | .infinity true => style.negativeInfinity
  | .finite s m e =>
    let body := if m = 0 then ['0', '.', '0'] else style.decimal (shortest m e)
    String.ofList (if s then '-' :: body else body)

/-!
## Numbers rounded to places

A number is rounded once, exactly, to a number of decimal places or of digits; a tie goes to the
even digit. `keepPoint` leaves the point where no digit follows it, and trailing zeros where they
would be dropped.
-/

/-- The natural number nearest to `m * 2 ^ e / 10 ^ t`, a tie to the even one. -/
def nearestOn (m : Nat) (e t : Int) : Nat :=
  divEven (m * twoTo e.toNat * tenTo (-t).toNat) (twoTo (-e).toNat * tenTo t.toNat)

/-- More digits than a number has, and more than it has behind the point. Digits after so many are
zeros. -/
def allDigits : Nat := 1100

/-- The number rounded to `n + 1` digits, and the power of ten of the first of them. -/
def leading (m : Nat) (e : Int) (n : Nat) : List Char × Int :=
  if m = 0 then (List.replicate (n + 1) '0', 0)
  else
    let p := leadingPower m e
    let k := min n allDigits
    let r := nearestOn m e (p - k)
    let zeros := List.replicate (n - k) '0'
    if r = tenTo (k + 1) then (Decimal.digits (tenTo k) ++ zeros, p + 1)
    else (Decimal.digits r ++ zeros, p)

/-- Digits with a point between them. -/
def pointed (keepPoint : Bool) (whole part : List Char) : List Char :=
  if part.isEmpty && !keepPoint then whole else whole ++ '.' :: part

/-- The number with a number of places behind the point. -/
def fixed (keepPoint : Bool) (places m : Nat) (e : Int) : List Char :=
  let k := min places allDigits
  let ds := Decimal.digits (nearestOn m e (-k)) ++ List.replicate (places - k) '0'
  let ds := List.replicate (places + 1 - ds.length) '0' ++ ds
  pointed keepPoint (ds.take (ds.length - places)) (ds.drop (ds.length - places))

/-- The number with one digit before the point, a number of places behind it and an exponent. -/
def scientific (keepPoint : Bool) (places m : Nat) (e : Int) : List Char :=
  let (ds, p) := leading m e places
  pointed keepPoint (ds.take 1) (ds.drop 1) ++ 'e' :: plain.exponent p

/-- The number with a number of digits, positional from `0.0001` up to `10 ^ n`. -/
def general (keepPoint : Bool) (n m : Nat) (e : Int) : List Char :=
  let (ds, p) := leading m e (n - 1)
  let kept := fun part => if keepPoint then part else Text.dropRightWhile (· == '0') part
  if -4 ≤ p ∧ p < n then
    let ds := List.replicate (-p).toNat '0' ++ ds
    pointed keepPoint (ds.take (p.toNat + 1)) (kept (ds.drop (p.toNat + 1)))
  else pointed keepPoint (ds.take 1) (kept (ds.drop 1)) ++ 'e' :: plain.exponent p

end Binary64

end SecondFactor
