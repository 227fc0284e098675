/-!
# Code points

A text holds characters and, where a JSON text or the environment brings them in, surrogates that
stand alone. A `String` has room for characters only, so it keeps a surrogate as a mark and one more
character, and the mark itself in the same way; every other character is kept as it is. Main
statement: the code points of what is kept are those that were to be kept, so two texts are equal
exactly when their code points are.
-/
namespace SecondFactor.Text

inductive CodePoint
  | char (c : Char)
  /-- A surrogate, counted from the first. -/
  | surrogate (n : Fin 0x800)
deriving DecidableEq, Repr

namespace CodePoint

def firstSurrogate : Nat := 0xd800

def ofNat (n : Nat) : CodePoint :=
  if h : firstSurrogate ≤ n ∧ n < firstSurrogate + 0x800 then
    surrogate ⟨n - firstSurrogate, by omega⟩
  else char (Char.ofNat n)

def toNat : CodePoint → Nat
  | char c => c.toNat
  | surrogate n => firstSurrogate + n

def char? : CodePoint → Option Char
  | char c => some c
  | surrogate _ => none

def isSurrogate : CodePoint → Bool
  | char _ => false
  | surrogate _ => true

/-- The character in front of what it keeps together with the next one: the last of all. -/
def mark : Char := Char.ofNat 0x10ffff

/-- The number of the first character that follows the mark. -/
def firstFollower : Nat := 0x100000

/-- The character that follows the mark for the surrogate `n`; the one behind the last surrogate
stands for the mark. -/
def follower (n : Nat) : Char := Char.ofNat (firstFollower + n)

/-- The characters in which a text keeps a code point. -/
def kept : CodePoint → List Char
  | char c => if c = mark then [mark, follower 0x800] else [c]
  | surrogate n => [mark, follower n]

/-- The code point that the mark keeps together with a character. -/
def ofFollower (c : Char) : CodePoint :=
  if h : c.toNat - firstFollower < 0x800 then surrogate ⟨c.toNat - firstFollower, h⟩ else char mark

theorem toNat_follower {n : Nat} (h : n ≤ 0x800) : (follower n).toNat = firstFollower + n := by
  have valid : (firstFollower + n).isValidChar := by
    simp only [firstFollower]
    exact .inr (by omega)
  rw [follower, Char.ofNat, dif_pos valid]
  rfl

@[simp] theorem ofFollower_follower (n : Fin 0x800) : ofFollower (follower n) = surrogate n := by
  simp [ofFollower, toNat_follower (Nat.le_of_lt n.isLt)]

@[simp] theorem ofFollower_last : ofFollower (follower 0x800) = char mark := by
  simp [ofFollower, toNat_follower]

theorem follower_ne_mark {n : Nat} (h : n ≤ 0x800) : follower n ≠ mark := by
  intro eq
  have number := congrArg Char.toNat eq
  rw [toNat_follower h] at number
  have : mark.toNat = 0x10ffff := rfl
  simp only [firstFollower] at number
  omega

/-- The code points of a text with one more character in front. -/
def push (c : Char) (ps : List CodePoint) : List CodePoint :=
  match ps with
  | char d :: rest => if c = mark then ofFollower d :: rest else char c :: ps
  | ps => char c :: ps

theorem push_of_ne {c : Char} (h : c ≠ mark) (ps : List CodePoint) : push c ps = char c :: ps := by
  unfold push
  split <;> simp [h]

end CodePoint

/-- The code points of a text. -/
def codePoints (cs : List Char) : List CodePoint := cs.foldr CodePoint.push []

/-- The text of code points. -/
def ofCodePoints (ps : List CodePoint) : List Char := ps.flatMap CodePoint.kept

/-- How many code points a text has. -/
def size (cs : List Char) : Nat := (codePoints cs).length

/-- The first code points of a text. -/
def take (n : Nat) (cs : List Char) : List Char := ofCodePoints ((codePoints cs).take n)

/-- A text of characters as it is kept. -/
def ofCharacters (s : String) : String := String.ofList (ofCodePoints (s.toList.map .char))

theorem codePoints_kept_append (p : CodePoint) (cs : List Char) :
    codePoints (p.kept ++ cs) = p :: codePoints cs := by
  have follow {n : Nat} (h : n ≤ 0x800) :
      codePoints (CodePoint.mark :: CodePoint.follower n :: cs) =
        CodePoint.ofFollower (CodePoint.follower n) :: codePoints cs := by
    rw [codePoints, List.foldr_cons, List.foldr_cons,
      CodePoint.push_of_ne (CodePoint.follower_ne_mark h)]
    simp [CodePoint.push, codePoints]
  cases p with
  | surrogate n => simpa [CodePoint.kept] using follow (Nat.le_of_lt n.isLt)
  | char c =>
    by_cases h : c = CodePoint.mark
    · simpa [CodePoint.kept, h] using follow (Nat.le_refl _)
    · simp [CodePoint.kept, h, codePoints, CodePoint.push_of_ne]

@[simp] theorem codePoints_ofCodePoints (ps : List CodePoint) :
    codePoints (ofCodePoints ps) = ps := by
  induction ps with
  | nil => rfl
  | cons p ps ih =>
    rw [ofCodePoints, List.flatMap_cons, codePoints_kept_append]
    exact congrArg (p :: ·) ih

theorem ofCodePoints_inj {ps qs : List CodePoint} :
    ofCodePoints ps = ofCodePoints qs ↔ ps = qs := by
  refine ⟨fun h => ?_, congrArg ofCodePoints⟩
  simpa using congrArg codePoints h

end SecondFactor.Text
