import SecondFactor.Fault

/-!
# Time-based passcodes

A passcode has six digits and follows from a secret and the number of half minutes since the epoch.
-/
namespace SecondFactor.Passcode

/-!
## Base32 text

Each letter or digit stands for five bits, the most significant first, and eight of them for five
bytes. A text is filled with `=` to a multiple of eight; bits that do not fill a byte are dropped.
-/

namespace Base32

inductive Error
  | notAscii
  | padding
  | digit
deriving DecidableEq, Repr

/-- The value of a digit: a letter of either case, or one of 2 to 7. -/
def digitValue? (c : Char) : Option Nat :=
  let n := c.toUpper.toNat
  if 65 ≤ n ∧ n ≤ 90 then some (n - 65)
  else if 50 ≤ n ∧ n ≤ 55 then some (n - 24)
  else none

/-- The `width` lowest bits of a number, the most significant first. -/
def bitsOf : (width : Nat) → Nat → List Bool
  | 0, _ => []
  | width + 1, n => n.testBit width :: bitsOf width n

/-- The bytes that rows of eight bits make; a shorter rest is dropped. -/
def bytesOf : List Bool → List UInt8
  | a :: b :: c :: d :: e :: f :: g :: h :: rest =>
    UInt8.ofNat ([a, b, c, d, e, f, g, h].foldl (fun n bit => 2 * n + bit.toNat) 0) :: bytesOf rest
  | _ => []

/-- How many filling marks a text needs to have a multiple of eight characters. -/
def missing (length : Nat) : Nat := (8 - length % 8) % 8

/-- Whether a text may end in this many filling marks. -/
def isPadding (marks : Nat) : Bool := [0, 1, 3, 4, 6].contains marks

/-- The bytes of a text, which need not be filled up. A bad digit is found before bad filling. -/
def decode (s : String) : Except Error (List UInt8) :=
  let cs := s.toList
  let digits := (cs.reverse.dropWhile (· == '=')).reverse
  if cs.any (fun c => 127 < c.toNat) then .error .notAscii
  else match digits.mapM digitValue? with
    | none => .error .digit
    | some values =>
      if isPadding (cs.length + missing cs.length - digits.length) then
        .ok (bytesOf (values.flatMap (bitsOf 5)))
      else .error .padding

end Base32

/-!
## SHA-1

The message is padded to blocks of sixteen words. Each block is stretched to eighty words, which
are mixed into a state of five words one after the other; the digest is the last state.
-/

/-- The four bytes of a word, the most significant first. -/
def wordBytes (w : UInt32) : List UInt8 :=
  [(w >>> 24).toUInt8, (w >>> 16).toUInt8, (w >>> 8).toUInt8, w.toUInt8]

/-- The word that four bytes make, the most significant first. -/
def wordOf (a b c d : UInt8) : UInt32 :=
  (a.toUInt32 <<< 24) ||| (b.toUInt32 <<< 16) ||| (c.toUInt32 <<< 8) ||| d.toUInt32

/-- The lowest `width` bytes of a number, the most significant first. -/
def bytesOfNat : (width : Nat) → Nat → List UInt8
  | 0, _ => []
  | width + 1, n => bytesOfNat width (n / 256) ++ [UInt8.ofNat n]

namespace Sha1

/-- The words of a row of bytes; an incomplete last word is dropped. -/
def words : List UInt8 → List UInt32
  | a :: b :: c :: d :: rest => wordOf a b c d :: words rest
  | _ => []

/-- The blocks of sixteen words; an incomplete last block is dropped. -/
def blocks (ws : List UInt32) : List (List UInt32) :=
  if ws.length < 16 then [] else ws.take 16 :: blocks (ws.drop 16)
termination_by ws.length
decreasing_by simp only [List.length_drop]; omega

/-- The message followed by one bit, zeros up to the last eight bytes of a block, and its length
in bits. -/
def padded (message : List UInt8) : List UInt8 :=
  message ++ 0x80 :: List.replicate ((119 - message.length % 64) % 64) 0 ++
    bytesOfNat 8 (8 * message.length)

def rotate (w : UInt32) (n : UInt32) : UInt32 := (w <<< n) ||| (w >>> (32 - n))

/-- Puts one more word before a row of words that has the latest first. -/
def stretch (latest : List UInt32) : List UInt32 :=
  let word := fun i => latest.getD i 0
  rotate (word 2 ^^^ word 7 ^^^ word 13 ^^^ word 15) 1 :: latest

/-- The eighty words that a block is stretched to. -/
def schedule (block : List UInt32) : List UInt32 :=
  ((List.range 64).foldl (fun latest _ => stretch latest) block.reverse).reverse

structure State where
  a : UInt32
  b : UInt32
  c : UInt32
  d : UInt32
  e : UInt32
deriving DecidableEq, Repr

def initial : State := ⟨0x67452301, 0xefcdab89, 0x98badcfe, 0x10325476, 0xc3d2e1f0⟩

/-- The mixing function and the constant of a round. -/
def mixing (round : Nat) (s : State) : UInt32 × UInt32 :=
  if round < 20 then ((s.b &&& s.c) ||| (~~~s.b &&& s.d), 0x5a827999)
  else if round < 40 then (s.b ^^^ s.c ^^^ s.d, 0x6ed9eba1)
  else if round < 60 then ((s.b &&& s.c) ||| (s.b &&& s.d) ||| (s.c &&& s.d), 0x8f1bbcdc)
  else (s.b ^^^ s.c ^^^ s.d, 0xca62c1d6)

/-- One round, which takes one word in. -/
def State.mix (s : State) (step : UInt32 × Nat) : State :=
  let (f, k) := mixing step.2 s
  ⟨rotate s.a 5 + f + s.e + k + step.1, s.a, rotate s.b 30, s.c, s.d⟩

/-- Takes one block in. -/
def State.absorb (s : State) (block : List UInt32) : State :=
  let t := (schedule block).zipIdx.foldl State.mix s
  ⟨s.a + t.a, s.b + t.b, s.c + t.c, s.d + t.d, s.e + t.e⟩

/-- The twenty bytes of a message's digest. -/
def digest (message : List UInt8) : List UInt8 :=
  let s := (blocks (words (padded message))).foldl State.absorb initial
  [s.a, s.b, s.c, s.d, s.e].flatMap wordBytes

end Sha1

/-!
## Keyed digests

A message is digested together with a key, once inside and once outside. Keys longer than a block
are digested first.
-/

namespace Hmac

/-- The key as a block of 64 bytes. -/
def keyBlock (key : List UInt8) : List UInt8 :=
  let key := if 64 < key.length then Sha1.digest key else key
  key ++ List.replicate (64 - key.length) 0

def digest (key message : List UInt8) : List UInt8 :=
  let block := keyBlock key
  let inner := Sha1.digest (block.map (· ^^^ 0x36) ++ message)
  Sha1.digest (block.map (· ^^^ 0x5c) ++ inner)

end Hmac

/-!
## Years

The year of a day in the Gregorian calendar, extended in both directions. Days are counted from the
first day of year 1.
-/

namespace Calendar

/-- The days of 400 years. -/
def eraDays : Nat := 146097

/-- The days of 100 years that do not end an era. -/
def centuryDays : Nat := 36524

/-- The days of four years with a leap year. -/
def leapCycleDays : Nat := 1461

/-- The days of a year that is no leap year. -/
def yearDays : Nat := 365

/-- The year of a day. The leap day at the end of an era or of four years belongs to the year before
it. -/
def yearOfDay (day : Int) : Int :=
  let inEra := (day.fmod eraDays).toNat
  let century := min 3 (inEra / centuryDays)
  let inCentury := inEra - century * centuryDays
  let inCycle := inCentury % leapCycleDays
  let year := min 3 (inCycle / yearDays)
  day.fdiv eraDays * 400 + (century * 100 + inCentury / leapCycleDays * 4 + year + 1 : Nat)

/-- The day on which the count of seconds starts. -/
def epochDay : Int := 719162

/-- The seconds of a day. -/
def daySeconds : Nat := 86400

/-- The year of a second, counted from the epoch. -/
def yearOfSecond (second : Int) : Int := yearOfDay (second.fdiv daySeconds + epochDay)

end Calendar

/-!
## The clock

A clock shows a time in whole microseconds. It shows no time outside the years 1 to 9999, and the
day before a time that it shows must lie in these years too.
-/

/-- A point in time, in seconds since the epoch; it may be fractional or before the epoch. -/
abbrev Time := Number

namespace Clock

open Binary64 (twoTo divEven)

/-- The fraction `num / den` of a second in microseconds, to the nearest one, a tie to the even one.
The product is rounded to a floating-point number first. -/
def microseconds (num den : Nat) : Nat :=
  match (Binary64.ofRatio false (num * 1000000) den).toRatio? with
  | some (n, d) => divEven n.toNat d
  | none => 0

/-- The whole seconds of a fractional time in microseconds, rounded down. -/
def wholeSeconds (negative : Bool) (num den : Nat) : Int :=
  let fraction := microseconds (num % den) den
  if negative then -((num / den + if fraction = 0 then 0 else 1 : Nat) : Int)
  else (num / den + fraction / 1000000 : Nat)

/-- The seconds of a time, unless it lies outside the words of 64 bits. -/
def seconds? (now : Time) : Option Int :=
  let whole : Option Int := match now with
    | .int i => some i
    | .float x => x.toRatio?.map fun r : Int × Nat => wholeSeconds (r.1 < 0) r.1.natAbs r.2
  whole.filter fun s => -0x8000000000000000 ≤ s && s < 0x8000000000000000

/-- The base of the years, which are kept as words of 32 bits counted from it. -/
def yearBase : Int := 1900

/-- The values of a word of 32 bits. -/
def wordValues : Nat := 0x100000000

/-- The year of a second, unless it is out of the clock's range. -/
def year (second : Int) : Except ClockFault Int :=
  let y := Calendar.yearOfSecond second
  if (y - yearBase).bmod wordValues ≠ y - yearBase then .error .dateTooLarge
  else
    let shown := y.bmod wordValues
    if shown < 1 ∨ 9999 < shown then .error (.yearOutOfRange shown) else .ok shown

/-- The seconds that the clock shows at a time. -/
def seconds (now : Time) : Except ClockFault Int :=
  match now, seconds? now with
  | .float .nan, _ => .error .notANumber
  | _, none => .error .timeTooLarge
  | _, some s => do
    let _ ← year s
    let _ ← year (s - Calendar.daySeconds)
    return s

end Clock

/-! ## Passcodes -/

/-- The seconds for which a passcode is valid. -/
def period : Nat := 30

/-- How many digits a passcode has. -/
def length : Nat := 6

/-- A time as a quotient, if it is finite. -/
def ratio? : Time → Option (Int × Nat)
  | .int i => some (i, 1)
  | .float x => x.toRatio?

/-- The number of the time step: the seconds that the clock shows, divided by the period toward
zero. -/
def timeStep (now : Time) : Except ClockFault Int := do
  return (← Clock.seconds now).tdiv period

/-- The seconds of the current time step that are left. The seconds gone by are rounded to a
floating-point number before their fraction is dropped. -/
def remaining (now : Time) : Except ClockFault Int :=
  match ratio? now with
  | none => .error .noRemainder
  | some (num, den) =>
    let gone := (num.fmod (period * den)).toNat
    let (n, d) := ((Binary64.ofRatio false gone den).toRatio?).getD (0, 1)
    .ok (period - n / d)

/-- The digits for one time step. -/
def digits (key : List UInt8) (step : Nat) : String :=
  let hash := Hmac.digest key (bytesOfNat 8 step)
  let offset := (hash.getD 19 0 &&& 0xf).toNat
  let byte := fun i => hash.getD (offset + i) 0
  let number := (wordOf (byte 0 &&& 0x7f) (byte 1) (byte 2) (byte 3)).toNat % Decimal.tenTo length
  let ds := Decimal.digits number
  String.ofList (List.replicate (length - ds.length) '0' ++ ds)

/-- The key that a secret stands for. -/
def key (secret : String) : Except SecretFault (List UInt8) :=
  if secret.isEmpty then .error .empty
  else match Base32.decode secret with
    | .ok bytes => .ok bytes
    | .error .notAscii => .error .notAscii
    | .error .padding => .error .padding
    | .error .digit => .error .digit

/-- The passcode of a secret at a time. -/
def generate (secret : String) (now : Time) : Except Fault String :=
  match key secret with
  | .error cause => .error (.badSecret cause)
  | .ok bytes =>
    match timeStep now with
    | .error cause => .error (.clock cause)
    | .ok step => if step < 0 then .error .timeTooEarly else .ok (digits bytes step.toNat)

end SecondFactor.Passcode
