/-!
# Polling schedules

A schedule is a list of waiting times in seconds with at least one entry. A page looks its waiting
time up with the number of the attempt, clamped into the schedule; a background poller does the same
with the number of its waits. Nothing bounds an entry, but a timer may be unable to wait for so
long.
-/
namespace SecondFactor

structure Schedule where
  first : Int
  rest : List Int
deriving DecidableEq, Repr

namespace Schedule

/-- The schedule of a list that is not empty. -/
def ofList? : List Int → Option Schedule
  | [] => none
  | i :: is => some ⟨i, is⟩

def toList (s : Schedule) : List Int := s.first :: s.rest

def length (s : Schedule) : Nat := s.rest.length + 1

/-- The greatest index. -/
def last (s : Schedule) : Nat := s.rest.length

/-- The waiting time at an index; past the end the last one repeats. -/
def interval (s : Schedule) (i : Nat) : Int := s.toList.getD (min i s.last) s.first

/-- The waiting time at an index clamped at both ends. -/
def clamped (s : Schedule) (i : Int) : Int := s.interval i.toNat

/-- The waiting time at an index where a negative one counts from the end. -/
def fromEnd? (s : Schedule) (i : Int) : Option Int :=
  if 0 ≤ i then some (s.interval i.toNat)
  else if -(s.length : Int) ≤ i then s.toList[(s.length + i).toNat]?
  else none

@[simp] theorem length_toList (s : Schedule) : s.toList.length = s.length := rfl

theorem clamped_natCast (s : Schedule) (i : Nat) : s.clamped i = s.interval i := rfl

/-- A lookup finds an entry of the schedule. -/
theorem interval_mem (s : Schedule) (i : Nat) : s.interval i ∈ s.toList := by
  have h : min i s.last < s.toList.length := by simp only [length_toList, length, last]; omega
  simp [interval, List.getD_eq_getElem?_getD, List.getElem?_eq_getElem h]

/-- Inside the schedule a lookup gives the entry at the index. -/
theorem getElem?_toList {s : Schedule} {i : Nat} (h : i < s.length) :
    s.toList[i]? = some (s.interval i) := by
  have hmin : min i s.last = i := by simp only [length, last] at h ⊢; omega
  have hlength : i < s.toList.length := h
  simp [interval, List.getD_eq_getElem?_getD, hmin, List.getElem?_eq_getElem hlength]

/-- Past the end of the schedule it is the last entry that counts. -/
theorem interval_min_last (s : Schedule) (k : Nat) : s.interval (min k s.last) = s.interval k := by
  unfold interval
  rw [Nat.min_assoc, Nat.min_self]

theorem getElem?_min_last (s : Schedule) (k : Nat) :
    s.toList[min k (s.length - 1)]? = some (s.interval k) := by
  have hlast : min k (s.length - 1) = min k s.last := rfl
  have hbelow : min k s.last < s.length := by
    simp only [length, last]
    omega
  rw [hlast, getElem?_toList hbelow, interval_min_last]

/-- A lookup finds the entry at the index clamped into the schedule. -/
theorem getElem?_clamped (s : Schedule) (i : Int) :
    s.toList[(max 0 (min i (s.length - 1))).toNat]? = some (s.clamped i) := by
  have hpos : 0 < s.length := Nat.succ_pos _
  have hindex : (max 0 (min i (s.length - 1))).toNat = min i.toNat (s.length - 1) := by omega
  rw [hindex, getElem?_min_last]
  rfl

end Schedule

/-- What makes a program wait. -/
structure Timer where
  /-- The most seconds it can wait at once, if there is a bound. -/
  longest : Option Nat

namespace Timer

/-- Any time can be waited for, as where nothing waits in fact. -/
def unbounded : Timer := ⟨none⟩

/-- Nanoseconds are counted in a word of 64 bits with a sign. -/
def nanoseconds : Timer := ⟨some 9223372036⟩

/-- Whether it can wait for so many seconds. -/
def takes (t : Timer) (seconds : Int) : Bool := t.longest.all fun longest => seconds ≤ longest

end Timer

end SecondFactor
