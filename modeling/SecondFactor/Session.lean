import SecondFactor.Fault
import SecondFactor.Json
import SecondFactor.Text

/-!
# Login sessions

Two of the texts that the host keeps for a login session make up the attempt to log in.
-/
namespace SecondFactor

/-!
## Notes

The host keeps texts under keys for each login session. They are all that lasts from one request to
the next; the last write wins.
-/

structure Notes where
  entries : List (String × String)
deriving DecidableEq, Repr

namespace Notes

def empty : Notes := ⟨[]⟩

def get? (notes : Notes) (key : String) : Option String := notes.entries.lookup key

def set (notes : Notes) (key value : String) : Notes := ⟨Entries.insert key value notes.entries⟩

def remove (notes : Notes) (key : String) : Notes := ⟨Entries.erase key notes.entries⟩

@[simp] theorem get?_empty (key : String) : empty.get? key = none := rfl

@[simp] theorem get?_set (notes : Notes) (key value k : String) :
    (notes.set key value).get? k = if k = key then some value else notes.get? k :=
  Entries.lookup_insert key k value notes.entries

@[simp] theorem get?_remove (notes : Notes) (key k : String) :
    (notes.remove key).get? k = if k = key then none else notes.get? k :=
  Entries.lookup_erase key k notes.entries

end Notes

/-!
## Attempts

An attempt is the transaction to continue, if there is one, and the number of submissions so far.
It lives in two session notes between requests: the counter in canonical decimal form, and the
transaction, which is never written when it is empty.
-/

structure Attempt where
  transactionId : Option String
  /-- The number of submissions so far, at most the last index of the schedule. -/
  counter : Int
deriving DecidableEq, Repr

namespace Attempt

def transactionNote : String := "pi.transaction_id"

/-- An attempt before the first submission. -/
def fresh (transactionId : Option String) : Attempt := ⟨Text.given? transactionId, 0⟩

/-- The counter that a note holds: decimal digits of any script, not too many. -/
def readCounter (note : String) : Except Fault Nat :=
  match Decimal.read? note with
  | none => .error (.counterUnreadable note)
  | some n =>
    if Decimal.digitLimit < note.length then .error (.counterTooLong note.length) else .ok n

/-- The attempt in the notes of a session. -/
def load (notes : Notes) : Except Fault Attempt :=
  match notes.get? Fault.counterNote with
  | none => .error .counterMissing
  | some note => do
    let n ← readCounter note
    return ⟨Text.given? (notes.get? transactionNote), n⟩

/-- Writes the attempt into the notes. Without a transaction, one already there stays. -/
def save (a : Attempt) (notes : Notes) : Notes :=
  let notes := notes.set Fault.counterNote (Decimal.ofInt a.counter)
  match Text.given? a.transactionId with
  | none => notes
  | some t => notes.set transactionNote t

/-- Counts one more submission, clamped to a schedule of the given length. -/
def advance (a : Attempt) (length : Int) : Attempt :=
  { a with counter := min (a.counter + 1) (max (length - 1) 0) }

/-- The same attempt in another transaction. -/
def withTransaction (a : Attempt) (transactionId : Option String) : Attempt :=
  { a with transactionId := Text.given? transactionId }

end Attempt

end SecondFactor
