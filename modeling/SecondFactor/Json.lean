import SecondFactor.Binary64

/-!
# JSON values

Whole numbers and floating-point numbers are kept apart, and an object keeps its entries in the
order in which their keys first appeared, because both can be seen where a value is turned into
text.
-/
namespace SecondFactor

/-!
## Ordered entries

A list of keys with values in which each key has one place: a repeated key keeps its place and
takes the later value. Objects, notes and form fields are kept this way. The view of such a list is
`List.lookup`, and each operation states what it does to that view.
-/

namespace Entries

variable {α : Type}

/-- Sets the value of a key, at the end if the key is new. -/
def insert (key : String) (value : α) : List (String × α) → List (String × α)
  | [] => [(key, value)]
  | (k, v) :: rest => if k = key then (k, value) :: rest else (k, v) :: insert key value rest

/-- Removes a key. -/
def erase (key : String) (es : List (String × α)) : List (String × α) :=
  es.filter fun e => e.1 != key

/-- Sets the values of many keys, one after the other. -/
def overlay (es changes : List (String × α)) : List (String × α) :=
  changes.foldl (fun es e => insert e.1 e.2 es) es

@[simp] theorem lookup_nil (k : String) : ([] : List (String × α)).lookup k = none := rfl

theorem lookup_cons (k k' : String) (v : α) (es : List (String × α)) :
    ((k', v) :: es).lookup k = if k = k' then some v else es.lookup k := by
  by_cases h : k = k' <;> simp [List.lookup_cons, h, beq_false_of_ne]

theorem lookup_insert (key k : String) (value : α) (es : List (String × α)) :
    (insert key value es).lookup k = if k = key then some value else es.lookup k := by
  induction es with
  | nil => simp [insert, lookup_cons]
  | cons e rest ih =>
    obtain ⟨k', v'⟩ := e
    by_cases h : k' = key
    · subst h
      by_cases h' : k = k' <;> simp [insert, lookup_cons, h']
    · by_cases h' : k = k'
      · subst h'
        simp [insert, h]
      · simp [insert, lookup_cons, h, h', ih]

/-- Entries that are kept by their keys are found as before. -/
theorem lookup_filter (keep : String → Bool) (k : String) (es : List (String × α)) :
    (es.filter fun e => keep e.1).lookup k = if keep k then es.lookup k else none := by
  induction es with
  | nil => simp
  | cons e rest ih =>
    obtain ⟨k', v'⟩ := e
    cases hkeep : keep k' with
    | true =>
      by_cases h : k = k'
      · subst h; simp [hkeep]
      · simp [hkeep, lookup_cons, h, ih]
    | false =>
      by_cases h : k = k'
      · subst h; simp [hkeep, ih]
      · simp [hkeep, lookup_cons, h, ih]

theorem lookup_erase (key k : String) (es : List (String × α)) :
    (erase key es).lookup k = if k = key then none else es.lookup k := by
  rw [erase, lookup_filter fun k => k != key]
  by_cases h : k = key <;> simp [h]

/-- An overlay concerns only the keys that it sets. -/
theorem lookup_overlay {k : String} {changes : List (String × α)} (h : ∀ e ∈ changes, e.1 ≠ k)
    (es : List (String × α)) : (overlay es changes).lookup k = es.lookup k := by
  induction changes generalizing es with
  | nil => rfl
  | cons e rest ih =>
    have hne : k ≠ e.1 := (h e List.mem_cons_self).symm
    have hrest := ih (fun e' he' => h e' (List.mem_cons_of_mem _ he')) (insert e.1 e.2 es)
    rw [lookup_insert, if_neg hne] at hrest
    exact hrest

end Entries

/-! ## Values -/

/-- A number as it was written: whole, or with a point or an exponent. -/
inductive Number
  | int (value : Int)
  | float (value : Binary64)
deriving DecidableEq, Repr

inductive Json
  | null
  | bool (b : Bool)
  | number (n : Number)
  | text (s : String)
  | list (items : List Json)
  | object (entries : List (String × Json))
deriving BEq, Repr

namespace Json

abbrev int (i : Int) : Json := .number (.int i)

instance : Inhabited Json := ⟨.null⟩

/-- The entries of an object; anything else has none. -/
def entries : Json → List (String × Json)
  | .object es => es
  | _ => []

/-- The items of a list; anything else has none. -/
def items : Json → List Json
  | .list xs => xs
  | _ => []

/-- The member of an object under a key. -/
def member? (j : Json) (key : String) : Option Json := j.entries.lookup key

def isObject : Json → Bool
  | .object _ => true
  | _ => false

/-- Whether a value counts as given: not null, not false, not zero and not empty. -/
def isTruthy : Json → Bool
  | .null => false
  | .bool b => b
  | .number (.int i) => i != 0
  | .number (.float x) => !x.isZero
  | .text s => !s.isEmpty
  | .list xs => !xs.isEmpty
  | .object es => !es.isEmpty

end Json

end SecondFactor
