import SecondFactor.Fault
import SecondFactor.Server.Response

/-!
# What a reply says literally

A reply brings an object or nothing that can be used. An object affirms a key when its `result` is
an object with the truth value true under that key; a text, a number or a missing member does not.
The flags of a response are exactly such affirmations.
-/
namespace SecondFactor

namespace Json

/-- Whether the `result` of an object holds the truth value true under a key. -/
def affirms (body : Json) (key : String) : Bool :=
  match body.member? "result" with
  | some (.object result) =>
    match result.lookup key with
    | some (.bool b) => b
    | _ => false
  | _ => false

theorem affirms_iff {body : Json} {key : String} :
    body.affirms key = true ↔
      ∃ result, body.member? "result" = some (.object result) ∧
        result.lookup key = some (.bool true) := by
  unfold affirms
  constructor
  · intro h
    split at h
    · next result hresult =>
      split at h
      · next b hb => exact ⟨result, hresult, h ▸ hb⟩
      · cases h
    · cases h
  · rintro ⟨result, hresult, hvalue⟩
    simp only [hresult, hvalue]

end Json

namespace Response

theorem isTrue_iff {j : Option Json} : isTrue j = true ↔ j = some (.bool true) := by
  unfold isTrue
  split
  · simp
  · next h => exact ⟨fun hf => (Bool.false_ne_true hf).elim, fun ht => (h ht).elim⟩

theorem member?_part (j : Json) (key k : String) :
    (part j key).member? k = ((j.member? key).elim [] Json.entries).lookup k := rfl

theorem member?_part_eq_bind (j : Json) (key k : String) :
    (part j key).member? k = (j.member? key).bind (·.member? k) := by
  rw [member?_part]
  cases j.member? key <;> rfl

/-- What a part holds under a key stands in an object. -/
theorem member?_part_eq_some_iff {j : Json} {key k : String} {x : Json} :
    (part j key).member? k = some x ↔
      ∃ es, j.member? key = some (.object es) ∧ es.lookup k = some x := by
  rw [member?_part]
  cases j.member? key with
  | none => simp
  | some m => cases m <;> simp [Json.entries]

/-- A member of the `result` part is literally true exactly when the object affirms its key. -/
theorem isTrue_member?_part (body : Json) (key : String) :
    isTrue ((part body "result").member? key) = body.affirms key := by
  rw [Bool.eq_iff_iff, isTrue_iff, Json.affirms_iff, member?_part]
  constructor
  · intro h
    cases hresult : body.member? "result" with
    | none => simp [hresult] at h
    | some result =>
      cases result with
      | object entries => exact ⟨entries, rfl, by simpa [hresult, Json.entries] using h⟩
      | _ => simp [hresult, Json.entries] at h
  · rintro ⟨entries, hresult, hvalue⟩
    simpa [hresult, Json.entries] using hvalue

@[simp] theorem status_ofJson (body : Json) : (ofJson body).status = body.affirms "status" :=
  isTrue_member?_part body "status"

@[simp] theorem value_ofJson (body : Json) : (ofJson body).value = body.affirms "value" :=
  isTrue_member?_part body "value"

@[simp] theorem success_ofJson (body : Json) : (ofJson body).success = body.affirms "value" :=
  value_ofJson body

@[simp] theorem isError_ofJson (body : Json) :
    (ofJson body).isError = !body.affirms "status" := by
  simp [isError]

end Response

namespace Reply

/-- The object that a reply to an endpoint brings, or why it brings none. -/
def read (endpoint : Endpoint) : Reply → Except Fault Json
  | lost kind message => .error (.unreachable endpoint kind message)
  | crashed kind message => .error (.crashed kind message)
  | answer _ (.error (.tooDeep inner)) => .error (.tooDeep inner)
  | answer status (.error e) => .error (.unreadableBody endpoint status e)
  | answer _ (.ok (.object es)) => .ok (.object es)
  | answer _ (.ok _) => .error (.unexpectedBody endpoint)

/-- The object that a reply brings, wherever it comes from. -/
def object? : Reply → Option Json
  | answer _ (.ok (.object es)) => some (.object es)
  | _ => none

/-- Whether a reply brings an object that affirms a key. -/
def affirms (r : Reply) (key : String) : Bool := r.object?.any (·.affirms key)

theorem read_eq_ok_iff {endpoint : Endpoint} {r : Reply} {body : Json} :
    r.read endpoint = .ok body ↔ r.object? = some body := by
  unfold read object?
  split <;> simp_all

end Reply

end SecondFactor
