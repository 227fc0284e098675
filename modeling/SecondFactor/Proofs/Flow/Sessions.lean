import SecondFactor.Proofs.Flow.Endings

/-!
# Sessions

A session is a list of visits, each a beginning or a submission with settings, a client and replies
of its own; only the notes pass from one to the next. A visit that fails passes them on as it found
them, and so does a beginning that shows no page. Others may keep notes in the same session, as long
as they leave those of the attempt alone.
-/
namespace SecondFactor.Flow

/-- What a request asks of the flow. -/
inductive Move
  | begin
  | resume (fields : Fields)

/-- A request to the flow, with all that it works on except the notes. -/
structure Visit where
  settings : Settings
  user : User
  move : Move
  conversation : Conversation
  client : Option Client
  builds : Nat

namespace Visit

/-- The step of the flow that a visit takes. -/
def step (v : Visit) : Step Result :=
  match v.move with
  | .begin => Flow.begin v.settings v.user
  | .resume fields => Flow.resume v.settings v.user fields

/-- The state in which a visit finds the flow. -/
def state (v : Visit) (notes : Notes) : State := ⟨notes, v.conversation, v.client, v.builds⟩

/-- The result of a visit that finds certain notes. -/
def result (v : Visit) (notes : Notes) : Except Fault Result := (v.step.runFrom (v.state notes)).1

/-- The notes that a visit leaves. -/
def after (v : Visit) (notes : Notes) : Notes := (v.step.runFrom (v.state notes)).2.notes

/-- What passes during a visit. -/
def dialogue (v : Visit) (notes : Notes) : Dialogue :=
  v.conversation.dialogue (v.step.runFrom (v.state notes)).2.conversation

/-- What brings new challenges in answer to the passcode of a visit, if any come. -/
def answer? (v : Visit) (notes : Notes) : Option Response :=
  match v.move with
  | .begin => none
  | .resume fields => renewing fields (v.dialogue notes)

/-- A beginning that shows a page, and so starts an attempt. -/
def Shows (v : Visit) (notes : Notes) : Prop :=
  v.move = .begin ∧ ∃ page, v.result notes = .ok (.challenge page)

end Visit

/-- The notes after a session that started with certain notes. -/
def notesAfter : Notes → List Visit → Notes
  | notes, [] => notes
  | notes, v :: visits => notesAfter (v.after notes) visits

/-- During a session that starts with certain notes, a visit finds certain notes. -/
inductive Finds : Notes → List Visit → Visit → Notes → Prop
  | here {notes : Notes} {v : Visit} {visits : List Visit} : Finds notes (v :: visits) v notes
  | later {notes seen : Notes} {v w : Visit} {visits : List Visit}
      (h : Finds (v.after notes) visits w seen) : Finds notes (v :: visits) w seen

theorem notesAfter_append (notes : Notes) (visits more : List Visit) :
    notesAfter notes (visits ++ more) = notesAfter (notesAfter notes visits) more := by
  induction visits generalizing notes with
  | nil => rfl
  | cons v visits ih => exact ih (v.after notes)

/-- A session goes on where a visit left certain notes. Each visit stands beside the notes that it
finds; others may have written to them since, but not to the attempt. -/
inductive GoesOn : Notes → List (Visit × Notes) → Prop
  | nil {left : Notes} : GoesOn left []
  | cons {left found : Notes} {v : Visit} {later : List (Visit × Notes)}
      (same : left.SameAttempt found) (rest : GoesOn (v.after found) later) :
      GoesOn left ((v, found) :: later)

namespace Visit

variable {v : Visit} {notes : Notes}

theorem step_of_begin (hmove : v.move = .begin) : v.step = Flow.begin v.settings v.user := by
  rw [step, hmove]

theorem step_of_resume {fields : Fields} (hmove : v.move = .resume fields) :
    v.step = Flow.resume v.settings v.user fields := by
  rw [step, hmove]

theorem begins (hmove : v.move = .begin) (notes : Notes) :
    ∃ xs ys, Begins v.settings v.user (v.state notes) (v.step.runFrom (v.state notes)).2
      (v.result notes) xs ys := by
  rw [result, step_of_begin hmove]
  exact begin_begins v.settings v.user (v.state notes)

/-- A beginning that shows no page leaves the notes as they are. -/
theorem after_of_begin (hmove : v.move = .begin) (h : ¬ v.Shows notes) : v.after notes = notes := by
  obtain ⟨xs, ys, hbegins⟩ := begins hmove notes
  have hpage : ¬ ∃ page, v.result notes = .ok (.challenge page) := fun hpage => h ⟨hmove, hpage⟩
  have hopened := hbegins.opened
  generalize v.result notes = result at hpage hopened
  cases hopened with
  | excluded h unchanged => exact unchanged
  | failed h unchanged => exact unchanged
  | shown h written => exact absurd ⟨_, rfl⟩ hpage

/-- A beginning that shows a page writes a fresh attempt. -/
theorem after_of_shows (h : v.Shows notes) :
    v.after notes = (Attempt.fresh (issuedIn (v.dialogue notes))).save notes := by
  obtain ⟨hmove, page, hpage⟩ := h
  obtain ⟨xs, ys, hbegins⟩ := begins hmove notes
  have hopened := hbegins.opened
  have hdialogue : v.dialogue notes = xs ++ ys := hbegins.dialogue
  rw [hpage] at hopened
  cases hopened with
  | shown h written =>
    rw [hdialogue]
    exact written

/-- A beginning shows no page but its first one. -/
theorem shows_of_page (hmove : v.move = .begin) {r : Result} (h : v.result notes = .ok r)
    {page : Presentation} (hpage : r.page? = some page) :
    r = .challenge page ∧ v.Shows notes := by
  obtain ⟨xs, ys, hbegins⟩ := begins hmove notes
  have hopened := hbegins.opened
  rw [h] at hopened
  cases hopened with
  | excluded excluded unchanged => cases hpage
  | shown other written =>
    cases hpage
    exact ⟨rfl, hmove, _, h⟩

theorem answer?_of_resume {fields : Fields} (hmove : v.move = .resume fields) :
    v.answer? notes = renewing fields (v.conversation.dialogue
      ((Flow.resume v.settings v.user fields).runFrom (v.state notes)).2.conversation) := by
  simp only [answer?, hmove, dialogue, step]

theorem ends {fields : Fields} (hmove : v.move = .resume fields) {r : Result}
    (h : v.result notes = .ok r) :
    Ends v.settings fields notes (v.answer? notes) r (v.after notes) := by
  rw [result, step_of_resume hmove] at h
  rw [answer?_of_resume hmove, after, step_of_resume hmove]
  exact resume_ends h

/-- A submission that fails brings no new challenges. -/
theorem answer?_of_failed {fields : Fields} (hmove : v.move = .resume fields) {f : Fault}
    (h : v.result notes = .error f) : v.answer? notes = none := by
  rw [result, step_of_resume hmove] at h
  rw [answer?_of_resume hmove]
  exact (resume_fails h).answer

/-- A visit that fails passes the notes on as it found them. -/
theorem after_of_failed {f : Fault} (h : v.result notes = .error f) : v.after notes = notes := by
  unfold result at h
  unfold after
  cases hmove : v.move with
  | begin =>
    rw [step_of_begin hmove] at h ⊢
    exact notes_of_begin_failed h
  | resume fields =>
    rw [step_of_resume hmove] at h ⊢
    exact (resume_fails h).notes

end Visit

end SecondFactor.Flow
