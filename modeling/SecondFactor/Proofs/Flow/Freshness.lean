import SecondFactor.Proofs.Flow.Acceptance
import SecondFactor.Proofs.Flow.Endings
import SecondFactor.Proofs.Flow.Sessions
import SecondFactor.Proofs.Settings.Fields

/-!
# Where the transaction in the notes comes from

The transaction in the notes is replaced by a beginning that shows a page and by new challenges in
answer to a passcode. The latter replace it in any case. A beginning replaces it only by a
transaction of its own, so where it has none the one of an earlier attempt lives on.
-/
namespace SecondFactor.Flow

/-- The transaction that the notes hold. -/
def stored (notes : Notes) : Option String := notes.get? Attempt.transactionNote

namespace Visit

/-- The transaction of the challenges that a visit triggers. -/
def issued (v : Visit) (notes : Notes) : Option String := issuedIn (v.dialogue notes)

/-- The transaction of the challenges that come in answer to a passcode, if any come. -/
def batch? (v : Visit) (notes : Notes) : Option (Option String) :=
  match v.move with
  | .begin => none
  | .resume fields =>
    if fields.first Page.tokenType = some "push" then none
    else (((v.dialogue notes).responseTo .validateCheck).filter Response.hasChallenges).map
      fun r => Text.given? (some r.transactionId)

/-- A visit polls or validates a transaction. -/
def Names (v : Visit) (notes : Notes) (transaction : String) : Prop :=
  ∃ x ∈ v.dialogue notes,
    (x.1.endpoint = .pollTransaction ∨ x.1.endpoint = .validateCheck) ∧
      ("transaction_id", transaction) ∈ x.1.fields

end Visit

/-! ## One visit -/

theorem given?_issuedIn (xs : Dialogue) : Text.given? (issuedIn xs) = issuedIn xs := by
  unfold issuedIn
  cases xs.responseTo .triggerChallenge with
  | none => rfl
  | some r => simp

theorem transaction_of_mem_pushRequests {c : Client} {user : User} {transaction t : String}
    {replies : List Reply} {q : Request} (hq : q ∈ pushRequests c user transaction replies)
    (ht : ("transaction_id", t) ∈ q.fields) : t = transaction := by
  unfold pushRequests at hq
  rcases List.mem_cons.1 hq with rfl | hq
  · simpa [Client.pollRequest, Client.requestTo] using ht
  · split at hq
    · rw [List.mem_singleton.1 hq] at ht
      simpa [Client.finishRequest, Client.requestTo, Client.realmField] using ht
    · cases hq

/-- A submission names no transaction but the one in the notes. -/
theorem stored_of_mem_due {settings : Settings} {user : User} {fields : Fields} {s : State}
    {q : Request} {t : String} (hq : q ∈ due settings user fields s)
    (ht : ("transaction_id", t) ∈ q.fields) : stored s.notes = some t := by
  unfold due at hq
  split at hq
  · split at hq
    · split at hq
      · cases hq
      · next transaction given =>
        rw [transaction_of_mem_pushRequests hq ht]
        exact (Text.given?_eq_some_iff.1 given).1
    · rw [List.mem_singleton.1 hq] at ht
      simp [Client.passcodeRequest, Client.requestTo, Client.realmField] at ht
  · cases hq

namespace Visit

variable {v : Visit} {notes : Notes}

/-- A beginning that shows a page keeps the transaction that it finds unless it has its own. -/
theorem stored_of_shows (h : v.Shows notes) :
    stored (v.after notes) = (v.issued notes).or (stored notes) := by
  rw [stored, after_of_shows h, Attempt.get?_save_transactionNote, Attempt.fresh,
    Text.given?_given?, given?_issuedIn]
  rfl

theorem batch?_eq_map (v : Visit) (notes : Notes) :
    v.batch? notes = (v.answer? notes).map fun r => Text.given? (some r.transactionId) := by
  unfold batch? answer? renewing
  cases v.move with
  | begin => rfl
  | resume fields => by_cases h : fields.first Page.tokenType = some "push" <;> simp [h]

theorem transactionAfter_eq_getD (answer : Option Response) (notes : Notes) :
    transactionAfter answer notes =
      (answer.map fun r => Text.given? (some r.transactionId)).getD (stored notes) := by
  cases answer <;> rfl

/-- A submission brings the transaction of new challenges, if any came in answer to a passcode. -/
theorem stored_of_resume {fields : Fields} (hmove : v.move = .resume fields) :
    stored (v.after notes) = (v.batch? notes).getD (stored notes) := by
  rw [batch?_eq_map]
  cases hresult : v.result notes with
  | error f =>
    rw [after_of_failed hresult, answer?_of_failed hmove hresult]
    rfl
  | ok r =>
    have hends := ends hmove hresult
    rw [← transactionAfter_eq_getD]
    generalize v.answer? notes = answer at hends ⊢
    generalize v.after notes = left at hends ⊢
    cases hends with
    | cancelled => rfl
    | @letIn attempt _ loaded => exact get?_renewedNotes_transactionNote attempt answer notes
    | rejected loaded => exact get?_rejected_transactionNote loaded answer _

/-- Unless a beginning shows a page, the transaction stays, or new challenges in answer to a
passcode replace it. -/
theorem stored_of_not_shows (h : ¬ v.Shows notes) :
    stored (v.after notes) = (v.batch? notes).getD (stored notes) := by
  cases hmove : v.move with
  | begin =>
    rw [after_of_begin hmove h]
    simp [batch?, hmove]
  | resume fields => exact stored_of_resume hmove

/-- A beginning polls and validates nothing. -/
theorem not_names_of_begin (hmove : v.move = .begin) (transaction : String) :
    ¬ v.Names notes transaction := by
  rintro ⟨x, hx, hendpoint, -⟩
  obtain ⟨xs, ys, hbegins⟩ := begins hmove notes
  rw [show v.dialogue notes = xs ++ ys from hbegins.dialogue] at hx
  rcases List.mem_append.1 hx with hx | hx
  · rcases hbegins.triggering x hx with h | h <;> simp [h] at hendpoint
  · rcases hbegins.enrolling.endpoint_of_mem hx with h | h | h <;> simp [h] at hendpoint

/-- Only the transaction in the notes is polled or validated. -/
theorem stored_of_names {transaction : String} (h : v.Names notes transaction) :
    stored notes = some transaction := by
  cases hmove : v.move with
  | begin => exact absurd h (not_names_of_begin hmove transaction)
  | resume fields =>
    obtain ⟨x, hx, -, hfield⟩ := h
    rw [dialogue, step_of_resume hmove] at hx
    have htraffic := resume_traffic v.settings v.user fields (v.state notes)
    rw [show v.conversation = (v.state notes).conversation from rfl, htraffic.dialogue_eq] at hx
    exact stored_of_mem_due (Conversation.fst_mem_of_mem_paired hx) hfield

end Visit

/-! ## Sessions -/

/-- A visit brings a transaction: with the page that it shows, or in answer to a passcode. -/
def Visit.Brings (v : Visit) (notes : Notes) (transaction : String) : Prop :=
  v.Shows notes ∧ v.issued notes = some transaction ∨ v.batch? notes = some (some transaction)

/-- A transaction in the notes was there at first, or a visit of the session brought it. -/
theorem stored_origin {notes : Notes} {visits : List Visit} {transaction : String}
    (h : stored (notesAfter notes visits) = some transaction) :
    stored notes = some transaction ∨
      ∃ w seen, Finds notes visits w seen ∧ w.Brings seen transaction := by
  -- The notes are generalized, because a visit hands on other notes than it finds.
  induction visits generalizing notes with
  | nil => exact .inl h
  | cons v visits ih =>
    rcases ih h with hkept | ⟨w, seen, hfinds, hbrings⟩
    · by_cases hshows : v.Shows notes
      · rw [Visit.stored_of_shows hshows] at hkept
        cases hissued : v.issued notes with
        | none => exact .inl (by simpa [hissued] using hkept)
        | some t =>
          have ht : t = transaction := by simpa [hissued] using hkept
          exact .inr ⟨v, notes, .here, .inl ⟨hshows, by rw [hissued, ht]⟩⟩
      · rw [Visit.stored_of_not_shows hshows] at hkept
        cases hbatch : v.batch? notes with
        | none => exact .inl (by simpa [hbatch] using hkept)
        | some t? =>
          have ht : t? = some transaction := by simpa [hbatch] using hkept
          exact .inr ⟨v, notes, .here, .inr (by rw [hbatch, ht])⟩
    · exact .inr ⟨w, seen, .later hfinds, hbrings⟩

/-- As long as no beginning shows a page, the transaction is that of the last challenges in answer
to a passcode, and without any it stays. -/
theorem stored_of_no_shows {notes : Notes} {visits : List Visit}
    (h : ∀ w seen, Finds notes visits w seen → ¬ w.Shows seen) :
    (∃ w seen, Finds notes visits w seen ∧
        w.batch? seen = some (stored (notesAfter notes visits))) ∨
      (∀ w seen, Finds notes visits w seen → w.batch? seen = none) ∧
        stored (notesAfter notes visits) = stored notes := by
  induction visits generalizing notes with
  | nil => exact .inr ⟨fun w seen hfinds => (by cases hfinds), rfl⟩
  | cons v visits ih =>
    have hstep := Visit.stored_of_not_shows (h v notes .here)
    -- What comes later counts first; this visit counts where nothing later does.
    rcases ih fun w seen hfinds => h w seen (.later hfinds) with
      ⟨w, seen, hfinds, hbatch⟩ | ⟨hnone, hkept⟩
    · exact .inl ⟨w, seen, .later hfinds, hbatch⟩
    · rw [notesAfter, hkept]
      cases hbatch : v.batch? notes with
      | some t? =>
        rw [hbatch] at hstep
        exact .inl ⟨v, notes, .here, by rw [hbatch, hstep]; rfl⟩
      | none =>
        rw [hbatch] at hstep
        refine .inr ⟨?_, hstep⟩
        intro w seen hfinds
        cases hfinds with
        | here => exact hbatch
        | later hfinds => exact hnone w seen hfinds

/-- The transaction of a session. After a beginning that shows a page the notes hold its own
transaction, or else the one that was there before; so they hold its own exactly where it has one or
there was none. From then on a submission names a transaction of that beginning or of challenges
that came later in answer to a passcode, except that the transaction of an earlier visit may be
named where the beginning has none and no such challenges came. -/
theorem transaction_of_session (earlier later : List Visit) (b : Visit)
    (hb : b.Shows (notesAfter .empty earlier))
    (hlater : ∀ w seen, Finds (notesAfter .empty (earlier ++ [b])) later w seen →
      ¬ w.Shows seen) :
    let before := notesAfter .empty earlier
    let start := notesAfter .empty (earlier ++ [b])
    stored start = (b.issued before).or (stored before) ∧
    (stored start = b.issued before ↔ b.issued before ≠ none ∨ stored before = none) ∧
    ∀ (v : Visit) (transaction : String),
      v.Names (notesAfter .empty (earlier ++ b :: later)) transaction →
      (∃ w seen, Finds start later w seen ∧ w.batch? seen = some (some transaction)) ∨
      b.issued before = some transaction ∨
      b.issued before = none ∧ (∀ w seen, Finds start later w seen → w.batch? seen = none) ∧
        stored before = some transaction ∧
        ∃ w seen, Finds .empty earlier w seen ∧ w.Brings seen transaction := by
  intro before start
  have hstart : start = b.after before := notesAfter_append .empty earlier [b]
  have hstored : stored start = (b.issued before).or (stored before) := by
    rw [hstart]
    exact Visit.stored_of_shows hb
  refine ⟨hstored, ?_, ?_⟩
  · rw [hstored]
    cases b.issued before <;> simp
  · intro v transaction hnames
    have hnow : notesAfter .empty (earlier ++ b :: later) = notesAfter start later := by
      rw [← List.singleton_append, ← List.append_assoc, notesAfter_append]
    have hnamed := Visit.stored_of_names hnames
    rw [hnow] at hnamed
    rcases stored_of_no_shows hlater with ⟨w, seen, hfinds, hbatch⟩ | ⟨hnone, hkept⟩
    · exact .inl ⟨w, seen, hfinds, by rw [hbatch]; exact congrArg some hnamed⟩
    · have hfirst : (b.issued before).or (stored before) = some transaction := by
        rw [← hstored, ← hnamed]
        exact hkept.symm
      cases hissued : b.issued before with
      | some t => exact .inr (.inl (by simpa [hissued] using hfirst))
      | none =>
        have hold : stored before = some transaction := by simpa [hissued] using hfirst
        rcases stored_origin hold with hempty | horigin
        · cases hempty
        · exact .inr (.inr ⟨rfl, hnone, hold, horigin⟩)

/-- A beginning of alice that triggers her challenges, where the server lets the service account in
and then answers with a detail. -/
def opening (detail : List (String × Json)) : Visit :=
  { settings :=
      { Settings.ofUrl "https://mfa.example" with
        triggerChallenge := true
        serviceAccountName := some "service"
        serviceAccountPassword := some "secret" }
    user := ⟨"alice", []⟩
    move := .begin
    conversation := .ofReplies
      [.answer 200 (.ok (.object [("result", .object
          [("status", .bool true), ("value", .object [("token", .text "token")])])])),
        .answer 200 (.ok (.object [("result", .object [("status", .bool true)]),
          ("detail", .object detail)]))]
    client := none
    builds := 0 }

theorem opening_shows (notes : Notes) (detail : List (String × Json)) :
    (opening detail).Shows notes := ⟨rfl, _, rfl⟩

/-- Where the second answer has no transaction, the one of the first is still in the notes. -/
theorem transaction_of_session_reopened :
    (opening []).Shows (notesAfter .empty [opening [("transaction_id", .text "first")]]) ∧
    stored (notesAfter .empty ([opening [("transaction_id", .text "first")]] ++ [opening []])) =
      some "first" := by
  have hshows := opening_shows (notesAfter .empty [opening [("transaction_id", .text "first")]]) []
  refine ⟨hshows, ?_⟩
  rw [(transaction_of_session [opening [("transaction_id", .text "first")]] [] (opening []) hshows
    (fun w seen hfinds => by cases hfinds)).1]
  rfl

/-- A submission of alice that waits for the device, where the server confirms and accepts. -/
def waiting : Visit :=
  { settings := Settings.ofUrl "https://mfa.example"
    user := ⟨"alice", []⟩
    move := .resume [(Page.tokenType, .single "push")]
    conversation := .ofReplies
      [.answer 200 (.ok (.object [("result", .object
          [("status", .bool true), ("value", .bool true)])])),
        .answer 200 (.ok (.object [("result", .object
          [("status", .bool true), ("value", .bool true)])]))]
    client := none
    builds := 0 }

/-- The transaction of an earlier attempt outlives a beginning that has none, and then lets in. -/
theorem stale_transaction_survives :
    (opening []).Shows (notesAfter .empty [opening [("transaction_id", .text "first")]]) ∧
    (opening []).issued (notesAfter .empty [opening [("transaction_id", .text "first")]]) = none ∧
    stored (notesAfter .empty [opening [("transaction_id", .text "first")], opening []]) =
      some "first" ∧
    waiting.Names
      (notesAfter .empty [opening [("transaction_id", .text "first")], opening []]) "first" ∧
    (waiting.result (notesAfter .empty
      [opening [("transaction_id", .text "first")], opening []])).toOption = some .success := by
  refine ⟨opening_shows _ [], rfl, rfl, ?_, by decide +kernel⟩
  have hpolled : (waiting.dialogue (notesAfter .empty
      [opening [("transaction_id", .text "first")], opening []])).any (fun x =>
        x.1.endpoint = .pollTransaction && x.1.fields.contains ("transaction_id", "first")) =
      true := by decide +kernel
  obtain ⟨x, hx, hnamed⟩ := List.any_eq_true.1 hpolled
  simp only [Bool.and_eq_true, decide_eq_true_eq, List.contains_iff_mem] at hnamed
  exact ⟨x, hx, .inl hnamed.1, hnamed.2⟩

end SecondFactor.Flow
