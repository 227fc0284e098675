import SecondFactor.Proofs.Client.Faults
import SecondFactor.Proofs.Flow.Openings
import SecondFactor.Proofs.Flow.Submissions
import SecondFactor.Proofs.Session

/-!
# How the steps of the flow end

A step that fails leaves the notes as they are. A submission that does not fail is cancelled, let in
or rejected; the new challenges in the answer to its passcode, if there are any, replace the
transaction in the last two cases alike. A rejected one counts as an attempt and shows a page.
-/
namespace SecondFactor.Flow

/-! ## New challenges -/

/-- The response that brings a submission new challenges, which only an answer to a passcode does.
A submission that waits for the device gets none, whatever its replies hold. -/
def renewing (fields : Fields) (xs : Dialogue) : Option Response :=
  if fields.first Page.tokenType = some "push" then none
  else (xs.responseTo .validateCheck).filter Response.hasChallenges

/-- The attempt that goes on: new challenges bring a transaction of their own. -/
def renewed (attempt : Attempt) (answer : Option Response) : Attempt :=
  answer.elim attempt fun r => attempt.withTransaction (some r.transactionId)

/-- The notes once new challenges, if there are any, replaced the transaction. -/
def renewedNotes (attempt : Attempt) (answer : Option Response) (notes : Notes) : Notes :=
  answer.elim notes fun r => adoptedNotes attempt r notes

theorem renewal_eq_filter (r : Response) :
    renewal r = (some r).filter Response.hasChallenges := by
  unfold renewal
  cases h : r.hasChallenges <;> simp [Option.filter, h]

theorem renewed_renewal (attempt : Attempt) (r : Response) :
    renewed attempt (renewal r) = continued attempt r := by
  unfold renewed renewal continued
  cases r.hasChallenges <;> rfl

theorem renewedNotes_renewal (attempt : Attempt) (r : Response) (notes : Notes) :
    renewedNotes attempt (renewal r) notes =
      if r.hasChallenges then adoptedNotes attempt r notes else notes := by
  unfold renewedNotes renewal
  cases r.hasChallenges <;> rfl

/-- The response to a passcode is the answer to its validation. -/
theorem responseTo_otpDue (settings : Settings) (user : User) (form : Submission) (s : State) :
    (Conversation.paired (otpDue settings user form s) s.conversation.pending).responseTo
      .validateCheck = (otpAnswer settings s).toOption := by
  unfold otpDue otpAnswer
  cases s.clientFor settings with
  | error f => rfl
  | ok c =>
    have hendpoint : (c.passcodeRequest user.name form.otp).endpoint = .validateCheck := rfl
    rw [Conversation.paired, Dialogue.responseTo_cons hendpoint]
    simp only [bind, Except.bind]
    cases h : Client.answered .validateCheck s.conversation.pending.head? with
    | error f => rw [Client.object?_of_answered h]; rfl
    | ok body => rw [Client.answered_eq_ok_iff.1 h]; rfl

/-! ## Failures -/

theorem category_of_pushAnswer {replies : List Reply} {f : Fault}
    (h : pushAnswer replies = .error f) :
    f.category = .connection ∨ ∃ kind, f.category = .foreign kind := by
  unfold pushAnswer at h
  split at h
  · next hpolled =>
    cases h
    exact Client.category_of_answered hpolled
  · split at h
    · cases hchecked : Client.answered .validateCheck replies.tail.head? with
      | error g =>
        rw [hchecked] at h
        cases h
        exact Client.category_of_answered hchecked
      | ok body =>
        rw [hchecked] at h
        cases h
    · cases h

theorem category_of_pushVerdict {settings : Settings} {attempt : Attempt} {s : State} {f : Fault}
    (h : pushVerdict settings attempt s = .error f) :
    f.category = .configuration ∨ f.category = .connection ∨ ∃ kind, f.category = .foreign kind := by
  unfold pushVerdict at h
  split at h
  · cases h
  · next hclient =>
    cases h
    exact .inl (State.category_of_clientFor hclient)
  · exact .inr (category_of_pushAnswer h)

theorem category_of_otpAnswer {settings : Settings} {s : State} {f : Fault}
    (h : otpAnswer settings s = .error f) :
    f.category = .configuration ∨ f.category = .connection ∨ ∃ kind, f.category = .foreign kind := by
  unfold otpAnswer at h
  cases hclient : s.clientFor settings with
  | error g =>
    rw [hclient] at h
    cases h
    exact .inl (State.category_of_clientFor hclient)
  | ok c =>
    rw [hclient] at h
    cases hanswered : Client.answered .validateCheck s.conversation.pending.head? with
    | error g =>
      rw [hanswered] at h
      cases h
      exact .inr (Client.category_of_answered hanswered)
    | ok body =>
      rw [hanswered] at h
      cases h

/-! ## Notes with a new transaction -/

/-- New challenges replace the transaction, also by none. -/
theorem get?_adoptedNotes_transactionNote (attempt : Attempt) (r : Response) (notes : Notes) :
    (adoptedNotes attempt r notes).get? Attempt.transactionNote =
      Text.given? (some r.transactionId) := by
  have hnext : (attempt.withTransaction (some r.transactionId)).transactionId =
      Text.given? (some r.transactionId) := rfl
  unfold adoptedNotes
  simp only [hnext]
  cases hgiven : Text.given? (some r.transactionId) with
  | none => simp
  | some transaction =>
    simp only [Option.isNone_some, Bool.false_eq_true, if_false]
    rw [Attempt.get?_save_transactionNote, hnext, Text.given?_given?, hgiven]
    rfl

theorem get?_adoptedNotes_counterNote (attempt : Attempt) (r : Response) (notes : Notes) :
    (adoptedNotes attempt r notes).get? Fault.counterNote =
      some (Decimal.ofInt attempt.counter) := by
  have hsaved := (attempt.withTransaction (some r.transactionId)).get?_save_counterNote notes
  unfold adoptedNotes
  simp only
  split
  · rw [Notes.get?_remove, if_neg Attempt.transactionNote_ne_counterNote.symm]
    exact hsaved
  · exact hsaved

/-- What the transaction note holds once a submission went on. -/
def transactionAfter (answer : Option Response) (notes : Notes) : Option String :=
  answer.elim (notes.get? Attempt.transactionNote) fun r => Text.given? (some r.transactionId)

theorem get?_renewedNotes_transactionNote (attempt : Attempt) (answer : Option Response)
    (notes : Notes) :
    (renewedNotes attempt answer notes).get? Attempt.transactionNote =
      transactionAfter answer notes := by
  cases answer with
  | none => rfl
  | some r => exact get?_adoptedNotes_transactionNote attempt r notes

/-- Counting the attempt afterwards does not touch the transaction again. -/
theorem get?_rejected_transactionNote {attempt : Attempt} {notes : Notes}
    (loaded : Attempt.load notes = .ok attempt) (answer : Option Response) (length : Int) :
    (((renewed attempt answer).advance length).save
        (renewedNotes attempt answer notes)).get? Attempt.transactionNote =
      transactionAfter answer notes := by
  cases answer with
  | none => exact Attempt.get?_save_of_load loaded length
  | some r =>
    have hnext : ((renewed attempt (some r)).advance length).transactionId =
        Text.given? (some r.transactionId) := rfl
    rw [Attempt.get?_save_transactionNote, hnext, Text.given?_given?,
      get?_renewedNotes_transactionNote]
    exact Option.or_self

theorem counter_renewed (attempt : Attempt) (answer : Option Response) :
    (renewed attempt answer).counter = attempt.counter := by
  cases answer <;> rfl

/-- A rejected submission is counted, up to the last index of the schedule. -/
theorem counter_rejected {attempt : Attempt} {c : Nat} (h : attempt.counter = c)
    (answer : Option Response) {length : Nat} (hpos : 0 < length) :
    ((renewed attempt answer).advance length).counter = (min (c + 1) (length - 1) : Nat) :=
  Attempt.counter_advance ((counter_renewed attempt answer).trans h) hpos

/-! ## Ends -/

/-- How a submission that does not fail ends: what brings it new challenges, its result, and the
notes that it leaves where it found others. -/
inductive Ends (settings : Settings) (fields : Fields) (found : Notes) :
    Option Response → Result → Notes → Prop
  | cancelled : Ends settings fields found none .cancelled found
  | letIn {attempt : Attempt} {answer : Option Response}
      (loaded : Attempt.load found = .ok attempt) :
      Ends settings fields found answer .success (renewedNotes attempt answer found)
  | rejected {attempt : Attempt} {answer : Option Response}
      (loaded : Attempt.load found = .ok attempt) :
      Ends settings fields found answer
        (retried settings (.ofFields fields) (renewed attempt answer) answer)
        (((renewed attempt answer).advance settings.schedule.length).save
          (renewedNotes attempt answer found))

section

variable {settings : Settings} {user : User} {fields : Fields} {s : State}

theorem resume_ends {r : Result} (h : ((resume settings user fields).runFrom s).1 = .ok r) :
    Ends settings fields s.notes
      (renewing fields (s.conversation.dialogue
        ((resume settings user fields).runFrom s).2.conversation)) r
      ((resume settings user fields).runFrom s).2.notes := by
  obtain ⟨result, notes, sent, hcomes, hsubmitted⟩ := resume_submitted settings user fields s
  rw [hcomes.notes, hcomes.traffic.dialogue_eq]
  have hresult : result = .ok r := hcomes.result.symm.trans h
  cases hsubmitted with
  | cancelled hcancel =>
    cases hresult
    have hnone : renewing fields (Conversation.paired [] s.conversation.pending) = none := by
      simp [renewing, Conversation.paired, Dialogue.responseTo]
    rw [hnone]
    exact .cancelled
  | unloaded uncancelled failed => cases hresult
  | push uncancelled loaded push =>
    rw [renewing, if_pos push]
    rcases hverdict : pushVerdict settings _ s with f | accepted <;> rw [hverdict] at hresult
    · cases hresult
    · cases accepted <;> cases hresult
      · exact .rejected loaded
      · exact .letIn loaded
  | @otp attempt uncancelled loaded otp =>
    rw [renewing, if_neg otp, responseTo_otpDue]
    cases hanswer : otpAnswer settings s with
    | error f =>
      rw [hanswer] at hresult
      cases hresult
    | ok answer =>
      rw [hanswer] at hresult
      have hend : otpResult settings (.ofFields fields) attempt answer = r := by
        simpa [Except.map] using hresult
      subst hend
      simp only [Except.toOption, ← renewal_eq_filter, otpResult, otpNotes,
        ← renewedNotes_renewal, ← renewed_renewal]
      cases answer.success with
      | true => exact .letIn loaded
      | false => exact .rejected loaded

/-- A submission that fails writes nothing and brings nothing. Beside notes that cannot be loaded,
it is for want of a client or of a reply that can be used. -/
structure Fails (settings : Settings) (user : User) (fields : Fields) (s : State) (f : Fault) :
    Prop where
  notes : ((resume settings user fields).runFrom s).2.notes = s.notes
  answer : renewing fields (s.conversation.dialogue
    ((resume settings user fields).runFrom s).2.conversation) = none
  cause : Attempt.load s.notes = .error f ∨ f.category = .configuration ∨
    f.category = .connection ∨ ∃ kind, f.category = .foreign kind

theorem resume_fails {f : Fault} (h : ((resume settings user fields).runFrom s).1 = .error f) :
    Fails settings user fields s f := by
  obtain ⟨result, notes, sent, hcomes, hsubmitted⟩ := resume_submitted settings user fields s
  have hdialogue := hcomes.traffic.dialogue_eq
  have hnotes := hcomes.notes
  have hresult : result = .error f := hcomes.result.symm.trans h
  cases hsubmitted with
  | cancelled hcancel => cases hresult
  | unloaded uncancelled failed =>
    cases hresult
    refine ⟨hnotes, ?_, .inl failed⟩
    rw [hdialogue]
    simp [renewing, Conversation.paired, Dialogue.responseTo]
  | push uncancelled loaded push =>
    rcases hverdict : pushVerdict settings _ s with g | accepted <;> rw [hverdict] at hresult hnotes
    · cases hresult
      exact ⟨hnotes, by rw [renewing, if_pos push], .inr (category_of_pushVerdict hverdict)⟩
    · cases accepted <;> cases hresult
  | otp uncancelled loaded otp =>
    cases hanswer : otpAnswer settings s with
    | error g =>
      rw [hanswer] at hresult hnotes
      cases hresult
      refine ⟨hnotes, ?_, .inr (category_of_otpAnswer hanswer)⟩
      rw [hdialogue, renewing, if_neg otp, responseTo_otpDue, hanswer]
      rfl
    | ok answer =>
      rw [hanswer] at hresult
      cases hresult

/-- A fault for want of a client, of the account or of a reply that can be used. -/
def FromServer (f : Fault) : Prop :=
  f.category = .configuration ∨ f.category = .login ∨ f.category = .connection ∨
    ∃ kind, f.category = .foreign kind

theorem triggering_fails {f : Fault} (h : ((triggering settings user).runFrom s).1 = .error f) :
    FromServer f := by
  unfold triggering at h
  cases htrigger : settings.triggerChallenge <;> simp only [htrigger] at h
  · cases h
  · cases hc : s.clientFor settings with
    | error g =>
      have hfault : g = f := by
        simpa [triggered, Work.runFrom_bind, Step.runFrom_client, hc] using h
      exact .inl (hfault ▸ State.category_of_clientFor hc)
    | ok c =>
      obtain ⟨es, hrun⟩ := runFrom_triggered user hc
      simp only [if_true, hrun] at h
      cases hresponse : ((c.trigger user.name).runFrom s.conversation).1 with
      | ok r => simp [hresponse, Except.map] at h
      | error g =>
        have hfault : g = f := by simpa [hresponse, Except.map] using h
        have hperform : (Client.Operation.trigger user.name).perform c =
            .response <$> c.trigger user.name := rfl
        exact hfault ▸ Client.category_of_perform hperform hresponse

theorem enrolling_fails {f : Fault} (h : ((enrolling settings user).runFrom s).1 = .error f) :
    FromServer f := by
  unfold enrolling at h
  cases henroll : settings.enrollToken <;> simp only [henroll] at h
  · cases h
  · cases hc : s.clientFor settings with
    | error g =>
      have hfault : g = f := by
        simpa [enrolled, Work.runFrom_bind, Step.runFrom_client, hc] using h
      exact .inl (hfault ▸ State.category_of_clientFor hc)
    | ok c =>
      obtain ⟨es, hrun⟩ := runFrom_enrolled user hc
      simp only [if_true, hrun] at h
      rcases htokens : (c.tokens user.name).runFrom s.conversation with ⟨g | tokens, w⟩ <;>
        rw [htokens] at h
      · cases h
        have hperform : (Client.Operation.tokens user.name).perform c =
            .tokens <$> c.tokens user.name := rfl
        exact Client.category_of_perform hperform (v := s.conversation) (by rw [htokens])
      · cases htokens' : tokens.isEmpty <;> simp only [htokens'] at h
        · cases h
        · cases hrollout : ((c.rollout user.name settings.enrollingTokenType).runFrom w).1 with
          | ok r => simp [hrollout, Except.map] at h
          | error g =>
            have hfault : g = f := by simpa [hrollout, Except.map] using h
            have hperform : (Client.Operation.rollout user.name settings.enrollingTokenType).perform
                c = .rollout <$> c.rollout user.name settings.enrollingTokenType := rfl
            exact hfault ▸ Client.category_of_perform hperform hrollout

/-- A beginning fails only for want of a client, of the account or of a reply. -/
theorem begin_fails {f : Fault} (h : ((begin settings user).runFrom s).1 = .error f) :
    FromServer f := by
  cases hexcluded : isExcluded user.groups settings.excludedGroups with
  | true =>
    rw [runFrom_begin_excluded hexcluded] at h
    cases h
  | false =>
    rw [begin_eq hexcluded, Work.runFrom_bind] at h
    rcases hfirst : (triggering settings user).runFrom s with ⟨g | ⟨transactionId, prompts⟩, t⟩ <;>
      rw [hfirst] at h
    · cases h
      exact triggering_fails (s := s) (by rw [hfirst])
    · simp only [Work.runFrom_bind] at h
      rcases hsecond : (enrolling settings user).runFrom t with ⟨g | enrollmentQr, u⟩ <;>
        rw [hsecond] at h
      · cases h
        exact enrolling_fails (s := t) (by rw [hsecond])
      · cases h

/-- A beginning that fails writes nothing. -/
theorem notes_of_begin_failed {f : Fault} (h : ((begin settings user).runFrom s).1 = .error f) :
    ((begin settings user).runFrom s).2.notes = s.notes := by
  obtain ⟨xs, ys, hbegins⟩ := begin_begins settings user s
  have hopened := hbegins.opened
  rw [h] at hopened
  cases hopened with
  | failed other unchanged => exact unchanged

end

end SecondFactor.Flow
