import SecondFactor.Proofs.Flow.Openings
import SecondFactor.Proofs.Flow.Submissions

/-!
# Who is let in, and what is sent

A beginning lets in exactly the users of excluded groups, and it asks nobody about them. A
submission lets in exactly when the replies say so literally: both flags of the poll and the value
of the validation behind it, or else the value of the validation of the passcode. What a submission
sends is a function of the notes, the fields and, for the second request, of the first reply.
-/
namespace SecondFactor.Flow

/-! ## Beginnings -/

/-- For anybody who is not excluded a beginning ends with a page or with a fault. -/
theorem begin_other {settings : Settings} {user : User}
    (hother : isExcluded user.groups settings.excludedGroups = false) (s : State) :
    (∃ page, ((begin settings user).runFrom s).1 = .ok (.challenge page)) ∨
      ∃ f, ((begin settings user).runFrom s).1 = .error f := by
  obtain ⟨xs, ys, hbegins⟩ := begin_begins settings user s
  have hopened := hbegins.opened
  generalize ((begin settings user).runFrom s).1 = result at hopened ⊢
  cases hopened with
  | excluded h notes =>
    rw [hother] at h
    cases h
  | failed h notes => exact .inr ⟨_, rfl⟩
  | shown h notes => exact .inl ⟨_, rfl⟩

theorem begin_success_iff (settings : Settings) (user : User) (s : State) :
    ((begin settings user).runFrom s).1 = .ok .success ↔
      ∃ g ∈ user.groups, g ∈ settings.excludedGroups := by
  rw [← isExcluded_iff]
  cases h : isExcluded user.groups settings.excludedGroups with
  | true =>
    rw [runFrom_begin_excluded h]
    simp
  | false =>
    rcases begin_other h s with ⟨page, hpage⟩ | ⟨f, hf⟩
    · simp [hpage]
    · simp [hf]

/-! ## Submissions -/

/-- When a submission is let in. -/
inductive Accepted (settings : Settings) (fields : Fields) (s : State) : Prop
  /-- The device has confirmed the transaction in the notes, and the server accepts it. -/
  | device {attempt : Attempt} {c : Client} {transaction : String} {polled checked : Reply}
      {rest : List Reply}
      (uncancelled : fields.lookup Page.cancel = none)
      (loaded : Attempt.load s.notes = .ok attempt)
      (client : s.clientFor settings = .ok c)
      (push : fields.first Page.tokenType = some "push")
      (stored : s.notes.get? Attempt.transactionNote = some transaction)
      (nonempty : transaction ≠ "")
      (replies : s.conversation.pending = polled :: checked :: rest)
      (handled : polled.affirms "status" = true)
      (confirmed : polled.affirms "value" = true)
      (validated : checked.affirms "value" = true)
  /-- The server accepts the passcode. -/
  | passcode {attempt : Attempt} {c : Client} {checked : Reply} {rest : List Reply}
      (uncancelled : fields.lookup Page.cancel = none)
      (loaded : Attempt.load s.notes = .ok attempt)
      (client : s.clientFor settings = .ok c)
      (otp : fields.first Page.tokenType ≠ some "push")
      (replies : s.conversation.pending = checked :: rest)
      (validated : checked.affirms "value" = true)

/-- The requests that a submission leads to. -/
def due (settings : Settings) (user : User) (fields : Fields) (s : State) : List Request :=
  match fields.lookup Page.cancel, Attempt.load s.notes, s.clientFor settings with
  | none, .ok _, .ok c =>
    if fields.first Page.tokenType = some "push" then
      match Text.given? (s.notes.get? Attempt.transactionNote) with
      | none => []
      | some transaction => pushRequests c user transaction s.conversation.pending
    else [c.passcodeRequest user.name ((fields.first Page.otp).getD "")]
  | _, _, _ => []

theorem answered_affirms_iff (endpoint : Endpoint) {r : Option Reply} {key : String} :
    (Client.answered endpoint r).map (·.affirms key) = .ok true ↔
      r.any (·.affirms key) = true := by
  cases r with
  | none => simp [Client.answered, Except.map]
  | some r =>
    cases hobject : r.object? with
    | none =>
      have hfailed : ∀ body, Client.answered endpoint (some r) ≠ .ok body := by
        intro body h
        rw [Client.answered_eq_ok_iff] at h
        simp [hobject] at h
      cases h : Client.answered endpoint (some r) with
      | error f => simp [Except.map, Reply.affirms, hobject]
      | ok body => exact absurd h (hfailed body)
    | some body =>
      have h : Client.answered endpoint (some r) = .ok body :=
        Client.answered_eq_ok_iff.2 (by simpa using hobject)
      simp [h, Except.map, Reply.affirms, hobject]

/-- Waiting for the device succeeds when the poll and the validation after it say so. -/
theorem pushAnswer_eq_true_iff {replies : List Reply} :
    pushAnswer replies = .ok true ↔
      replies.head?.any confirms = true ∧ replies.tail.head?.any (·.affirms "value") = true := by
  unfold pushAnswer
  cases h : Client.answered .pollTransaction replies.head? with
  | error f => simp [any_confirms_of_failed h]
  | ok polled =>
    rw [any_confirms_of_answered h, ← answered_affirms_iff .validateCheck]
    cases hresolved : polled.affirms "status" && polled.affirms "value" with
    | false => simp only [hresolved, Bool.false_eq_true, if_false, Except.ok.injEq, false_and]
    | true => simp only [hresolved, if_true, true_and]

theorem pushVerdict_eq_true_iff {settings : Settings} {attempt : Attempt} {s : State} :
    pushVerdict settings attempt s = .ok true ↔
      (∃ transaction, Text.given? attempt.transactionId = some transaction) ∧
      (∃ c, s.clientFor settings = .ok c) ∧ pushAnswer s.conversation.pending = .ok true := by
  unfold pushVerdict
  cases Text.given? attempt.transactionId with
  | none => simp
  | some transaction => cases s.clientFor settings <;> simp

theorem pushResult_eq_success_iff {settings : Settings} {form : Submission} {attempt : Attempt}
    {verdict : Except Fault Bool} :
    pushResult settings form attempt verdict = .ok .success ↔ verdict = .ok true := by
  rcases verdict with f | accepted
  · simp [pushResult]
  · cases accepted <;> simp [pushResult, retried]

theorem otpResult_eq_success_iff {settings : Settings} {form : Submission} {attempt : Attempt}
    {r : Response} : otpResult settings form attempt r = .success ↔ r.success = true := by
  unfold otpResult retried
  cases r.success <;> simp

theorem otpAnswer_success_iff {settings : Settings} {form : Submission} {attempt : Attempt}
    {s : State} :
    (otpAnswer settings s).map (otpResult settings form attempt) = .ok .success ↔
      (∃ c, s.clientFor settings = .ok c) ∧
        s.conversation.pending.head?.any (·.affirms "value") = true := by
  rw [← answered_affirms_iff .validateCheck]
  unfold otpAnswer
  cases s.clientFor settings with
  | error f => simp [bind, Except.bind, Except.map]
  | ok c =>
    cases Client.answered .validateCheck s.conversation.pending.head? with
    | error f => simp [bind, Except.bind, Except.map]
    | ok body => simp [bind, Except.bind, Except.map, otpResult_eq_success_iff]

/-- Waiting for the device lets in where both replies say so. -/
theorem accepted_of_push {settings : Settings} {fields : Fields} {s : State} {attempt : Attempt}
    (uncancelled : fields.lookup Page.cancel = none) (loaded : Attempt.load s.notes = .ok attempt)
    (push : fields.first Page.tokenType = some "push") :
    pushVerdict settings attempt s = .ok true ↔ Accepted settings fields s := by
  rw [pushVerdict_eq_true_iff, Attempt.transactionId_of_load loaded, Text.given?_given?,
    pushAnswer_eq_true_iff]
  constructor
  · rintro ⟨⟨transaction, hgiven⟩, ⟨c, hc⟩, hpolled, hchecked⟩
    obtain ⟨hstored, hne⟩ := Text.given?_eq_some_iff.1 hgiven
    rcases hpending : s.conversation.pending with _ | ⟨polled, _ | ⟨checked, rest⟩⟩
    · simp [hpending] at hpolled
    · simp [hpending] at hchecked
    · rw [hpending] at hpolled hchecked
      obtain ⟨hstatus, hvalue⟩ := Bool.and_eq_true_iff.1 (hpolled : confirms polled = true)
      exact .device uncancelled loaded hc push hstored hne hpending hstatus hvalue hchecked
  · rintro (⟨-, -, client, -, stored, nonempty, replies, handled, confirmed, validated⟩ |
      ⟨-, -, -, otp, -, -⟩)
    · refine ⟨⟨_, Text.given?_eq_some_iff.2 ⟨stored, nonempty⟩⟩, ⟨_, client⟩, ?_, ?_⟩
      · simp [replies, confirms, handled, confirmed]
      · simp [replies, validated]
    · exact absurd push otp

/-- A passcode lets in where the reply says so. -/
theorem accepted_of_otp {settings : Settings} {fields : Fields} {s : State} {attempt : Attempt}
    (uncancelled : fields.lookup Page.cancel = none) (loaded : Attempt.load s.notes = .ok attempt)
    (otp : fields.first Page.tokenType ≠ some "push") :
    ((∃ c, s.clientFor settings = .ok c) ∧
        s.conversation.pending.head?.any (·.affirms "value") = true) ↔
      Accepted settings fields s := by
  constructor
  · rintro ⟨⟨c, hc⟩, hchecked⟩
    rcases hpending : s.conversation.pending with _ | ⟨checked, rest⟩
    · simp [hpending] at hchecked
    · rw [hpending] at hchecked
      exact .passcode uncancelled loaded hc otp hpending hchecked
  · rintro (⟨-, -, -, push, -, -, -, -, -, -⟩ | ⟨-, -, client, -, replies, validated⟩)
    · exact absurd push otp
    · exact ⟨⟨_, client⟩, by simp [replies, validated]⟩

theorem Accepted.uncancelled {settings : Settings} {fields : Fields} {s : State}
    (h : Accepted settings fields s) : fields.lookup Page.cancel = none := by
  cases h <;> assumption

theorem Accepted.loaded {settings : Settings} {fields : Fields} {s : State}
    (h : Accepted settings fields s) : ∃ attempt, Attempt.load s.notes = .ok attempt := by
  cases h <;> exact ⟨_, by assumption⟩

theorem resume_success_iff (settings : Settings) (user : User) (fields : Fields) (s : State) :
    ((resume settings user fields).runFrom s).1 = .ok .success ↔ Accepted settings fields s := by
  obtain ⟨result, notes, sent, hcomes, hsubmitted⟩ := resume_submitted settings user fields s
  rw [hcomes.result]
  cases hsubmitted with
  | cancelled h =>
    refine ⟨fun hresult => (by cases hresult), fun haccepted => ?_⟩
    rw [haccepted.uncancelled] at h
    cases h
  | unloaded uncancelled failed =>
    refine ⟨fun hresult => (by cases hresult), fun haccepted => ?_⟩
    obtain ⟨attempt, loaded⟩ := haccepted.loaded
    rw [failed] at loaded
    cases loaded
  | push uncancelled loaded push =>
    rw [pushResult_eq_success_iff]
    exact accepted_of_push uncancelled loaded push
  | otp uncancelled loaded otp =>
    rw [otpAnswer_success_iff]
    exact accepted_of_otp uncancelled loaded otp

/-- What a submission sends is what is due. -/
theorem Submitted.sent_eq {settings : Settings} {user : User} {fields : Fields} {s : State}
    {result : Except Fault Result} {notes : Notes} {sent : List Request}
    (h : Submitted settings user fields s result notes sent) :
    sent = due settings user fields s := by
  unfold due
  cases h with
  | cancelled h => simp [h]
  | unloaded uncancelled failed => simp [uncancelled, failed]
  | push uncancelled loaded push =>
    rw [pushDue, Attempt.transactionId_of_load loaded, Text.given?_given?]
    cases hgiven : Text.given? (s.notes.get? Attempt.transactionNote) <;>
      cases hc : s.clientFor settings <;> simp [uncancelled, loaded, push]
  | otp uncancelled loaded otp =>
    unfold otpDue
    cases hc : s.clientFor settings <;> simp [uncancelled, loaded, otp, Submission.ofFields]

/-- A submission sends what is due, and each request takes the next reply. -/
theorem resume_traffic (settings : Settings) (user : User) (fields : Fields) (s : State) :
    s.conversation.Extends ((resume settings user fields).runFrom s).2.conversation
      (due settings user fields s) := by
  obtain ⟨result, notes, sent, hcomes, hsubmitted⟩ := resume_submitted settings user fields s
  rw [← hsubmitted.sent_eq]
  exact hcomes.traffic

/-- The flow lets in exactly the users of excluded groups at once, and afterwards exactly the
submissions that the server accepts literally. An excluded user costs an event and nothing else; a
submission sends exactly what is due. -/
theorem flow_acceptance (settings : Settings) (user : User) (s : State) :
    (((begin settings user).runFrom s).1 = .ok .success ↔
      ∃ g ∈ user.groups, g ∈ settings.excludedGroups) ∧
    ((∃ g ∈ user.groups, g ∈ settings.excludedGroups) →
      ((begin settings user).runFrom s).2 =
        { s with conversation := s.conversation.log [.flowExcluded user.name] }) ∧
    ((¬ ∃ g ∈ user.groups, g ∈ settings.excludedGroups) →
      (∃ page, ((begin settings user).runFrom s).1 = .ok (.challenge page)) ∨
        ∃ f, ((begin settings user).runFrom s).1 = .error f) ∧
    ∀ fields : Fields,
      (((resume settings user fields).runFrom s).1 = .ok .success ↔
        Accepted settings fields s) ∧
      s.conversation.Extends ((resume settings user fields).runFrom s).2.conversation
        (due settings user fields s) := by
  refine ⟨begin_success_iff settings user s, ?_, ?_, fun fields =>
    ⟨resume_success_iff settings user fields s, resume_traffic settings user fields s⟩⟩
  · intro h
    rw [runFrom_begin_excluded (isExcluded_iff.2 h)]
  · intro h
    rw [← isExcluded_iff, Bool.not_eq_true] at h
    exact begin_other h s

end SecondFactor.Flow
