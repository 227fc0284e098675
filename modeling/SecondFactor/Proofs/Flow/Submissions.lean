import SecondFactor.Flow
import SecondFactor.Proofs.Flow.Steps
import SecondFactor.Proofs.Session

/-!
# What a submission comes to

A submission cancels the login, finds notes that it cannot use, waits for the device, or brings a
passcode. Each of the four has one specification, which tells the result, the notes and the requests
by the replies to come. Where a submission fails, the notes stay as they are.
-/
namespace SecondFactor.Flow

/-! ## Waiting for the device -/

/-- Whether a reply to a poll says that the transaction was confirmed. -/
def confirms (r : Reply) : Bool := r.affirms "status" && r.affirms "value"

/-- The requests that a submission waiting for the device leads to: a poll and, if its reply
confirms, the request that finishes the transaction. -/
def pushRequests (c : Client) (user : User) (transaction : String) (replies : List Reply) :
    List Request :=
  c.pollRequest transaction ::
    if replies.head?.any confirms then [c.finishRequest user.name transaction] else []

/-- Whether the replies to those requests let the user in. -/
def pushAnswer (replies : List Reply) : Except Fault Bool :=
  match Client.answered .pollTransaction replies.head? with
  | .error f => .error f
  | .ok polled =>
    if polled.affirms "status" && polled.affirms "value" then
      (Client.answered .validateCheck replies.tail.head?).map (·.affirms "value")
    else .ok false

theorem any_confirms_of_answered {r : Option Reply} {body : Json} {endpoint : Endpoint}
    (h : Client.answered endpoint r = .ok body) :
    r.any confirms = (body.affirms "status" && body.affirms "value") := by
  cases r with
  | none => cases h
  | some r => simp [confirms, Reply.affirms, Reply.read_eq_ok_iff.1 h]

theorem any_confirms_of_failed {r : Option Reply} {f : Fault} {endpoint : Endpoint}
    (h : Client.answered endpoint r = .error f) : r.any confirms = false := by
  cases r with
  | none => rfl
  | some r =>
    cases hobject : r.object? with
    | none => simp [confirms, Reply.affirms, hobject]
    | some body =>
      have hread : r.read endpoint = .ok body := Reply.read_eq_ok_iff.2 hobject
      simp [Client.answered, hread] at h

/-- Once a poll confirms, the validation decides. -/
theorem pushAnswer_of_confirms {polled : Reply} (h : confirms polled = true)
    (rest : List Reply) :
    pushAnswer (polled :: rest) =
      (Client.answered .validateCheck rest.head?).map (·.affirms "value") := by
  unfold pushAnswer
  cases hanswer : Client.answered .pollTransaction (some polled) with
  | error f =>
    have hfailed : confirms polled = false := any_confirms_of_failed hanswer
    rw [h] at hfailed
    cases hfailed
  | ok body =>
    have hresolved : confirms polled = (body.affirms "status" && body.affirms "value") :=
      any_confirms_of_answered hanswer
    rw [h] at hresolved
    simp [hanswer, ← hresolved]

/-- The requests of a submission that waits for the device, where one needs no client without a
transaction. -/
def pushDue (settings : Settings) (user : User) (attempt : Attempt) (s : State) : List Request :=
  match Text.given? attempt.transactionId, s.clientFor settings with
  | some transaction, .ok c => pushRequests c user transaction s.conversation.pending
  | _, _ => []

/-- Whether such a submission is let in. -/
def pushVerdict (settings : Settings) (attempt : Attempt) (s : State) : Except Fault Bool :=
  match Text.given? attempt.transactionId, s.clientFor settings with
  | none, _ => .ok false
  | some _, .error f => .error f
  | some _, .ok _ => pushAnswer s.conversation.pending

/-- The end of waiting for the device, once the poll was answered. -/
theorem finish_comesTo (c : Client) (user : User) {transaction : String} (h : transaction ≠ "")
    (resolved : Bool) (s : State) :
    ComesTo (if resolved then do
          let r ← Step.exchange (c.validate user.name "" (some transaction))
          return r.success
        else return false) s
      (if resolved then
        (Client.answered .validateCheck s.conversation.pending.head?).map (·.affirms "value")
      else .ok false) s.notes
      (if resolved then [c.finishRequest user.name transaction] else []) := by
  cases resolved with
  | false => exact .pure false s
  | true =>
    have hvalidate := ComesTo.exchange (c.runFrom_validate_transaction user.name h s.conversation)
    have hsuccess := hvalidate.map Response.success
    cases hchecked : Client.answered .validateCheck s.conversation.pending.head? with
    | error f => simpa [hchecked, Except.map] using hsuccess
    | ok body => simpa [hchecked, Except.map] using hsuccess

/-- Waiting for the device with a transaction and a client. -/
theorem pushAccepted_given (settings : Settings) (user : User) {attempt : Attempt}
    {transaction : String} (h : Text.given? attempt.transactionId = some transaction) {s : State}
    {c : Client} (hc : s.clientFor settings = .ok c) :
    ComesTo (pushAccepted settings user attempt) s (pushAnswer s.conversation.pending) s.notes
      (pushRequests c user transaction s.conversation.pending) := by
  have hne : transaction ≠ "" := (Text.given?_eq_some_iff.1 h).2
  have hclient := ComesTo.client settings s
  rw [hc] at hclient
  unfold pushAccepted pushAnswer pushRequests
  rw [h]
  refine hclient.bind_silent fun s₁ hnotes hpending => ?_
  have hpoll := ComesTo.exchange (c.runFrom_poll hne s₁.conversation)
  rw [hpending, hnotes] at hpoll
  cases hpolled : Client.answered .pollTransaction s.conversation.pending.head? with
  | error f =>
    rw [any_confirms_of_failed hpolled]
    rw [hpolled] at hpoll
    exact hpoll.bind_error
  | ok body =>
    rw [any_confirms_of_answered hpolled]
    rw [hpolled] at hpoll
    refine hpoll.bind fun s₂ hkept hleft => ?_
    refine (ComesTo.log _ s₂).bind_silent fun s₃ hkept' hleft' => ?_
    have hfinish := finish_comesTo c user hne (body.affirms "status" && body.affirms "value") s₃
    rw [hkept', hleft', hkept, hleft, hpending, List.length_singleton, List.drop_one] at hfinish
    exact hfinish

theorem pushAccepted_comesTo (settings : Settings) (user : User) (attempt : Attempt) (s : State) :
    ComesTo (pushAccepted settings user attempt) s (pushVerdict settings attempt s) s.notes
      (pushDue settings user attempt s) := by
  unfold pushVerdict pushDue
  cases hgiven : Text.given? attempt.transactionId with
  | none =>
    unfold pushAccepted
    rw [hgiven]
    exact (ComesTo.log _ s).bind_silent fun t ht _ => ht ▸ .pure false t
  | some transaction =>
    have hclient := ComesTo.client settings s
    cases hc : s.clientFor settings with
    | error f =>
      unfold pushAccepted
      rw [hgiven]
      rw [hc] at hclient
      exact hclient.bind_error
    | ok c => exact pushAccepted_given settings user hgiven hc

/-! ## The end of a submission -/

/-- The result of a submission that did not get through. -/
def retried (settings : Settings) (form : Submission) (attempt : Attempt)
    (answer : Option Response) : Result :=
  .failureChallenge
    (nextPage settings form answer (attempt.advance settings.schedule.length).counter)
    (reasonFor form answer)

theorem retry_comesTo (settings : Settings) (user : User) (form : Submission) (attempt : Attempt)
    (answer : Option Response) (s : State) :
    ComesTo (retry settings user form attempt answer) s
      (.ok (retried settings form attempt answer))
      ((attempt.advance settings.schedule.length).save s.notes) [] := by
  refine ⟨rfl, rfl, ?_⟩
  exact (Conversation.Extends.refl _).log _

/-- The notes once the transaction of new challenges replaced the old one. -/
def adoptedNotes (attempt : Attempt) (r : Response) (notes : Notes) : Notes :=
  let next := attempt.withTransaction (some r.transactionId)
  if next.transactionId.isNone then (next.save notes).remove Attempt.transactionNote
  else next.save notes

theorem adopt_comesTo (attempt : Attempt) (r : Response) (s : State) :
    ComesTo (adopt attempt r) s (.ok (attempt.withTransaction (some r.transactionId)))
      (adoptedNotes attempt r s.notes) [] := by
  have hrun : (adopt attempt r).runFrom s =
      (.ok (attempt.withTransaction (some r.transactionId)),
        { s with notes := adoptedNotes attempt r s.notes }) := by
    unfold adopt adoptedNotes
    cases h : (attempt.withTransaction (some r.transactionId)).transactionId.isNone <;>
      simp [Work.runFrom_bind, Work.runFrom_map, Except.map, h]
  exact ⟨by rw [hrun], by rw [hrun], by rw [hrun]; exact .refl _⟩

/-! ## Submissions -/

/-- The result of a submission that waited for the device. -/
def pushResult (settings : Settings) (form : Submission) (attempt : Attempt) :
    Except Fault Bool → Except Fault Result
  | .error f => .error f
  | .ok true => .ok .success
  | .ok false => .ok (retried settings form attempt none)

/-- The notes after a submission that waited for the device. -/
def pushNotes (settings : Settings) (attempt : Attempt) (notes : Notes) : Except Fault Bool → Notes
  | .ok false => (attempt.advance settings.schedule.length).save notes
  | _ => notes

theorem resumePush_comesTo (settings : Settings) (user : User) (form : Submission)
    (attempt : Attempt) (s : State) :
    ComesTo (resumePush settings user form attempt) s
      (pushResult settings form attempt (pushVerdict settings attempt s))
      (pushNotes settings attempt s.notes (pushVerdict settings attempt s))
      (pushDue settings user attempt s) := by
  have haccepted := pushAccepted_comesTo settings user attempt s
  unfold resumePush
  rcases hverdict : pushVerdict settings attempt s with f | accepted <;>
    rw [hverdict] at haccepted
  · exact haccepted.bind_error
  · rw [← List.append_nil (pushDue settings user attempt s)]
    refine haccepted.bind fun t hnotes _ => ?_
    cases accepted with
    | true =>
      exact (ComesTo.log _ t).bind_silent fun u hu _ => (hu.trans hnotes) ▸ .pure _ u
    | false => exact hnotes ▸ retry_comesTo settings user form attempt none t

/-! ## Passcodes -/

/-- The response to the passcode of a submission. -/
def otpAnswer (settings : Settings) (s : State) : Except Fault Response := do
  let _ ← s.clientFor settings
  (Client.answered .validateCheck s.conversation.pending.head?).map Response.ofJson

/-- The requests of a submission with a passcode. -/
def otpDue (settings : Settings) (user : User) (form : Submission) (s : State) : List Request :=
  match s.clientFor settings with
  | .error _ => []
  | .ok c => [c.passcodeRequest user.name form.otp]

/-- The response, as far as it brings new challenges. -/
def renewal (r : Response) : Option Response := if r.hasChallenges then some r else none

/-- The attempt that goes on after a response: new challenges bring their own transaction. -/
def continued (attempt : Attempt) (r : Response) : Attempt :=
  if r.hasChallenges then attempt.withTransaction (some r.transactionId) else attempt

/-- The result of a submission with a passcode. -/
def otpResult (settings : Settings) (form : Submission) (attempt : Attempt) (r : Response) :
    Result :=
  if r.success then .success
  else retried settings form (continued attempt r) (renewal r)

/-- The notes after a submission with a passcode. -/
def otpNotes (settings : Settings) (attempt : Attempt) (notes : Notes) :
    Except Fault Response → Notes
  | .error _ => notes
  | .ok r =>
    let kept := if r.hasChallenges then adoptedNotes attempt r notes else notes
    if r.success then kept
    else ((continued attempt r).advance settings.schedule.length).save kept

/-- The end of a submission with a passcode, once the attempt that goes on is known. -/
theorem conclude_comesTo (settings : Settings) (user : User) (form : Submission)
    (attempt : Attempt) (r : Response) (answer : Option Response) (s : State) :
    ComesTo (if r.success then do
          Step.log (.flowSucceeded user.name .otp)
          return .success
        else retry settings user form attempt answer) s
      (.ok (if r.success then .success else retried settings form attempt answer))
      (if r.success then s.notes
        else (attempt.advance settings.schedule.length).save s.notes) [] := by
  cases r.success with
  | true => exact (ComesTo.log _ s).bind_silent fun t ht _ => ht ▸ .pure _ t
  | false => exact retry_comesTo settings user form attempt answer s

theorem resumeOtp_comesTo (settings : Settings) (user : User) (form : Submission)
    (attempt : Attempt) (s : State) :
    ComesTo (resumeOtp settings user form attempt) s
      ((otpAnswer settings s).map (otpResult settings form attempt))
      (otpNotes settings attempt s.notes (otpAnswer settings s))
      (otpDue settings user form s) := by
  have hclient := ComesTo.client settings s
  unfold resumeOtp otpAnswer otpDue
  rcases hc : s.clientFor settings with f | c <;> rw [hc] at hclient
  · exact hclient.bind_error
  · refine hclient.bind_silent fun s₁ hnotes hpending => ?_
    have hvalidate := ComesTo.exchange
      (c.runFrom_validate_passcode user.name form.otp s₁.conversation)
    rw [hpending, hnotes] at hvalidate
    simp only [bind, Except.bind]
    rcases hr : (Client.answered .validateCheck s.conversation.pending.head?).map Response.ofJson
      with f | r <;> rw [hr] at hvalidate
    · exact hvalidate.bind_error
    · refine hvalidate.bind fun s₂ hkept _ => ?_
      refine (ComesTo.log _ s₂).bind_silent fun s₃ hkept' _ => ?_
      have hadopt := adopt_comesTo attempt r s₃
      have hstay := ComesTo.pure attempt s₃
      rw [hkept', hkept] at hadopt hstay
      simp only [Except.map, otpResult, otpNotes, continued, renewal]
      cases r.hasChallenges with
      | true =>
        refine hadopt.bind_silent fun t ht _ => ?_
        exact ht ▸ conclude_comesTo settings user form
          (attempt.withTransaction (some r.transactionId)) r (some r) t
      | false =>
        refine hstay.bind_silent fun t ht _ => ?_
        exact ht ▸ conclude_comesTo settings user form attempt r none t

/-! ## The four kinds of submissions -/

section

variable (settings : Settings) (user : User) {fields : Fields} {s : State} {attempt : Attempt}

theorem resume_cancelled (h : (fields.lookup Page.cancel).isSome = true) :
    ComesTo (resume settings user fields) s (.ok .cancelled) s.notes [] := by
  have hcancelled : (Submission.ofFields fields).cancelled = true := h
  unfold resume
  rw [if_pos hcancelled]
  exact (ComesTo.log _ s).bind_silent fun t ht _ => ht ▸ .pure _ t

theorem resume_unloaded (h : fields.lookup Page.cancel = none) {f : Fault}
    (hload : Attempt.load s.notes = .error f) :
    ComesTo (resume settings user fields) s (.error f) s.notes [] := by
  have hcancelled : ¬ (Submission.ofFields fields).cancelled = true := by
    simp [Submission.ofFields, h]
  have hattempt := ComesTo.attempt s
  rw [hload] at hattempt
  unfold resume
  rw [if_neg hcancelled]
  exact hattempt.bind_error

theorem runFrom_resume (h : fields.lookup Page.cancel = none)
    (hload : Attempt.load s.notes = .ok attempt) :
    (resume settings user fields).runFrom s =
      (match TokenType.ofText (fields.first Page.tokenType) with
        | .push => resumePush settings user (.ofFields fields) attempt
        | .otp => resumeOtp settings user (.ofFields fields) attempt).runFrom s := by
  have hcancelled : ¬ (Submission.ofFields fields).cancelled = true := by
    simp [Submission.ofFields, h]
  unfold resume
  rw [if_neg hcancelled, Work.runFrom_bind, Step.runFrom_attempt, hload]
  rfl

theorem resume_push (h : fields.lookup Page.cancel = none)
    (hload : Attempt.load s.notes = .ok attempt)
    (hpush : fields.first Page.tokenType = some "push") :
    ComesTo (resume settings user fields) s
      (pushResult settings (.ofFields fields) attempt (pushVerdict settings attempt s))
      (pushNotes settings attempt s.notes (pushVerdict settings attempt s))
      (pushDue settings user attempt s) := by
  have htype : TokenType.ofText (fields.first Page.tokenType) = .push := if_pos hpush
  refine (resumePush_comesTo settings user (.ofFields fields) attempt s).congr ?_
  rw [runFrom_resume settings user h hload, htype]

theorem resume_otp (h : fields.lookup Page.cancel = none)
    (hload : Attempt.load s.notes = .ok attempt)
    (hotp : fields.first Page.tokenType ≠ some "push") :
    ComesTo (resume settings user fields) s
      ((otpAnswer settings s).map (otpResult settings (.ofFields fields) attempt))
      (otpNotes settings attempt s.notes (otpAnswer settings s))
      (otpDue settings user (.ofFields fields) s) := by
  have htype : TokenType.ofText (fields.first Page.tokenType) = .otp := if_neg hotp
  refine (resumeOtp_comesTo settings user (.ofFields fields) attempt s).congr ?_
  rw [runFrom_resume settings user h hload, htype]

end

/-- All that a submission can come to: a result, the notes it leaves and the requests it sends. -/
inductive Submitted (settings : Settings) (user : User) (fields : Fields) (s : State) :
    Except Fault Result → Notes → List Request → Prop
  | cancelled {value : FieldValue} (h : fields.lookup Page.cancel = some value) :
      Submitted settings user fields s (.ok .cancelled) s.notes []
  | unloaded {f : Fault} (uncancelled : fields.lookup Page.cancel = none)
      (failed : Attempt.load s.notes = .error f) :
      Submitted settings user fields s (.error f) s.notes []
  | push {attempt : Attempt} (uncancelled : fields.lookup Page.cancel = none)
      (loaded : Attempt.load s.notes = .ok attempt)
      (push : fields.first Page.tokenType = some "push") :
      Submitted settings user fields s
        (pushResult settings (.ofFields fields) attempt (pushVerdict settings attempt s))
        (pushNotes settings attempt s.notes (pushVerdict settings attempt s))
        (pushDue settings user attempt s)
  | otp {attempt : Attempt} (uncancelled : fields.lookup Page.cancel = none)
      (loaded : Attempt.load s.notes = .ok attempt)
      (otp : fields.first Page.tokenType ≠ some "push") :
      Submitted settings user fields s
        ((otpAnswer settings s).map (otpResult settings (.ofFields fields) attempt))
        (otpNotes settings attempt s.notes (otpAnswer settings s))
        (otpDue settings user (.ofFields fields) s)

theorem resume_submitted (settings : Settings) (user : User) (fields : Fields) (s : State) :
    ∃ result notes sent, ComesTo (resume settings user fields) s result notes sent ∧
      Submitted settings user fields s result notes sent := by
  cases h : fields.lookup Page.cancel with
  | some value => exact ⟨_, _, _, resume_cancelled settings user (by simp [h]), .cancelled h⟩
  | none =>
    cases hload : Attempt.load s.notes with
    | error f => exact ⟨_, _, _, resume_unloaded settings user h hload, .unloaded h hload⟩
    | ok attempt =>
      by_cases hpush : fields.first Page.tokenType = some "push"
      · exact ⟨_, _, _, resume_push settings user h hload hpush, .push h hload hpush⟩
      · exact ⟨_, _, _, resume_otp settings user h hload hpush, .otp h hload hpush⟩

end SecondFactor.Flow
