import SecondFactor.Proofs.Flow.Acceptance
import SecondFactor.Proofs.Settings.Fields

/-!
# Errors in place of a validation

The answer to a validation may be an error. Whether it lets the user in is decided by its value
alone, as for any other answer, so an error that affirms the value lets in. An error that does not
is taken like a refusal: nothing that can be seen of the submission depends on which of the two
came, given the same challenges.
-/
namespace SecondFactor.Flow

/-- The same state, where one of the replies to come is another one. -/
def State.withReply (s : State) (i : Nat) (r : Reply) : State :=
  { s with conversation := { s.conversation with pending := s.conversation.pending.set i r } }

/-- A submission whose validation takes the reply at a place among those to come. -/
inductive Validates (settings : Settings) (fields : Fields) (s : State) : Nat → Reply → Prop
  | device {attempt : Attempt} {c : Client} {transaction : String} {polled checked : Reply}
      {rest : List Reply}
      (uncancelled : fields.lookup Page.cancel = none)
      (loaded : Attempt.load s.notes = .ok attempt)
      (client : s.clientFor settings = .ok c)
      (push : fields.first Page.tokenType = some "push")
      (given : Text.given? (s.notes.get? Attempt.transactionNote) = some transaction)
      (replies : s.conversation.pending = polled :: checked :: rest)
      (confirmed : confirms polled = true) : Validates settings fields s 1 checked
  | passcode {attempt : Attempt} {c : Client} {checked : Reply} {rest : List Reply}
      (uncancelled : fields.lookup Page.cancel = none)
      (loaded : Attempt.load s.notes = .ok attempt)
      (client : s.clientFor settings = .ok c)
      (otp : fields.first Page.tokenType ≠ some "push")
      (replies : s.conversation.pending = checked :: rest) :
      Validates settings fields s 0 checked

section

variable {settings : Settings} {user : User} {fields : Fields} {s : State} {i : Nat}
  {reply other : Reply} {body otherBody : Json}

/-- Of what passes while a submission waits for the device, only the second request validates. -/
theorem validation_of_paired {c : Client} {transaction : String} {replies : List Reply}
    {q : Request} (hq : q.endpoint = .validateCheck)
    (h : (Conversation.paired (pushRequests c user transaction replies) replies)[i]? =
      some (q, some reply)) :
    ∃ polled rest, i = 1 ∧ replies = polled :: reply :: rest ∧ confirms polled = true := by
  unfold pushRequests at h
  cases i with
  | zero =>
    simp only [Conversation.paired, List.getElem?_cons_zero, Option.some.injEq,
      Prod.mk.injEq] at h
    rw [← h.1] at hq
    cases hq
  | succ i =>
    rw [Conversation.paired, List.getElem?_cons_succ] at h
    cases hconfirmed : replies.head?.any confirms with
    | false => simp [hconfirmed, Conversation.paired] at h
    | true =>
      rw [hconfirmed, if_pos rfl] at h
      cases i with
      | succ i => simp [Conversation.paired] at h
      | zero =>
        rcases replies with _ | ⟨polled, _ | ⟨checked, rest⟩⟩
        · simp at hconfirmed
        · simp [Conversation.paired] at h
        · simp only [List.tail_cons, Conversation.paired, List.head?_cons,
            List.getElem?_cons_zero, Option.some.injEq, Prod.mk.injEq] at h
          exact ⟨polled, rest, rfl, by rw [h.2], hconfirmed⟩

/-- A validation that was sent and answered belongs to one of the two kinds of submissions. -/
theorem validates_of_dialogue {q : Request} (hq : q.endpoint = .validateCheck)
    (h : (s.conversation.dialogue
      ((resume settings user fields).runFrom s).2.conversation)[i]? = some (q, some reply)) :
    Validates settings fields s i reply := by
  rw [(resume_traffic settings user fields s).dialogue_eq] at h
  unfold due at h
  split at h
  · next attempt c uncancelled loaded client =>
    split at h
    · next push =>
      split at h
      · simp [Conversation.paired] at h
      · next transaction given =>
        obtain ⟨polled, rest, rfl, replies, confirmed⟩ := validation_of_paired hq h
        exact .device uncancelled loaded client push given replies confirmed
    · next otp =>
      cases i with
      | succ i => simp [Conversation.paired] at h
      | zero =>
        cases replies : s.conversation.pending with
        | nil => simp [Conversation.paired, replies] at h
        | cons checked rest =>
          simp only [Conversation.paired, replies, List.head?_cons, List.getElem?_cons_zero,
            Option.some.injEq, Prod.mk.injEq] at h
          exact h.2 ▸ .passcode uncancelled loaded client otp replies
  · simp [Conversation.paired] at h

/-- Where the value is affirmed, and only there, the user is let in. -/
theorem Validates.success_iff (h : Validates settings fields s i reply) :
    ((resume settings user fields).runFrom s).1 = .ok .success ↔
      reply.affirms "value" = true := by
  cases h with
  | device uncancelled loaded client push given replies confirmed =>
    rw [(resume_push settings user uncancelled loaded push).result, pushResult_eq_success_iff,
      pushVerdict_eq_true_iff, pushAnswer_eq_true_iff, replies,
      Attempt.transactionId_of_load loaded, Text.given?_given?]
    simp [given, client, confirmed]
  | passcode uncancelled loaded client otp replies =>
    rw [(resume_otp settings user uncancelled loaded otp).result, otpAnswer_success_iff, replies]
    simp [client]

/-! ## Refusals -/

/-- A submission that waited for the device and was refused. -/
theorem refused_on_device {attempt : Attempt} {c : Client} {transaction : String}
    {polled : Reply} {rest : List Reply} (uncancelled : fields.lookup Page.cancel = none)
    (loaded : Attempt.load s.notes = .ok attempt) (client : s.clientFor settings = .ok c)
    (push : fields.first Page.tokenType = some "push")
    (given : Text.given? (s.notes.get? Attempt.transactionNote) = some transaction)
    (replies : s.conversation.pending = polled :: reply :: rest)
    (confirmed : confirms polled = true) (hbody : reply.object? = some body)
    (hvalue : body.affirms "value" = false) :
    ComesTo (resume settings user fields) s
      (.ok (retried settings (.ofFields fields) attempt none))
      ((attempt.advance settings.schedule.length).save s.notes)
      [c.pollRequest transaction, c.finishRequest user.name transaction] := by
  have hcomes := resume_push settings user uncancelled loaded push
  have hgiven : Text.given? attempt.transactionId = some transaction := by
    rw [Attempt.transactionId_of_load loaded, Text.given?_given?, given]
  have hread : Client.answered .validateCheck (some reply) = .ok body :=
    Client.answered_eq_ok_iff.2 (by simpa using hbody)
  have hverdict : pushVerdict settings attempt s = .ok false := by
    simp only [pushVerdict, hgiven, client, replies, pushAnswer_of_confirms confirmed,
      List.head?_cons, hread, Except.map, hvalue]
  have hdue : pushDue settings user attempt s =
      [c.pollRequest transaction, c.finishRequest user.name transaction] := by
    simp [pushDue, pushRequests, hgiven, client, replies, confirmed]
  rw [hverdict, hdue] at hcomes
  exact hcomes

/-- A submission with a passcode that was answered. -/
theorem answered_passcode {attempt : Attempt} {c : Client} {rest : List Reply}
    (uncancelled : fields.lookup Page.cancel = none)
    (loaded : Attempt.load s.notes = .ok attempt) (client : s.clientFor settings = .ok c)
    (otp : fields.first Page.tokenType ≠ some "push")
    (replies : s.conversation.pending = reply :: rest) (hbody : reply.object? = some body) :
    ComesTo (resume settings user fields) s
      (.ok (otpResult settings (.ofFields fields) attempt (.ofJson body)))
      (otpNotes settings attempt s.notes (.ok (.ofJson body)))
      [c.passcodeRequest user.name (Submission.ofFields fields).otp] := by
  have hcomes := resume_otp settings user uncancelled loaded otp
  have hanswer : otpAnswer settings s = .ok (.ofJson body) := by
    have hread : Client.answered .validateCheck (some reply) = .ok body :=
      Client.answered_eq_ok_iff.2 (by simpa using hbody)
    simp [otpAnswer, client, replies, hread, bind, Except.bind, Except.map]
  rw [hanswer, otpDue, client] at hcomes
  exact hcomes

/-- Two responses with the same verdict, message, transaction and challenges lead on alike. -/
theorem otpResult_congr (settings : Settings) (form : Submission) (attempt : Attempt)
    {r r' : Response} (hsuccess : r.success = r'.success) (hmessage : r.message = r'.message)
    (htransaction : r.transactionId = r'.transactionId)
    (hchallenges : r.challenges = r'.challenges) :
    otpResult settings form attempt r = otpResult settings form attempt r' := by
  have hhas : r.hasChallenges = r'.hasChallenges := by
    rw [Response.hasChallenges, hchallenges]
    rfl
  unfold otpResult continued renewal retried
  rw [hsuccess, hhas, htransaction]
  cases r'.hasChallenges <;> simp [nextPage, reasonFor, hmessage, hchallenges]

theorem otpNotes_congr (settings : Settings) (attempt : Attempt) (notes : Notes)
    {r r' : Response} (hsuccess : r.success = r'.success)
    (htransaction : r.transactionId = r'.transactionId)
    (hchallenges : r.challenges = r'.challenges) :
    otpNotes settings attempt notes (.ok r) = otpNotes settings attempt notes (.ok r') := by
  have hhas : r.hasChallenges = r'.hasChallenges := by
    rw [Response.hasChallenges, hchallenges]
    rfl
  simp only [otpNotes, continued, adoptedNotes, hsuccess, hhas, htransaction]

/-- Two replies that refuse and bring the same challenges are taken alike. -/
theorem Validates.refused_alike (h : Validates settings fields s i reply)
    (hbody : reply.object? = some body) (hvalue : body.affirms "value" = false)
    (hother : other.object? = some otherBody) (hvalue' : otherBody.affirms "value" = false)
    (hdetail : otherBody.member? "detail" = body.member? "detail") :
    ((resume settings user fields).runFrom (s.withReply i other)).1 =
        ((resume settings user fields).runFrom s).1 ∧
      ((resume settings user fields).runFrom (s.withReply i other)).2.notes =
        ((resume settings user fields).runFrom s).2.notes ∧
      ((resume settings user fields).runFrom (s.withReply i other)).2.conversation.requests =
        ((resume settings user fields).runFrom s).2.conversation.requests := by
  cases h with
  | @device attempt c transaction polled _ rest uncancelled loaded client push given replies
      confirmed =>
    have hreplies : (s.withReply 1 other).conversation.pending = polled :: other :: rest := by
      simp [State.withReply, replies]
    have hcomes : ComesTo (resume settings user fields) s _ _ _ :=
      refused_on_device uncancelled loaded client push given replies confirmed hbody hvalue
    have hcomes' : ComesTo (resume settings user fields) (s.withReply 1 other) _ _ _ :=
      refused_on_device uncancelled loaded client push given hreplies confirmed hother hvalue'
    refine ⟨hcomes'.result.trans hcomes.result.symm, hcomes'.notes.trans hcomes.notes.symm, ?_⟩
    exact hcomes'.traffic.requests.trans hcomes.traffic.requests.symm
  | @passcode attempt c _ rest uncancelled loaded client otp replies =>
    have hreplies : (s.withReply 0 other).conversation.pending = other :: rest := by
      simp [State.withReply, replies]
    have hcomes : ComesTo (resume settings user fields) s _ _ _ :=
      answered_passcode uncancelled loaded client otp replies hbody
    have hcomes' : ComesTo (resume settings user fields) (s.withReply 0 other) _ _ _ :=
      answered_passcode uncancelled loaded client otp hreplies hother
    -- Everything but the verdict is read from the detail, which the two answers share.
    have hpart : Response.part otherBody "detail" = Response.part body "detail" := by
      rw [Response.part, hdetail]
      rfl
    have hsuccess : (Response.ofJson otherBody).success = (Response.ofJson body).success := by
      rw [Response.success_ofJson, Response.success_ofJson, hvalue, hvalue']
    have hmessage : (Response.ofJson otherBody).message = (Response.ofJson body).message :=
      congrArg Response.messageOf hpart
    have htransaction : (Response.ofJson otherBody).transactionId =
        (Response.ofJson body).transactionId :=
      congrArg (fun detail : Json => Json.fieldText (detail.member? "transaction_id")) hpart
    have hchallenges : (Response.ofJson otherBody).challenges =
        (Response.ofJson body).challenges := congrArg Response.challengesOf hpart
    refine ⟨?_, ?_, hcomes'.traffic.requests.trans hcomes.traffic.requests.symm⟩
    · rw [hcomes'.result, hcomes.result, otpResult_congr settings _ attempt hsuccess hmessage
        htransaction hchallenges]
    · rw [hcomes'.notes, hcomes.notes]
      exact otpNotes_congr settings attempt s.notes hsuccess htransaction hchallenges

end

/-- What an answer to a validation does. Its value alone lets in. Therefore an error lets nobody in
exactly where it is no error after all or does not affirm the value; and where it does not, it
cannot be told from an answer without an error that refuses and brings the same challenges. -/
theorem validation_answer (settings : Settings) (user : User) (fields : Fields) (s : State)
    {i : Nat} {q : Request} {reply : Reply} {body : Json}
    (h : (s.conversation.dialogue
      ((resume settings user fields).runFrom s).2.conversation)[i]? = some (q, some reply))
    (hq : q.endpoint = .validateCheck) (hbody : reply.object? = some body) :
    (((resume settings user fields).runFrom s).1 = .ok .success ↔
      body.affirms "value" = true) ∧
    (((Response.ofJson body).isError = true →
        (Response.ofJson body).success = false ∧
          ((resume settings user fields).runFrom s).1 ≠ .ok .success) ↔
      body.affirms "status" = true ∨ body.affirms "value" = false) ∧
    (body.affirms "value" = false → ∀ other otherBody, other.object? = some otherBody →
      (Response.ofJson otherBody).isError = false →
      (Response.ofJson otherBody).success = false →
      otherBody.member? "detail" = body.member? "detail" →
      ((resume settings user fields).runFrom (s.withReply i other)).1 =
          ((resume settings user fields).runFrom s).1 ∧
        ((resume settings user fields).runFrom (s.withReply i other)).2.notes =
          ((resume settings user fields).runFrom s).2.notes ∧
        ((resume settings user fields).runFrom (s.withReply i other)).2.conversation.requests =
          ((resume settings user fields).runFrom s).2.conversation.requests) := by
  have hvalidates := validates_of_dialogue hq h
  have haffirms : reply.affirms "value" = body.affirms "value" := by
    simp [Reply.affirms, hbody]
  have hsuccess : ((resume settings user fields).runFrom s).1 = .ok .success ↔
      body.affirms "value" = true := by
    rw [hvalidates.success_iff, haffirms]
  refine ⟨hsuccess, ?_, ?_⟩
  · rw [ne_eq, hsuccess, Response.isError_ofJson, Response.success_ofJson]
    cases body.affirms "status" <;> cases body.affirms "value" <;> simp
  · intro hvalue other otherBody hother _ hvalue' hdetail
    rw [Response.success_ofJson] at hvalue'
    exact hvalidates.refused_alike hbody hvalue hother hvalue' hdetail

/-- The body of an answer with nothing but its two flags. -/
def flagsBody (status value : Bool) : Json :=
  .object [("result", .object [("status", .bool status), ("value", .bool value)])]

/-- The state after a beginning that triggered nothing, where the server answers the passcode with
an error that affirms the value. -/
def affirmingError : State :=
  .start (Notes.empty.set Fault.counterNote "0") [.answer 200 (.ok (flagsBody false true))]

/-- The request that carries an empty passcode of alice. -/
def alicesPasscode : Request :=
  { endpoint := .validateCheck
    url := "https://mfa.example/validate/check"
    authorization := none
    timeout := .float Settings.defaultTimeout
    verifySsl := true
    fields := [("user", "alice"), ("pass", "")] }

theorem validation_answer_affirmingError :
    (affirmingError.conversation.dialogue ((resume (Settings.ofUrl "https://mfa.example")
        ⟨"alice", []⟩ []).runFrom affirmingError).2.conversation)[0]? =
      some (alicesPasscode, some (.answer 200 (.ok (flagsBody false true)))) ∧
    alicesPasscode.endpoint = .validateCheck ∧
    (Reply.answer 200 (.ok (flagsBody false true))).object? = some (flagsBody false true) ∧
    ((resume (Settings.ofUrl "https://mfa.example") ⟨"alice", []⟩ []).runFrom
      affirmingError).1 = .ok .success :=
  ⟨rfl, rfl, rfl,
    (validation_answer (Settings.ofUrl "https://mfa.example") ⟨"alice", []⟩ [] affirmingError
      (show _[0]? = some (alicesPasscode, _) from rfl) rfl rfl).1.2 rfl⟩

/-- An error may let in. -/
theorem error_lets_in :
    ¬ ∀ (settings : Settings) (user : User) (fields : Fields) (s : State) (i : Nat) (q : Request)
      (reply : Reply) (body : Json),
      (s.conversation.dialogue
        ((resume settings user fields).runFrom s).2.conversation)[i]? = some (q, some reply) →
      q.endpoint = .validateCheck → reply.object? = some body →
      (Response.ofJson body).isError = true →
      ((resume settings user fields).runFrom s).1 ≠ .ok .success := by
  intro h
  exact h (Settings.ofUrl "https://mfa.example") ⟨"alice", []⟩ [] affirmingError 0
    alicesPasscode (.answer 200 (.ok (flagsBody false true))) (flagsBody false true)
    rfl rfl rfl rfl rfl

end SecondFactor.Flow
