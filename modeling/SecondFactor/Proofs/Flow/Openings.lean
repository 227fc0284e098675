import SecondFactor.Flow
import SecondFactor.Proofs.Client.Login
import SecondFactor.Proofs.Flow.Steps

/-!
# What the beginning of a flow comes to

An excluded user is let in at once. For anybody else the challenges are triggered first and a token
is enrolled then, both in the name of the service account; each of the two may be left out. Only
when both are through is the attempt written to the notes.
-/
namespace SecondFactor.Flow

/-- Triggers challenges where the settings ask for it. -/
def triggering (settings : Settings) (user : User) : Step (Option String × Prompts) :=
  if settings.triggerChallenge then triggered settings user else pure (none, .ofChallenges [])

/-- Enrolls a token where the settings ask for it and there is none. -/
def enrolling (settings : Settings) (user : User) : Step String :=
  if settings.enrollToken then enrolled settings user else pure ""

/-- The transaction that the triggered challenges brought, unless it is empty. -/
def issuedIn (xs : Dialogue) : Option String :=
  (xs.responseTo .triggerChallenge).bind fun r => Text.given? (some r.transactionId)

theorem runFrom_begin_excluded {settings : Settings} {user : User}
    (h : isExcluded user.groups settings.excludedGroups = true) (s : State) :
    (begin settings user).runFrom s =
      (.ok .success, { s with conversation := s.conversation.log [.flowExcluded user.name] }) := by
  unfold begin
  rw [if_pos h, Work.runFrom_bind, Step.runFrom_log]
  rfl

theorem begin_eq {settings : Settings} {user : User}
    (h : isExcluded user.groups settings.excludedGroups = false) :
    begin settings user = do
      let (transactionId, prompts) ← triggering settings user
      let enrollmentQr ← enrolling settings user
      Step.updateNotes (Attempt.fresh transactionId).save
      return .challenge (firstPage settings prompts enrollmentQr) := by
  unfold begin triggering enrolling
  rw [if_neg (by simp [h])]
  cases settings.triggerChallenge <;> cases settings.enrollToken <;> rfl

/-- From `s` to `t` the notes stay as they are, and `xs` passes. -/
structure Passes (s t : State) (xs : Dialogue) : Prop where
  notes : t.notes = s.notes
  traffic : ∃ sent, s.conversation.Extends t.conversation sent
  dialogue : s.conversation.dialogue t.conversation = xs

namespace Passes

variable {s t u : State} {xs ys : Dialogue}

theorem of_eq (hnotes : t.notes = s.notes) (hconversation : t.conversation = s.conversation) :
    Passes s t [] := by
  refine ⟨hnotes, ⟨[], ?_⟩, ?_⟩ <;> rw [hconversation]
  · exact .refl _
  · exact Conversation.dialogue_self _

theorem trans (h : Passes s t xs) (h' : Passes t u ys) : Passes s u (xs ++ ys) := by
  obtain ⟨sent, htraffic⟩ := h.traffic
  obtain ⟨more, htraffic'⟩ := h'.traffic
  refine ⟨h'.notes.trans h.notes, ⟨sent ++ more, htraffic.trans htraffic'⟩, ?_⟩
  rw [htraffic.dialogue_append htraffic', h.dialogue, h'.dialogue]

theorem asked (settings : Settings) (s : State) : Passes s (s.asked settings) [] :=
  of_eq (s.notes_asked settings) (s.conversation_asked settings)

end Passes

/-! ## Triggering challenges -/

theorem runFrom_triggered {settings : Settings} (user : User) {s : State} {c : Client}
    (hc : s.clientFor settings = .ok c) :
    ∃ es, (triggered settings user).runFrom s =
      (((c.trigger user.name).runFrom s.conversation).1.map fun r =>
          (Text.given? (some r.transactionId), Prompts.ofChallenges r.challenges),
        { s.asked settings with
          conversation := ((c.trigger user.name).runFrom s.conversation).2.log es }) := by
  unfold triggered
  simp only [Work.runFrom_bind, Step.runFrom_client, hc, Step.runFrom_exchange,
    State.conversation_asked]
  rcases (c.trigger user.name).runFrom s.conversation with ⟨f | r, w⟩
  · exact ⟨[], by simp [Except.map]⟩
  · exact ⟨_, rfl⟩

/-- Beside logins at most the one request passes that triggers the challenges, and the transaction
that is given on is the one in its answer. -/
theorem triggering_passes (settings : Settings) (user : User) (s : State) :
    ∃ xs result t, (triggering settings user).runFrom s = (result, t) ∧ Passes s t xs ∧
      (∀ x ∈ xs, x.1.endpoint = .auth ∨ x.1.endpoint = .triggerChallenge) ∧
      ∀ a, result = .ok a → a.1 = issuedIn xs := by
  unfold triggering
  cases settings.triggerChallenge with
  | false =>
    refine ⟨[], _, s, rfl, .of_eq rfl rfl, by simp, ?_⟩
    rintro a ⟨⟩
    rfl
  | true =>
    cases hc : s.clientFor settings with
    | error f =>
      refine ⟨[], .error f, s.asked settings, ?_, .asked settings s, by simp, by simp⟩
      simp [triggered, Work.runFrom_bind, Step.runFrom_client, hc]
    | ok c =>
      obtain ⟨es, hrun⟩ := runFrom_triggered user hc
      obtain ⟨body?, hcall, hresult⟩ := c.adminCall_trigger user.name s.conversation
      obtain ⟨sent, htraffic⟩ := hcall.traffic
      refine ⟨_, _, _, hrun, ⟨s.notes_asked settings, ⟨sent, htraffic.log es⟩, rfl⟩, ?_, ?_⟩
      · intro x hx
        exact (hcall.of_mem_dialogue hx).imp id And.left
      · rw [hresult]
        intro a ha
        cases body? with
        | error f => cases ha
        | ok body =>
          obtain ⟨logins, q, r, hdialogue, hlogins, hq, hr, -⟩ := hcall.dialogue_of_ok
          have hothers : ∀ x ∈ logins, x.1.endpoint ≠ .triggerChallenge := by
            intro x hx
            rw [hlogins x hx]
            decide
          have hresponse : Dialogue.responseTo .triggerChallenge (logins ++ [(q, some r)]) =
              some (Response.ofJson body) := by
            rw [Dialogue.responseTo_append_right hothers, Dialogue.responseTo_cons hq]
            simp [hr]
          cases ha
          rw [Conversation.dialogue_log, hdialogue, issuedIn, hresponse]
          rfl

/-! ## Enrolling a token -/

/-- Whether a listing counts as one without tokens: it is an error, or it names no object. -/
def namesNone (body : Json) : Bool :=
  !body.affirms "status" || (TokenInfo.listOf body).isEmpty

/-- What can pass while a token is enrolled. -/
inductive EnrollmentTraffic : Dialogue → Prop
  /-- No listing came back. -/
  | unlisted {xs : Dialogue} (h : ∀ x ∈ xs, x.1.endpoint = .auth ∨
      x.1.endpoint = .tokens ∧ x.2.bind Reply.object? = none) : EnrollmentTraffic xs
  /-- The listing names a token. -/
  | owner {logins : Dialogue} {q : Request} {r : Reply} {body : Json}
      (auth : ∀ x ∈ logins, x.1.endpoint = .auth) (listing : q.endpoint = .tokens)
      (object : r.object? = some body) (h : namesNone body = false) :
      EnrollmentTraffic (logins ++ [(q, some r)])
  /-- The listing counts as one without tokens, and the request to enroll one comes next. -/
  | enrolled {logins : Dialogue} {q init : Request} {r : Reply} {answer : Option Reply}
      {body : Json} (auth : ∀ x ∈ logins, x.1.endpoint = .auth) (listing : q.endpoint = .tokens)
      (object : r.object? = some body) (h : namesNone body = true)
      (rollout : init.endpoint = .tokenInit) :
      EnrollmentTraffic (logins ++ [(q, some r), (init, answer)])

theorem EnrollmentTraffic.endpoint_of_mem {xs : Dialogue} (h : EnrollmentTraffic xs)
    {x : Request × Option Reply} (hx : x ∈ xs) :
    x.1.endpoint = .auth ∨ x.1.endpoint = .tokens ∨ x.1.endpoint = .tokenInit := by
  cases h with
  | unlisted h => exact (h x hx).imp id fun h => .inl h.1
  | owner auth listing object h =>
    rcases List.mem_append.1 hx with hx | hx
    · exact .inl (auth x hx)
    · rw [List.mem_singleton.1 hx]
      exact .inr (.inl listing)
  | enrolled auth listing object h rollout =>
    rcases List.mem_append.1 hx with hx | hx
    · exact .inl (auth x hx)
    · simp only [List.mem_cons, List.not_mem_nil, or_false] at hx
      rcases hx with rfl | rfl
      · exact .inr (.inl listing)
      · exact .inr (.inr rollout)

theorem EnrollmentTraffic.ne_triggerChallenge {xs : Dialogue} (h : EnrollmentTraffic xs)
    {x : Request × Option Reply} (hx : x ∈ xs) : x.1.endpoint ≠ .triggerChallenge := by
  rcases h.endpoint_of_mem hx with h | h | h <;> rw [h] <;> decide

theorem runFrom_enrolled {settings : Settings} (user : User) {s : State} {c : Client}
    (hc : s.clientFor settings = .ok c) :
    ∃ es, (enrolled settings user).runFrom s =
      match (c.tokens user.name).runFrom s.conversation with
      | (.error f, w) => (.error f, { s.asked settings with conversation := w })
      | (.ok tokens, w) =>
        if tokens.isEmpty then
          let rollout := (c.rollout user.name settings.enrollingTokenType).runFrom w
          (rollout.1.map (·.qrImage), { s.asked settings with conversation := rollout.2.log es })
        else (.ok "", { s.asked settings with conversation := w }) := by
  unfold enrolled
  simp only [Work.runFrom_bind, Step.runFrom_client, hc, Step.runFrom_exchange,
    State.conversation_asked]
  rcases (c.tokens user.name).runFrom s.conversation with ⟨f | tokens, w⟩
  · exact ⟨[], rfl⟩
  · cases tokens with
    | cons token rest => exact ⟨[], rfl⟩
    | nil =>
      simp only [List.isEmpty_nil, if_true, Work.runFrom_bind, Step.runFrom_exchange]
      rcases (c.rollout user.name settings.enrollingTokenType).runFrom w with ⟨f | r, u⟩
      · exact ⟨[], by simp [Except.map]⟩
      · exact ⟨_, rfl⟩

/-- What passes while the tokens are listed and, if there is none, one is enrolled. -/
theorem enrolled_passes {settings : Settings} (user : User) {s : State} {c : Client}
    (hc : s.clientFor settings = .ok c) :
    ∃ xs result t, (enrolled settings user).runFrom s = (result, t) ∧ Passes s t xs ∧
      EnrollmentTraffic xs := by
  obtain ⟨es, hrun⟩ := runFrom_enrolled user hc
  obtain ⟨body?, hcall, hresult⟩ := c.adminCall_tokens user.name s.conversation
  rw [hrun]
  rcases htokens : (c.tokens user.name).runFrom s.conversation with ⟨result, w⟩
  rw [htokens] at hcall hresult
  have hlisted : Passes s { s.asked settings with conversation := w }
      (s.conversation.dialogue w) := ⟨s.notes_asked settings, hcall.traffic, rfl⟩
  cases body? with
  | error f =>
    rw [show result = .error f from hresult]
    refine ⟨_, _, _, rfl, hlisted, .unlisted fun x hx => ?_⟩
    exact (hcall.of_mem_dialogue hx).imp id fun h => ⟨h.1, Client.object?_of_answered h.2.symm⟩
  | ok body =>
    obtain ⟨logins, q, r, hdialogue, hlogins, hq, hr, htoken⟩ := hcall.dialogue_of_ok
    rw [show result = .ok _ from hresult]
    have hempty : (if body.affirms "status" then TokenInfo.listOf body else []).isEmpty =
        namesNone body := by
      cases h : body.affirms "status" <;> simp [namesNone, h]
    simp only [hempty]
    rw [hdialogue] at hlisted
    cases hnone : namesNone body with
    | false => exact ⟨_, _, _, rfl, hlisted, .owner hlogins hq hr hnone⟩
    | true =>
      obtain ⟨body?, hcall', -⟩ := c.adminCall_rollout user.name settings.enrollingTokenType w
      obtain ⟨init, hdialogue', hinit⟩ := hcall'.dialogue_of_token htoken
      obtain ⟨sent, htraffic'⟩ := hcall'.traffic
      refine ⟨_, _, _, rfl, hlisted.trans ⟨rfl, ⟨sent, htraffic'.log es⟩, hdialogue'⟩, ?_⟩
      rw [List.append_assoc]
      exact .enrolled hlogins hq hr hnone hinit

theorem enrolling_passes (settings : Settings) (user : User) (s : State) :
    ∃ xs result t, (enrolling settings user).runFrom s = (result, t) ∧ Passes s t xs ∧
      EnrollmentTraffic xs ∧ (settings.enrollToken = false → xs = []) := by
  unfold enrolling
  cases settings.enrollToken with
  | false => exact ⟨[], _, s, rfl, .of_eq rfl rfl, .unlisted (by simp), fun _ => rfl⟩
  | true =>
    cases hc : s.clientFor settings with
    | error f =>
      refine ⟨[], .error f, s.asked settings, ?_, .asked settings s, .unlisted (by simp),
        fun _ => rfl⟩
      simp [enrolled, Work.runFrom_bind, Step.runFrom_client, hc]
    | ok c =>
      obtain ⟨xs, result, t, hrun, hpasses, hxs⟩ := enrolled_passes user hc
      exact ⟨xs, result, t, hrun, hpasses, hxs, by simp⟩

/-! ## The whole beginning -/

/-- How a beginning during which `xs` passes ends: at once, with a fault and the notes untouched, or
with a page and the attempt in the notes. -/
inductive Opened (settings : Settings) (user : User) (xs : Dialogue) (before after : Notes) :
    Except Fault Result → Prop
  | excluded (h : isExcluded user.groups settings.excludedGroups = true) (notes : after = before) :
      Opened settings user xs before after (.ok .success)
  | failed {f : Fault} (h : isExcluded user.groups settings.excludedGroups = false)
      (notes : after = before) : Opened settings user xs before after (.error f)
  | shown {page : Presentation} (h : isExcluded user.groups settings.excludedGroups = false)
      (notes : after = (Attempt.fresh (issuedIn xs)).save before) :
      Opened settings user xs before after (.ok (.challenge page))

/-- What a beginning from `s` to `t` comes to: `xs` passes while the challenges are triggered, and
then `ys` while a token is enrolled. -/
structure Begins (settings : Settings) (user : User) (s t : State) (result : Except Fault Result)
    (xs ys : Dialogue) : Prop where
  dialogue : s.conversation.dialogue t.conversation = xs ++ ys
  triggering : ∀ x ∈ xs, x.1.endpoint = .auth ∨ x.1.endpoint = .triggerChallenge
  enrolling : EnrollmentTraffic ys
  off : settings.enrollToken = false → ys = []
  opened : Opened settings user (xs ++ ys) s.notes t.notes result

/-- For a user who is not excluded. -/
theorem begins_other {settings : Settings} {user : User}
    (h : isExcluded user.groups settings.excludedGroups = false) (s : State) :
    ∃ result t xs ys, (begin settings user).runFrom s = (result, t) ∧
      Begins settings user s t result xs ys := by
  obtain ⟨xs, first, t, hrun, hfirst, hxs, htransaction⟩ := triggering_passes settings user s
  rw [begin_eq h]
  rcases first with f | ⟨transactionId, prompts⟩
  · refine ⟨.error f, t, xs, [], ?_, ?_, hxs, .unlisted (by simp), fun _ => rfl,
      .failed h hfirst.notes⟩
    · rw [Work.runFrom_bind, hrun]
    · rw [hfirst.dialogue, List.append_nil]
  · obtain ⟨ys, second, u, hrun', hsecond, hys, hoff⟩ := enrolling_passes settings user t
    have hboth := hfirst.trans hsecond
    -- Enrolling triggers nothing, so the transaction is still the one of the first part.
    have hissued : issuedIn (xs ++ ys) = transactionId := by
      rw [issuedIn, Dialogue.responseTo_append_left fun y hy => hys.ne_triggerChallenge hy]
      exact (htransaction _ rfl).symm
    rcases second with f | enrollmentQr
    · refine ⟨.error f, u, xs, ys, ?_, hboth.dialogue, hxs, hys, hoff, .failed h hboth.notes⟩
      simp [Work.runFrom_bind, hrun, hrun']
    · refine ⟨.ok (.challenge (firstPage settings prompts enrollmentQr)),
        { u with notes := (Attempt.fresh transactionId).save u.notes }, xs, ys, ?_,
        hboth.dialogue, hxs, hys, hoff, .shown h ?_⟩
      · simp [Work.runFrom_bind, hrun, hrun', Work.runFrom_map, Except.map]
      · rw [hissued, hboth.notes]

theorem prompts_of_triggering {settings : Settings} {user : User} {s : State}
    {a : Option String × Prompts} (h : ((triggering settings user).runFrom s).1 = .ok a) :
    ∃ batch, a.2 = .ofChallenges batch := by
  unfold triggering at h
  cases htrigger : settings.triggerChallenge <;> simp only [htrigger] at h
  · cases h
    exact ⟨[], rfl⟩
  · cases hc : s.clientFor settings with
    | error f => simp [triggered, Work.runFrom_bind, Step.runFrom_client, hc] at h
    | ok c =>
      obtain ⟨es, hrun⟩ := runFrom_triggered user hc
      simp only [if_true, hrun] at h
      cases hresponse : ((c.trigger user.name).runFrom s.conversation).1 with
      | error f =>
        rw [hresponse] at h
        cases h
      | ok r =>
        rw [hresponse] at h
        cases h
        exact ⟨r.challenges, rfl⟩

/-- A page that a beginning shows is a first page for a batch of challenges. -/
theorem page_of_begin {settings : Settings} {user : User} {s : State} {page : Presentation}
    (h : ((begin settings user).runFrom s).1 = .ok (.challenge page)) :
    ∃ batch enrollmentQr, page = firstPage settings (.ofChallenges batch) enrollmentQr := by
  cases hexcluded : isExcluded user.groups settings.excludedGroups with
  | true =>
    rw [runFrom_begin_excluded hexcluded] at h
    cases h
  | false =>
    rw [begin_eq hexcluded, Work.runFrom_bind] at h
    rcases hfirst : (triggering settings user).runFrom s with ⟨f | ⟨transactionId, prompts⟩, t⟩ <;>
      rw [hfirst] at h
    · cases h
    · simp only [Work.runFrom_bind] at h
      rcases hsecond : (enrolling settings user).runFrom t with ⟨f | enrollmentQr, u⟩ <;>
        rw [hsecond] at h
      · cases h
      · cases h
        have htriggered : ((triggering settings user).runFrom s).1 =
            .ok (transactionId, prompts) := by rw [hfirst]
        obtain ⟨batch, hbatch⟩ := prompts_of_triggering htriggered
        exact ⟨batch, enrollmentQr, by rw [← hbatch]⟩

theorem begin_begins (settings : Settings) (user : User) (s : State) :
    ∃ xs ys, Begins settings user s ((begin settings user).runFrom s).2
      ((begin settings user).runFrom s).1 xs ys := by
  cases h : isExcluded user.groups settings.excludedGroups with
  | true =>
    rw [runFrom_begin_excluded h]
    exact ⟨[], [], by simp, by simp, .unlisted (by simp), fun _ => rfl, .excluded h rfl⟩
  | false =>
    obtain ⟨result, t, xs, ys, hrun, hbegins⟩ := begins_other h s
    rw [hrun]
    exact ⟨xs, ys, hbegins⟩

end SecondFactor.Flow
