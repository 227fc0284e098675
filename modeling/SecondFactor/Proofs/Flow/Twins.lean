import Mathlib.Data.List.Forall2
import SecondFactor.Proofs.Client.Twins
import SecondFactor.Proofs.Flow.Hosts
import SecondFactor.Proofs.Flow.Openings

/-!
# Flows side by side

Two flows go through the same steps, each with its own settings, its own client and its own
conversation. A `Likeness` says how these may differ. Where the clients are twins, all that the
flows come to is the same, step after step and over every run of their hosts.
-/
namespace SecondFactor.Flow

/-- How two flows that go side by side may differ. -/
structure Likeness where
  conversation : Conversation → Conversation → Prop
  client : Client → Client → Prop
  parallel : Conversation.Parallel conversation
  twins {c c' : Client} (h : client c c') : c.Twins conversation c'

namespace Likeness

variable {α : Type} (L : Likeness)

/-- States that differ in the conversation and in the client alone. -/
structure States (s t : State) : Prop where
  notes : s.notes = t.notes
  conversation : L.conversation s.conversation t.conversation
  client : Option.Rel L.client s.client t.client
  builds : s.builds = t.builds

/-- Settings that differ for the client alone. -/
structure Settings (settings settings' : SecondFactor.Settings) : Prop where
  excludedGroups : settings.excludedGroups = settings'.excludedGroups
  triggerChallenge : settings.triggerChallenge = settings'.triggerChallenge
  enrollToken : settings.enrollToken = settings'.enrollToken
  enrollingTokenType : settings.enrollingTokenType = settings'.enrollingTokenType
  schedule : settings.schedule = settings'.schedule
  client : (∃ f, Client.ofSettings settings = .error f ∧ Client.ofSettings settings' = .error f) ∨
    ∃ c c', Client.ofSettings settings = .ok c ∧ Client.ofSettings settings' = .ok c' ∧
      L.client c c'

/-- Steps that come to the same. -/
abbrev Steps (x y : Step α) : Prop := Work.Alike L.States x y

variable {L} {settings settings' : SecondFactor.Settings} {s t : State}

/-! ## Parts of a step -/

theorem exchange {x y : Exchange α} (h : Work.Alike L.conversation x y) :
    L.Steps (Step.exchange x) (Step.exchange y) := by
  intro s t hst
  obtain ⟨hresult, hleft⟩ := h _ _ hst.conversation
  exact ⟨hresult, hst.notes, hleft, hst.client, hst.builds⟩

theorem log {e : Log.Event} (he : e.isDiagnostic = false) :
    L.Steps (Step.log e) (Step.log e) :=
  exchange (.modify fun _ _ hvw => L.parallel.log hvw he)

theorem updateNotes (f : Notes → Notes) : L.Steps (Step.updateNotes f) (Step.updateNotes f) :=
  .modify fun _ _ h => ⟨by rw [h.notes], h.conversation, h.client, h.builds⟩

theorem attempt : L.Steps Step.attempt Step.attempt :=
  .bind_get fun s t h => by
    rw [h.notes]
    exact .ofExcept _

/-- Where no client can be made there is none in either case. -/
theorem clientFor (hsettings : L.Settings settings settings') (h : L.States s t) :
    (∃ f, s.clientFor settings = .error f ∧ t.clientFor settings' = .error f) ∨
      ∃ c c', s.clientFor settings = .ok c ∧ t.clientFor settings' = .ok c' ∧ L.client c c' := by
  have hclient := h.client
  unfold State.clientFor
  cases hs : s.client <;> cases ht : t.client <;> rw [hs, ht] at hclient <;> cases hclient
  · exact hsettings.client
  · next c c' hlike => exact .inr ⟨c, c', rfl, rfl, hlike⟩

theorem asked (hsettings : L.Settings settings settings') (h : L.States s t) :
    L.States (s.asked settings) (t.asked settings') := by
  have hclient := h.client
  unfold State.asked
  cases hs : s.client <;> cases ht : t.client <;> rw [hs, ht] at hclient <;> cases hclient
  · refine ⟨h.notes, h.conversation, ?_, congrArg (· + 1) h.builds⟩
    rcases hsettings.client with ⟨f, hf, hf'⟩ | ⟨c, c', hc, hc', hlike⟩
    · simp only [hf, hf']
      exact .none
    · simp only [hc, hc']
      exact .some hlike
  · exact h

/-- What is done with the one client is done with the other. -/
theorem client_bind (hsettings : L.Settings settings settings') {f g : Client → Step α}
    (h : ∀ c c', L.client c c' → L.Steps (f c) (g c')) :
    L.Steps (Step.client settings >>= f) (Step.client settings' >>= g) := by
  intro s t hst
  have hasked := asked hsettings hst
  rw [Work.runFrom_bind, Work.runFrom_bind, Step.runFrom_client, Step.runFrom_client]
  rcases clientFor hsettings hst with ⟨e, hs, ht⟩ | ⟨c, c', hs, ht, hlike⟩
  · rw [hs, ht]
    exact ⟨rfl, hasked⟩
  · rw [hs, ht]
    exact h c c' hlike _ _ hasked

/-! ## The beginning -/

theorem triggered (hsettings : L.Settings settings settings') (user : User) :
    L.Steps (Flow.triggered settings user) (Flow.triggered settings' user) :=
  client_bind hsettings fun _ _ hlike =>
    (exchange ((L.twins hlike).alike_trigger user.name)).bind fun _ =>
      (log rfl).bind fun _ => .pure _

theorem enrolled (hsettings : L.Settings settings settings') (user : User) :
    L.Steps (Flow.enrolled settings user) (Flow.enrolled settings' user) := by
  unfold Flow.enrolled
  rw [hsettings.enrollingTokenType]
  refine client_bind hsettings fun c c' hlike => ?_
  refine (exchange ((L.twins hlike).alike_tokens user.name)).bind fun tokens => ?_
  refine .ite _ ?_ (.pure "")
  exact (exchange ((L.twins hlike).alike_rollout user.name _)).bind fun r =>
    (log rfl).bind fun _ => .pure r.qrImage

theorem begin (hsettings : L.Settings settings settings') (user : User) :
    L.Steps (Flow.begin settings user) (Flow.begin settings' user) := by
  cases hexcluded : isExcluded user.groups settings.excludedGroups with
  | true =>
    intro s t hst
    rw [runFrom_begin_excluded hexcluded,
      runFrom_begin_excluded (hsettings.excludedGroups ▸ hexcluded)]
    exact ⟨rfl, (log rfl s t hst).2⟩
  | false =>
    have hpage (prompts : Prompts) (enrollmentQr : String) :
        firstPage settings prompts enrollmentQr = firstPage settings' prompts enrollmentQr := by
      rw [firstPage, firstPage, hsettings.schedule]
    rw [begin_eq hexcluded, begin_eq (hsettings.excludedGroups ▸ hexcluded)]
    unfold triggering enrolling
    simp only [hsettings.triggerChallenge, hsettings.enrollToken, hpage]
    refine Work.Alike.bind (.ite _ (triggered hsettings user) (.pure _)) fun opened => ?_
    refine Work.Alike.bind (.ite _ (enrolled hsettings user) (.pure "")) fun enrollmentQr => ?_
    exact (updateNotes _).bind fun _ => .pure _

/-! ## Submissions -/

theorem pushAccepted (hsettings : L.Settings settings settings') (user : User)
    (attempt : Attempt) :
    L.Steps (Flow.pushAccepted settings user attempt)
      (Flow.pushAccepted settings' user attempt) := by
  unfold Flow.pushAccepted
  cases Text.given? attempt.transactionId with
  | none => exact (log rfl).bind fun _ => .pure false
  | some transaction =>
    refine client_bind hsettings fun c c' hlike => ?_
    refine (exchange ((L.twins hlike).alike_poll _)).bind fun resolved => ?_
    refine (log rfl).bind fun _ => .ite _ ?_ (.pure false)
    exact (exchange ((L.twins hlike).alike_validate_same user.name "" _)).bind fun r =>
      .pure r.success

theorem adopt (attempt : Attempt) (r : Response) :
    L.Steps (Flow.adopt attempt r) (Flow.adopt attempt r) :=
  (updateNotes _).bind fun _ => .ite _ ((updateNotes _).bind fun _ => .pure _) (.pure _)

/-- The next page holds no passcode. -/
theorem retry (hsettings : L.Settings settings settings') (user : User) (form : Submission)
    (otp : String) (attempt : Attempt) (answer : Option Response) :
    L.Steps (Flow.retry settings user form attempt answer)
      (Flow.retry settings' user { form with otp } attempt answer) := by
  have hpage (counter : Int) : nextPage settings form answer counter =
      nextPage settings' { form with otp } answer counter := by
    unfold nextPage
    rw [hsettings.schedule]
    rfl
  unfold Flow.retry
  simp only [hsettings.schedule, hpage]
  exact (updateNotes _).bind fun _ => (log rfl).bind fun _ => .pure _

theorem resumePush (hsettings : L.Settings settings settings') (user : User) (form : Submission)
    (otp : String) (attempt : Attempt) :
    L.Steps (Flow.resumePush settings user form attempt)
      (Flow.resumePush settings' user { form with otp } attempt) :=
  (pushAccepted hsettings user attempt).bind fun accepted =>
    .ite accepted ((log rfl).bind fun _ => .pure _)
      (retry hsettings user form otp attempt none)

/-- The passcodes may differ where their validations are alike. -/
theorem resumeOtp (hsettings : L.Settings settings settings') (user : User) (form : Submission)
    {otp : String} (attempt : Attempt)
    (hvalidate : ∀ c c', L.client c c' → Work.Alike L.conversation
      (c.validate user.name form.otp none) (c'.validate user.name otp none)) :
    L.Steps (Flow.resumeOtp settings user form attempt)
      (Flow.resumeOtp settings' user { form with otp } attempt) := by
  unfold Flow.resumeOtp
  refine client_bind hsettings fun c c' hlike => ?_
  refine (exchange (hvalidate c c' hlike)).bind fun r => (log rfl).bind fun _ => ?_
  have hend (next : Attempt) (answer : Option Response) :
      L.Steps (if r.success then do
            Step.log (.flowSucceeded user.name .otp)
            return Result.success
          else Flow.retry settings user form next answer)
        (if r.success then do
            Step.log (.flowSucceeded user.name .otp)
            return Result.success
          else Flow.retry settings' user { form with otp } next answer) :=
    .ite r.success ((log rfl).bind fun _ => .pure _) (retry hsettings user form otp next answer)
  exact .ite r.hasChallenges ((adopt attempt r).bind fun next => hend next _)
    ((Work.Alike.pure attempt).bind fun next => hend next _)

theorem resume (hsettings : L.Settings settings settings') (user : User)
    {fields fields' : Fields} {otp : String}
    (hform : Submission.ofFields fields' = { Submission.ofFields fields with otp })
    (hvalidate : ∀ c c', L.client c c' → Work.Alike L.conversation
      (c.validate user.name (Submission.ofFields fields).otp none)
      (c'.validate user.name otp none)) :
    L.Steps (Flow.resume settings user fields) (Flow.resume settings' user fields') := by
  unfold Flow.resume
  rw [hform]
  refine .ite _ ((log rfl).bind fun _ => .pure _) ?_
  refine attempt.bind fun attempt => ?_
  cases (Submission.ofFields fields).tokenType with
  | push => exact resumePush hsettings user _ _ attempt
  | otp => exact resumeOtp hsettings user _ attempt hvalidate

/-! ## Hosts -/

theorem perform (hsettings : L.Settings settings settings') (a : Act) :
    L.Steps (a.perform settings) (a.perform settings') := by
  cases a with
  | begin user => exact (begin hsettings user).map _
  | resume user fields =>
    exact (resume hsettings user rfl fun c c' hlike =>
      (L.twins hlike).alike_validate_same user.name _ none).map _
  | call op =>
    refine client_bind hsettings fun c c' hlike => ?_
    exact (exchange ((L.twins hlike).alike_perform op)).map _

theorem errand (e : Errand) {s t : Client.Session} (h : s.Twins L.conversation t) :
    (e.perform s).1 = (e.perform t).1 ∧
      Client.Session.Twins L.conversation (e.perform s).2 (e.perform t).2 := by
  cases e with
  | start transactionId => exact ⟨rfl, h.startPoller transactionId⟩
  | goOn timer transactionId username signalled left done =>
    obtain ⟨hrun, hleft⟩ :=
      h.client.pollLoop_parallel timer transactionId username signalled left done h.conversation
    exact ⟨congrArg Notice.polled hrun, h.client, hleft, h.registry, h.closings⟩
  | report transactionId f =>
    exact ⟨rfl, h.client, h.client.pollFailed_parallel transactionId f h.conversation, h.registry,
      h.closings⟩
  | deliver transactionId attempts => exact ⟨rfl, h.log rfl⟩
  | finish id =>
    refine ⟨rfl, ?_⟩
    unfold Errand.perform
    rw [h.registry]
    exact h.withRegistry _
  | await timer transactionId username callbackStops =>
    obtain ⟨hdelivered, hleft⟩ := h.runPoller timer transactionId username callbackStops
    exact ⟨congrArg Notice.delivered hdelivered, hleft⟩
  | stop caller => exact ⟨rfl, h.stopAs caller⟩
  | close => exact ⟨rfl, h.close⟩

variable (L) in
/-- Hosts that differ in the conversation and in the client alone. -/
structure Hosts (g h : Host) : Prop where
  flow : L.States g.flow h.flow
  registry : g.registry = h.registry
  closings : g.closings = h.closings

theorem deed {g h : Host} (hsettings : L.Settings settings settings') (hosts : L.Hosts g h)
    (d : Deed) :
    (g.perform settings d).1 = (h.perform settings' d).1 ∧
      L.Hosts (g.perform settings d).2 (h.perform settings' d).2 := by
  cases d with
  | act a =>
    obtain ⟨hresult, hleft⟩ := perform hsettings a _ _ hosts.flow
    exact ⟨congrArg (Except.map Gain.upshot) hresult, hleft, hosts.registry, hosts.closings⟩
  | errand e =>
    have hasked := asked hsettings hosts.flow
    unfold Host.perform
    rw [Step.runFrom_client, Step.runFrom_client]
    rcases clientFor hsettings hosts.flow with ⟨f, hg, hh⟩ | ⟨c, c', hg, hh, hlike⟩
    · simp only [hg, hh]
      exact ⟨trivial, hasked, hosts.registry, hosts.closings⟩
    · simp only [hg, hh]
      have hsession : Client.Session.Twins L.conversation
          ({ g with flow := g.flow.asked settings }.session c)
          ({ h with flow := h.flow.asked settings' }.session c') :=
        ⟨L.twins hlike, hasked.conversation, hosts.registry, hosts.closings⟩
      obtain ⟨hnotice, hleft⟩ := errand e hsession
      exact ⟨congrArg (Except.ok ∘ Gain.notice) hnotice,
        ⟨hasked.notes, hleft.conversation, hasked.client, hasked.builds⟩, hleft.registry,
        hleft.closings⟩
  | turn notes =>
    exact ⟨rfl, ⟨rfl, hosts.flow.conversation, hosts.flow.client, hosts.flow.builds⟩,
      hosts.registry, hosts.closings⟩

/-- Over a run every deed gives the same and leaves hosts that differ as before. -/
theorem run {g h : Host} (hsettings : L.Settings settings settings') (hosts : L.Hosts g h)
    (ds : List Deed) :
    List.Forall₂ (fun x y => x.1 = y.1 ∧ L.Hosts x.2 y.2) (g.run settings ds)
      (h.run settings' ds) := by
  induction ds generalizing g h with
  | nil => exact .nil
  | cons d ds ih =>
    have hdeed := deed hsettings hosts d
    exact .cons hdeed (ih hdeed.2)

end Likeness

end SecondFactor.Flow
