import SecondFactor.Client.Poller
import SecondFactor.Proofs.Client.Operation
import SecondFactor.Proofs.Client.Polling

/-!
# Clients side by side

Two clients are used in the same way. Their conversations may differ, as far as a relation allows;
what they come to is the same. `Client.Twins` says what has to be looked at in the two clients: how
they write diagnostics, the requests they make of the same fields, and their logins. Every
operation, every stretch of a poller and every call of the owner then keeps the relation.
-/
namespace SecondFactor

namespace Work

variable {σ α β : Type} {R : σ → σ → Prop}

/-- Two pieces of work that come to the same from related states, and leave related states. -/
def Alike (R : σ → σ → Prop) (x y : Work σ α) : Prop :=
  ∀ s t, R s t → (x.runFrom s).1 = (y.runFrom t).1 ∧ R (x.runFrom s).2 (y.runFrom t).2

namespace Alike

theorem pure (a : α) : Alike R (Pure.pure a) (Pure.pure a) := fun _ _ h => ⟨rfl, h⟩

theorem throw (f : Fault) : Alike R (MonadExcept.throw f : Work σ α) (MonadExcept.throw f) :=
  fun _ _ h => ⟨rfl, h⟩

theorem ofExcept (e : Except Fault α) : Alike R (Work.ofExcept e) (Work.ofExcept e) := by
  cases e with
  | error f => exact .throw f
  | ok a => exact .pure a

theorem modify {f g : σ → σ} (h : ∀ s t, R s t → R (f s) (g t)) :
    Alike R (MonadState.modifyGet fun s => (⟨⟩, f s) : Work σ PUnit)
      (MonadState.modifyGet fun s => (⟨⟩, g s)) :=
  fun s t hst => ⟨rfl, h s t hst⟩

theorem bind {x y : Work σ α} {f g : α → Work σ β} (hx : Alike R x y)
    (h : ∀ a, Alike R (f a) (g a)) : Alike R (x >>= f) (y >>= g) := by
  intro s t hst
  obtain ⟨hresult, hleft⟩ := hx s t hst
  rw [Work.runFrom_bind, Work.runFrom_bind]
  rcases hfirst : x.runFrom s with ⟨f' | a, s'⟩ <;>
    rcases hsecond : y.runFrom t with ⟨g' | b, t'⟩ <;>
    rw [hfirst, hsecond] at hresult hleft
  · cases hresult
    exact ⟨rfl, hleft⟩
  · cases hresult
  · cases hresult
  · cases hresult
    exact h a s' t' hleft

/-- What depends on the state sees related states. -/
theorem bind_get {f g : σ → Work σ β} (h : ∀ s t, R s t → Alike R (f s) (g t)) :
    Alike R (get >>= f) (get >>= g) :=
  fun s t hst => h s t hst s t hst

theorem map (g : α → β) {x y : Work σ α} (h : Alike R x y) : Alike R (g <$> x) (g <$> y) := by
  rw [← bind_pure_comp, ← bind_pure_comp]
  exact h.bind fun a => .pure (g a)

theorem ite (b : Bool) {x x' y y' : Work σ α} (hx : Alike R x x') (hy : Alike R y y') :
    Alike R (if b then x else y) (if b then x' else y') := by
  cases b
  · exact hy
  · exact hx

end Alike

end Work

/-! ## What has to be looked at -/

/-- Conversations so related are one to a client: the replies to come and the login are the same,
and what both log that is no diagnostic makes no difference. -/
structure Conversation.Parallel (R : Conversation → Conversation → Prop) : Prop where
  pending {v w : Conversation} (h : R v w) : v.pending = w.pending
  token {v w : Conversation} (h : R v w) : v.token = w.token
  keep {v w : Conversation} (h : R v w) (token : Option String) :
    R { v with token } { w with token }
  log {v w : Conversation} (h : R v w) {e : Log.Event} (he : e.isDiagnostic = false) :
    R (v.log [e]) (w.log [e])

namespace Client

variable {R : Conversation → Conversation → Prop}

/-- Clients whose conversations stay related when they are used in the same way. -/
structure Twins (R : Conversation → Conversation → Prop) (c c' : Client) : Prop where
  parallel : Conversation.Parallel R
  realm : c.realm = c'.realm
  schedule : c.schedule = c'.schedule
  owns : c.ownsSession = c'.ownsSession
  diagnose (e : Log.Event) (he : e.isDiagnostic = true) (v w : Conversation) (h : R v w) :
    R (v.log (e.gated c.logging)) (w.log (e.gated c'.logging))
  ask (endpoint : Endpoint) (authorization : Option String) (fields : List (String × String)) :
    Work.Alike R (Exchange.reply (c.requestTo endpoint authorization fields))
      (Exchange.reply (c'.requestTo endpoint authorization fields))
  login : c.credentials? = none ∧ c'.credentials? = none ∨
    ∃ name secret secret', c.credentials? = some (name, secret) ∧
      c'.credentials? = some (name, secret') ∧
      Work.Alike R (Exchange.reply (c.requestTo .auth none (loginFields c name secret)))
        (Exchange.reply (c'.requestTo .auth none (loginFields c' name secret')))

namespace Twins

variable {c c' : Client}

/-! ## Operations -/

theorem alike_log (h : Twins R c c') {e : Log.Event} (he : e.isDiagnostic = false) :
    Work.Alike R (Exchange.log e) (Exchange.log e) :=
  .modify fun _ _ hvw => h.parallel.log hvw he

theorem alike_diagnose (h : Twins R c c') {e : Log.Event} (he : e.isDiagnostic = true) :
    Work.Alike R (Exchange.diagnose c e) (Exchange.diagnose c' e) :=
  .modify fun v w hvw => h.diagnose e he v w hvw

theorem alike_receive (h : Twins R c c') (endpoint : Endpoint) (r : Reply) :
    Work.Alike R (receive c endpoint r) (receive c' endpoint r) := by
  cases r with
  | lost kind message =>
    exact (h.alike_log rfl).bind fun _ => (h.alike_diagnose rfl).bind fun _ => .throw _
  | crashed kind message => exact .throw _
  | answer status body =>
    refine (h.alike_log rfl).bind fun _ => (h.alike_diagnose rfl).bind fun _ => ?_
    rcases body with e | j
    · cases e with
      | tooDeep inner => exact .throw _
      | malformed => exact (h.alike_diagnose rfl).bind fun _ => .throw _
      | numberTooLong => exact (h.alike_diagnose rfl).bind fun _ => .throw _
    · cases j with
      | object es => exact .pure _
      | _ => exact .throw _

/-- Requests that stay within the relation get the same object. -/
theorem alike_send (h : Twins R c c') {endpoint : Endpoint} {authorization : Option String}
    {fields fields' : List (String × String)}
    (hask : Work.Alike R (Exchange.reply (c.requestTo endpoint authorization fields))
      (Exchange.reply (c'.requestTo endpoint authorization fields'))) :
    Work.Alike R (send c endpoint authorization fields)
      (send c' endpoint authorization fields') :=
  hask.bind fun r => h.alike_receive endpoint r

theorem alike_login (h : Twins R c c') : Work.Alike R (Client.login c) (Client.login c') := by
  unfold Client.login
  refine .bind_get fun v w hvw => ?_
  rw [h.parallel.token hvw]
  cases w.token with
  | some token => exact .pure token
  | none =>
    rcases h.login with ⟨hnone, hnone'⟩ | ⟨name, secret, secret', hsome, hsome', hask⟩
    · simp only [hnone, hnone']
      exact .throw _
    · simp only [hsome, hsome']
      refine (h.alike_send hask).bind fun body => ?_
      cases tokenOf? body with
      | none => exact (h.alike_diagnose rfl).bind fun _ => .throw _
      | some token =>
        refine (h.alike_log rfl).bind fun _ => Work.Alike.bind ?_ fun _ => .pure token
        exact .modify fun _ _ hleft => h.parallel.keep hleft (some token)

theorem alike_call (h : Twins R c c') {endpoint : Endpoint}
    {fields fields' : List (String × String)}
    (hask : ∀ authorization,
      Work.Alike R (Exchange.reply (c.requestTo endpoint authorization fields))
        (Exchange.reply (c'.requestTo endpoint authorization fields'))) :
    Work.Alike R (call c endpoint fields) (call c' endpoint fields') := by
  unfold call
  exact .ite _ (h.alike_login.bind fun token => h.alike_send (hask _)) (h.alike_send (hask none))

theorem withRealm_eq (h : Twins R c c') (fields : List (String × String)) :
    c'.withRealm fields = c.withRealm fields := by
  rw [withRealm, withRealm, h.realm]

/-- Requests about a user name the same realm. -/
theorem alike_call_withRealm (h : Twins R c c') (endpoint : Endpoint)
    (fields : List (String × String)) :
    Work.Alike R (call c endpoint (c.withRealm fields))
      (call c' endpoint (c'.withRealm fields)) := by
  rw [h.withRealm_eq]
  exact h.alike_call fun authorization => h.ask endpoint authorization _

theorem alike_responseOf (h : Twins R c c') (endpoint : Endpoint) (body : Json) :
    Work.Alike R (responseOf c endpoint body) (responseOf c' endpoint body) := by
  unfold responseOf
  exact .ite _ ((h.alike_log rfl).bind fun _ => (h.alike_diagnose rfl).bind fun _ => .pure _)
    (.pure _)

theorem alike_trigger (h : Twins R c c') (username : String) :
    Work.Alike R (trigger c username) (trigger c' username) :=
  (h.alike_call_withRealm .triggerChallenge _).bind fun body =>
    h.alike_responseOf .triggerChallenge body

/-- Passcodes may differ where the requests that hold them stay within the relation. -/
theorem alike_validate (h : Twins R c c') {username otp otp' : String}
    {transactionId : Option String}
    (hask : ∀ authorization,
      Work.Alike R
        (Exchange.reply (c.requestTo .validateCheck authorization
          (validateFields c username otp transactionId)))
        (Exchange.reply (c'.requestTo .validateCheck authorization
          (validateFields c' username otp' transactionId)))) :
    Work.Alike R (validate c username otp transactionId)
      (validate c' username otp' transactionId) :=
  (h.alike_call hask).bind fun body => h.alike_responseOf .validateCheck body

theorem alike_validate_same (h : Twins R c c') (username otp : String)
    (transactionId : Option String) :
    Work.Alike R (validate c username otp transactionId)
      (validate c' username otp transactionId) := by
  refine h.alike_validate fun authorization => ?_
  rw [validateFields, validateFields, h.withRealm_eq]
  exact h.ask .validateCheck authorization _

theorem alike_poll (h : Twins R c c') (transactionId : Option String) :
    Work.Alike R (poll c transactionId) (poll c' transactionId) := by
  unfold poll
  cases Text.given? transactionId with
  | none => exact (h.alike_diagnose rfl).bind fun _ => .pure false
  | some transaction =>
    refine (h.alike_call fun authorization => h.ask .pollTransaction authorization _).bind
      fun body => ?_
    exact (h.alike_responseOf .pollTransaction body).bind fun r => .pure _

theorem alike_tokens (h : Twins R c c') (username : String) :
    Work.Alike R (tokens c username) (tokens c' username) := by
  refine (h.alike_call_withRealm .tokens _).bind fun body =>
    (h.alike_responseOf .tokens body).bind fun r => .ite _ (.pure _) ?_
  exact (Work.Alike.ofExcept (resultOf body)).bind fun _ => .pure _

theorem alike_rollout (h : Twins R c c') (username tokenType : String) :
    Work.Alike R (rollout c username tokenType) (rollout c' username tokenType) := by
  refine (h.alike_call_withRealm .tokenInit _).bind fun body => ?_
  refine Work.Alike.bind ?_ fun _ => (h.alike_log rfl).bind fun _ => .pure _
  exact (h.alike_responseOf .tokenInit body).bind fun _ => .pure _

theorem alike_perform (h : Twins R c c') (op : Operation) :
    Work.Alike R (op.perform c) (op.perform c') := by
  cases op with
  | trigger username => exact (h.alike_trigger username).map _
  | validate username otp transactionId =>
    exact (h.alike_validate_same username otp transactionId).map _
  | poll transactionId => exact (h.alike_poll transactionId).map _
  | tokens username => exact (h.alike_tokens username).map _
  | rollout username tokenType => exact (h.alike_rollout username tokenType).map _

/-! ## Pollers -/

theorem alike_pollOnce (h : Twins R c c') (transactionId : Option String) (username : String) :
    Work.Alike R (pollOnce c transactionId username) (pollOnce c' transactionId username) :=
  (h.alike_poll transactionId).bind fun confirmed =>
    .ite confirmed ((h.alike_validate_same username "" transactionId).map some) (.pure none)

theorem pollFailed_parallel (h : Twins R c c') (transactionId : Option String) (f : Fault)
    {v w : Conversation} (hvw : R v w) :
    R ((pollFailed c transactionId f).run v).2 ((pollFailed c' transactionId f).run w).2 :=
  h.diagnose _ rfl _ _ (h.parallel.log hvw rfl)

/-- Pollers go through the same rounds and end in the same way. -/
theorem pollLoop_parallel (h : Twins R c c') (timer : Timer) (transactionId : Option String)
    (username : String) (signalled : Bool) (left done : Nat) {v w : Conversation} (hvw : R v w) :
    let out := (pollLoop c timer transactionId username signalled left done).run v
    let out' := (pollLoop c' timer transactionId username signalled left done).run w
    out.1 = out'.1 ∧ R out.2 out'.2 := by
  induction left generalizing done v w with
  | zero =>
    refine ⟨?_, hvw⟩
    change (⟨[c.schedule.interval done], .stopped⟩ : PollRun) =
      ⟨[c'.schedule.interval done], .stopped⟩
    rw [h.schedule]
  | succ left ih =>
    cases htakes : timer.takes (c.schedule.interval done) with
    | false =>
      have htakes' : timer.takes (c'.schedule.interval done) = false := h.schedule ▸ htakes
      rw [run_pollLoop_tooLong c _ _ _ _ htakes, run_pollLoop_tooLong c' _ _ _ _ htakes',
        h.schedule]
      exact ⟨rfl, hvw⟩
    | true =>
      have htakes' : timer.takes (c'.schedule.interval done) = true := h.schedule ▸ htakes
      obtain ⟨hresult, hleft⟩ := h.alike_pollOnce transactionId username v w hvw
      dsimp only
      rw [run_pollLoop_succ c _ _ _ _ htakes, run_pollLoop_succ c' _ _ _ _ htakes', h.schedule]
      rcases hfirst : (pollOnce c transactionId username).runFrom v with ⟨result, v'⟩
      rcases hsecond : (pollOnce c' transactionId username).runFrom w with ⟨result', w'⟩
      rw [hfirst, hsecond] at hresult hleft
      cases hresult
      rcases result with f | _ | r
      · cases hserver : f.isServer with
        | false =>
          simp only [hserver, Bool.false_eq_true, if_false]
          exact ⟨trivial, hleft⟩
        | true =>
          simp only [hserver, if_true]
          obtain ⟨hrun, hend⟩ := ih (done + 1) (h.pollFailed_parallel transactionId f hleft)
          exact ⟨congrArg (PollRun.after _) hrun, hend⟩
      · obtain ⟨hrun, hend⟩ := ih (done + 1) hleft
        exact ⟨congrArg (PollRun.after _) hrun, hend⟩
      · cases signalled with
        | true => exact ⟨rfl, hleft⟩
        | false => exact ⟨rfl, h.parallel.log hleft rfl⟩

end Twins

/-! ## Calls of the owner -/

/-- Clients at work whose conversations are related and whose pollers are the same. -/
structure Session.Twins (R : Conversation → Conversation → Prop) (s t : Session) : Prop where
  client : s.client.Twins R t.client
  conversation : R s.conversation t.conversation
  registry : s.registry = t.registry
  closings : s.closings = t.closings

namespace Session.Twins

variable {s t : Session}

theorem log (h : Session.Twins R s t) {e : Log.Event} (he : e.isDiagnostic = false) :
    Session.Twins R (s.log e) (t.log e) :=
  ⟨h.client, h.client.parallel.log h.conversation he, h.registry, h.closings⟩

theorem withRegistry (h : Session.Twins R s t) (r : Registry) :
    Session.Twins R { s with registry := r } { t with registry := r } :=
  ⟨h.client, h.conversation, rfl, h.closings⟩

theorem stopAs (h : Session.Twins R s t) (caller : Caller) :
    Session.Twins R (s.stopAs caller) (t.stopAs caller) := by
  have hstopped := h.withRegistry (t.registry.stopAll caller)
  unfold Session.stopAs
  rw [h.registry]
  dsimp only
  split
  · exact hstopped
  · exact hstopped.log rfl

theorem close (h : Session.Twins R s t) : Session.Twins R s.close t.close := by
  have hstopped := h.stopAs .owner
  unfold Session.close Session.stop
  dsimp only
  rw [hstopped.client.owns]
  split
  · exact ⟨hstopped.client, hstopped.conversation, hstopped.registry,
      congrArg (· + 1) hstopped.closings⟩
  · exact hstopped

theorem startPoller (h : Session.Twins R s t) (transactionId : Option String) :
    Session.Twins R (s.startPoller transactionId) (t.startPoller transactionId) := by
  unfold Session.startPoller
  rw [h.registry]
  exact ((h.withRegistry t.registry.register).log rfl).withRegistry _

/-- A poller ends, after its callback may have stopped all pollers. -/
theorem finish (h : Session.Twins R s t) (id : Nat) (stops : Bool) :
    let s' := if stops then s.stopAs (.poller id) else s
    let t' := if stops then t.stopAs (.poller id) else t
    Session.Twins R { s' with registry := s'.registry.finish id }
      { t' with registry := t'.registry.finish id } := by
  have hstopped : Session.Twins R (if stops then s.stopAs (.poller id) else s)
      (if stops then t.stopAs (.poller id) else t) := by
    cases stops with
    | false => exact h
    | true => exact h.stopAs (.poller id)
  dsimp only
  rw [hstopped.registry]
  exact hstopped.withRegistry _

/-- A poller that is awaited delivers the same. -/
theorem runPoller (h : Session.Twins R s t) (timer : Timer) (transactionId : Option String)
    (username : String) (callbackStops : Bool) :
    let out := s.runPoller timer transactionId username callbackStops
    let out' := t.runPoller timer transactionId username callbackStops
    out.1 = out'.1 ∧ Session.Twins R out.2 out'.2 := by
  have hstarted := h.startPoller transactionId
  have hpolled := hstarted.client.pollLoop_parallel timer transactionId username false
    ((t.startPoller transactionId).conversation.pending.length + 1) 0 hstarted.conversation
  unfold Session.runPoller
  dsimp only
  rw [hstarted.client.parallel.pending hstarted.conversation, h.registry]
  rcases hs : (pollLoop (s.startPoller transactionId).client timer transactionId username false
    ((t.startPoller transactionId).conversation.pending.length + 1) 0).run
    (s.startPoller transactionId).conversation with ⟨run, v⟩
  rcases ht : (pollLoop (t.startPoller transactionId).client timer transactionId username false
    ((t.startPoller transactionId).conversation.pending.length + 1) 0).run
    (t.startPoller transactionId).conversation with ⟨run', w⟩
  rw [hs, ht] at hpolled
  obtain ⟨hrun, hleft⟩ := hpolled
  cases hrun
  have hended : Session.Twins R { s.startPoller transactionId with conversation := v }
      { t.startPoller transactionId with conversation := w } :=
    ⟨hstarted.client, hleft, hstarted.registry, hstarted.closings⟩
  exact ⟨rfl, hended.finish t.registry.pollers.length _⟩

end Session.Twins

end Client

end SecondFactor
