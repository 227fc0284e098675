import SecondFactor.Client.Operations
import SecondFactor.Proofs.Server.Affirmation

/-!
# Traffic of the client

Every request takes the next reply, if one is left. What passed between two conversations is the
list of the requests sent on the way, each beside the reply that it took. An operation of the
client sends one request; in the name of the service account a login may come before it, and only
while there is no token. The specification of an operation says which request it sends and what
it makes of the reply; events are left out of it.
-/
namespace SecondFactor

/-- What passed: requests, each beside the reply that it took, if there was one. -/
abbrev Dialogue := List (Request × Option Reply)

namespace Dialogue

/-- The response to the first request to an endpoint, if an object came back. -/
def responseTo (endpoint : Endpoint) (xs : Dialogue) : Option Response :=
  (xs.find? (·.1.endpoint = endpoint)).bind fun x => (x.2.bind Reply.object?).map Response.ofJson

theorem responseTo_cons {endpoint : Endpoint} {q : Request} (h : q.endpoint = endpoint)
    (r : Option Reply) (xs : Dialogue) :
    responseTo endpoint ((q, r) :: xs) = (r.bind Reply.object?).map Response.ofJson := by
  simp [responseTo, h]

/-- What goes to other endpoints beforehand does not count. -/
theorem responseTo_append_right {endpoint : Endpoint} {xs : Dialogue}
    (h : ∀ x ∈ xs, x.1.endpoint ≠ endpoint) (ys : Dialogue) :
    responseTo endpoint (xs ++ ys) = responseTo endpoint ys := by
  have hnone : xs.find? (·.1.endpoint = endpoint) = none := by
    simpa [List.find?_eq_none] using h
  simp [responseTo, List.find?_append, hnone]

/-- What goes to other endpoints afterwards does not count. -/
theorem responseTo_append_left {endpoint : Endpoint} {ys : Dialogue}
    (h : ∀ y ∈ ys, y.1.endpoint ≠ endpoint) (xs : Dialogue) :
    responseTo endpoint (xs ++ ys) = responseTo endpoint xs := by
  have hnone : ys.find? (·.1.endpoint = endpoint) = none := by
    simpa [List.find?_eq_none] using h
  simp [responseTo, List.find?_append, hnone]

end Dialogue

namespace Conversation

variable {u v w : Conversation} {sent more : List Request}

/-- Sends a request, which takes the next reply. -/
def ask (v : Conversation) (r : Request) : Conversation :=
  { v with requests := v.requests ++ [r], pending := v.pending.tail }

@[simp] theorem requests_ask (v : Conversation) (r : Request) :
    (v.ask r).requests = v.requests ++ [r] := rfl

@[simp] theorem pending_ask (v : Conversation) (r : Request) :
    (v.ask r).pending = v.pending.tail := rfl

@[simp] theorem token_ask (v : Conversation) (r : Request) : (v.ask r).token = v.token := rfl

@[simp] theorem requests_log (v : Conversation) (es : List Log.Event) :
    (v.log es).requests = v.requests := rfl

@[simp] theorem pending_log (v : Conversation) (es : List Log.Event) :
    (v.log es).pending = v.pending := rfl

@[simp] theorem token_log (v : Conversation) (es : List Log.Event) :
    (v.log es).token = v.token := rfl

@[simp] theorem log_nil (v : Conversation) : v.log [] = v := by simp [log]

theorem log_log (v : Conversation) (es fs : List Log.Event) :
    (v.log es).log fs = v.log (es ++ fs) := by simp [log]

/-- From `v` to `w` exactly the requests `sent` go out, and each takes the next reply. -/
structure Extends (v w : Conversation) (sent : List Request) : Prop where
  requests : w.requests = v.requests ++ sent
  pending : w.pending = v.pending.drop sent.length

namespace Extends

theorem refl (v : Conversation) : v.Extends v [] := ⟨by simp, by simp⟩

theorem ask (v : Conversation) (r : Request) : v.Extends (v.ask r) [r] := ⟨rfl, by simp⟩

/-- Events are no traffic. -/
theorem log (h : v.Extends w sent) (es : List Log.Event) : v.Extends (w.log es) sent :=
  ⟨h.requests, h.pending⟩

theorem trans (h : u.Extends v sent) (h' : v.Extends w more) : u.Extends w (sent ++ more) := by
  refine ⟨?_, ?_⟩
  · rw [h'.requests, h.requests, List.append_assoc]
  · rw [h'.pending, h.pending, List.drop_drop, List.length_append]

end Extends

/-- Requests beside the replies that they take, as far as there are replies. -/
def paired : List Request → List Reply → Dialogue
  | [], _ => []
  | q :: qs, rs => (q, rs.head?) :: paired qs rs.tail

theorem paired_append (qs qs' : List Request) (rs : List Reply) :
    paired (qs ++ qs') rs = paired qs rs ++ paired qs' (rs.drop qs.length) := by
  induction qs generalizing rs with
  | nil => simp [paired]
  | cons q qs ih => simp [paired, ih]

theorem map_fst_paired (qs : List Request) (rs : List Reply) :
    (paired qs rs).map Prod.fst = qs := by
  induction qs generalizing rs with
  | nil => rfl
  | cons q qs ih => simp [paired, ih]

theorem fst_mem_of_mem_paired {x : Request × Option Reply} {qs : List Request} {rs : List Reply}
    (h : x ∈ paired qs rs) : x.1 ∈ qs := by
  have hmap := List.mem_map_of_mem (f := Prod.fst) h
  rwa [map_fst_paired] at hmap

/-- What passed between two conversations: the requests, each beside its reply. -/
def dialogue (v w : Conversation) : Dialogue :=
  paired (w.requests.drop v.requests.length) v.pending

@[simp] theorem dialogue_self (v : Conversation) : v.dialogue v = [] := by simp [dialogue, paired]

@[simp] theorem dialogue_log (v w : Conversation) (es : List Log.Event) :
    v.dialogue (w.log es) = v.dialogue w := rfl

theorem Extends.dialogue_eq (h : v.Extends w sent) : v.dialogue w = paired sent v.pending := by
  rw [dialogue, h.requests, List.drop_left]

/-- What passed on the way from `u` to `w` passed before `v` or after it. -/
theorem Extends.dialogue_append (h : u.Extends v sent) (h' : v.Extends w more) :
    u.dialogue w = u.dialogue v ++ v.dialogue w := by
  rw [(h.trans h').dialogue_eq, h.dialogue_eq, h'.dialogue_eq, paired_append, h.pending]

end Conversation

namespace Exchange

variable {α β : Type}

/-- Work that comes to a result and does nothing else than log. -/
def OnlyLogs (x : Exchange α) (result : Except Fault α) : Prop :=
  ∀ v, ∃ es, x.runFrom v = (result, v.log es)

namespace OnlyLogs

theorem pure (a : α) : OnlyLogs (Pure.pure a) (.ok a) := fun _ => ⟨[], by simp⟩

theorem throw (f : Fault) : OnlyLogs (MonadExcept.throw f : Exchange α) (.error f) :=
  fun _ => ⟨[], by simp⟩

theorem log (e : Log.Event) : OnlyLogs (Exchange.log e) (.ok ⟨⟩) := fun _ => ⟨[e], rfl⟩

theorem diagnose (c : Client) (e : Log.Event) : OnlyLogs (Exchange.diagnose c e) (.ok ⟨⟩) :=
  fun _ => ⟨e.gated c.logging, rfl⟩

theorem bind {x : Exchange α} {post : α → Exchange β} {a : α} {result : Except Fault β}
    (hx : OnlyLogs x (.ok a)) (hpost : OnlyLogs (post a) result) :
    OnlyLogs (x >>= post) result := by
  intro v
  obtain ⟨es, hes⟩ := hx v
  obtain ⟨fs, hfs⟩ := hpost (v.log es)
  refine ⟨es ++ fs, ?_⟩
  rw [Work.runFrom_bind, hes, ← Conversation.log_log]
  exact hfs

theorem map {x : Exchange α} {a : α} (g : α → β) (h : OnlyLogs x (.ok a)) :
    OnlyLogs (g <$> x) (.ok (g a)) := by
  rw [← bind_pure_comp]
  exact h.bind (.pure (g a))

end OnlyLogs

/-- Work that only logs leaves the traffic of the work before it as it is. -/
theorem runFrom_bind_onlyLogs {x : Exchange α} {post : α → Exchange β} {g : α → β}
    (h : ∀ a, OnlyLogs (post a) (.ok (g a))) (v : Conversation) :
    ∃ es, (x >>= post).runFrom v = ((x.runFrom v).1.map g, (x.runFrom v).2.log es) := by
  rw [Work.runFrom_bind]
  rcases x.runFrom v with ⟨f | a, w⟩
  · exact ⟨[], by simp [Except.map]⟩
  · obtain ⟨es, hes⟩ := h a w
    exact ⟨es, hes⟩

theorem runFrom_reply (r : Request) (v : Conversation) :
    (reply r).runFrom v = (v.pending.head?.elim (.error .noReplyLeft) .ok, v.ask r) := by
  cases h : v.pending with
  | nil => rw [runFrom_reply_nil r h]; simp [Conversation.send, Conversation.ask, h]
  | cons first rest => rw [runFrom_reply_cons r h]; simp [Conversation.send, Conversation.ask, h]

end Exchange

namespace Client

open Exchange (OnlyLogs)

variable {α : Type}

@[simp] theorem endpoint_requestTo (c : Client) (endpoint : Endpoint)
    (authorization : Option String) (fields : List (String × String)) :
    (c.requestTo endpoint authorization fields).endpoint = endpoint := rfl

@[simp] theorem authorization_requestTo (c : Client) (endpoint : Endpoint)
    (authorization : Option String) (fields : List (String × String)) :
    (c.requestTo endpoint authorization fields).authorization = authorization := rfl

/-- The object that a request to an endpoint gets from the reply it takes, or why it gets none. -/
def answered (endpoint : Endpoint) : Option Reply → Except Fault Json
  | none => .error .noReplyLeft
  | some r => r.read endpoint

theorem answered_eq_ok_iff {endpoint : Endpoint} {r : Option Reply} {body : Json} :
    answered endpoint r = .ok body ↔ r.bind Reply.object? = some body := by
  cases r with
  | none => simp [answered]
  | some r => exact Reply.read_eq_ok_iff

theorem object?_of_answered {endpoint : Endpoint} {r : Option Reply} {f : Fault}
    (h : answered endpoint r = .error f) : r.bind Reply.object? = none := by
  cases hobject : r.bind Reply.object? with
  | none => rfl
  | some body =>
    rw [answered_eq_ok_iff.2 hobject] at h
    cases h

theorem any_affirms_of_answered {endpoint : Endpoint} {r : Option Reply} {body : Json}
    (h : answered endpoint r = .ok body) (key : String) :
    r.any (·.affirms key) = body.affirms key := by
  obtain ⟨reply, rfl, hbody⟩ := Option.bind_eq_some_iff.1 (answered_eq_ok_iff.1 h)
  simp [Reply.affirms, hbody]

theorem any_affirms_of_failed {endpoint : Endpoint} {r : Option Reply} {f : Fault}
    (h : answered endpoint r = .error f) (key : String) : r.any (·.affirms key) = false := by
  cases r with
  | none => rfl
  | some reply =>
    have hobject : reply.object? = none := object?_of_answered h
    simp [Reply.affirms, hobject]

/-- A request without an object fails with the connection, or with what nothing handles. -/
theorem category_of_answered {endpoint : Endpoint} {r : Option Reply} {f : Fault}
    (h : answered endpoint r = .error f) :
    f.category = .connection ∨ ∃ kind, f.category = .foreign kind := by
  cases r with
  | none =>
    cases h
    exact .inr ⟨_, rfl⟩
  | some r =>
    change r.read endpoint = .error f at h
    unfold Reply.read at h
    split at h <;> cases h
    · exact .inl rfl
    · exact .inr ⟨_, rfl⟩
    · exact .inr ⟨_, rfl⟩
    · exact .inl rfl
    · exact .inl rfl

theorem onlyLogs_receive (c : Client) (endpoint : Endpoint) (r : Reply) :
    OnlyLogs (receive c endpoint r) (r.read endpoint) := by
  cases r with
  | lost kind message => exact (OnlyLogs.log _).bind ((OnlyLogs.diagnose c _).bind (.throw _))
  | crashed kind message => exact .throw _
  | answer status body =>
    refine (OnlyLogs.log _).bind ((OnlyLogs.diagnose c _).bind ?_)
    rcases body with e | j
    · cases e with
      | tooDeep inner => exact .throw _
      | malformed => exact (OnlyLogs.diagnose c _).bind (.throw _)
      | numberTooLong => exact (OnlyLogs.diagnose c _).bind (.throw _)
    · cases j with
      | object es => exact .pure _
      | _ => exact .throw _

/-- One request goes out, and what it gives is decided by the reply that it takes. -/
theorem runFrom_send (c : Client) (endpoint : Endpoint) (authorization : Option String)
    (fields : List (String × String)) (v : Conversation) :
    ∃ es, (send c endpoint authorization fields).runFrom v =
      (answered endpoint v.pending.head?,
        (v.ask (c.requestTo endpoint authorization fields)).log es) := by
  rw [send, Work.runFrom_bind, Exchange.runFrom_reply]
  cases v.pending.head? with
  | none => exact ⟨[], by simp [answered]⟩
  | some r => exact onlyLogs_receive c endpoint r _

theorem onlyLogs_responseOf (c : Client) (endpoint : Endpoint) (body : Json) :
    OnlyLogs (responseOf c endpoint body) (.ok (Response.ofJson body)) := by
  unfold responseOf
  cases h : (Response.ofJson body).isError with
  | false => simpa [h] using OnlyLogs.pure (Response.ofJson body)
  | true =>
    simp only [h, if_true]
    exact (OnlyLogs.log _).bind ((OnlyLogs.diagnose c _).bind (.pure _))

/-! ## Requests without a login -/

/-- The user's realm as a field of a request, if there is one. -/
def realmField (c : Client) : List (String × String) :=
  ((Text.given? c.realm).map fun realm => ("realm", realm)).toList

theorem withRealm_eq (c : Client) (fields : List (String × String)) :
    c.withRealm fields = fields ++ c.realmField := by
  unfold withRealm realmField
  cases Text.given? c.realm <;> simp

/-- The request that validates a passcode. -/
def passcodeRequest (c : Client) (username otp : String) : Request :=
  c.requestTo .validateCheck none ([("user", username), ("pass", otp)] ++ c.realmField)

/-- The request that asks whether a transaction was confirmed on the device. -/
def pollRequest (c : Client) (transaction : String) : Request :=
  c.requestTo .pollTransaction none [("transaction_id", transaction)]

/-- The request that finishes a transaction which was confirmed: a validation without a
passcode. -/
def finishRequest (c : Client) (username transaction : String) : Request :=
  c.requestTo .validateCheck none
    ([("user", username), ("pass", "")] ++ c.realmField ++ [("transaction_id", transaction)])

/-- A call without a login is one request, and its answer goes to work that only logs. -/
theorem runFrom_call_bind (c : Client) {endpoint : Endpoint} (h : endpoint.isAdmin = false)
    (fields : List (String × String)) {post : Json → Exchange α} {g : Json → α}
    (hpost : ∀ body, OnlyLogs (post body) (.ok (g body))) (v : Conversation) :
    ∃ es, (call c endpoint fields >>= post).runFrom v =
      ((answered endpoint v.pending.head?).map g,
        (v.ask (c.requestTo endpoint none fields)).log es) := by
  have hcall : call c endpoint fields = send c endpoint none fields := by simp [call, h]
  obtain ⟨es, hes⟩ := runFrom_send c endpoint none fields v
  obtain ⟨fs, hfs⟩ := Exchange.runFrom_bind_onlyLogs (x := send c endpoint none fields) hpost v
  refine ⟨es ++ fs, ?_⟩
  rw [hcall, hfs, hes, Conversation.log_log]

theorem runFrom_validate_passcode (c : Client) (username otp : String) (v : Conversation) :
    ∃ es, (validate c username otp none).runFrom v =
      ((answered .validateCheck v.pending.head?).map Response.ofJson,
        (v.ask (c.passcodeRequest username otp)).log es) := by
  have hfields : validateFields c username otp none =
      [("user", username), ("pass", otp)] ++ c.realmField := by
    simp [validateFields, withRealm_eq]
  rw [validate, hfields]
  exact runFrom_call_bind c rfl _ (onlyLogs_responseOf c .validateCheck) v

theorem runFrom_validate_transaction (c : Client) (username : String) {transaction : String}
    (h : transaction ≠ "") (v : Conversation) :
    ∃ es, (validate c username "" (some transaction)).runFrom v =
      ((answered .validateCheck v.pending.head?).map Response.ofJson,
        (v.ask (c.finishRequest username transaction)).log es) := by
  have hgiven : Text.given? (some transaction) = some transaction :=
    Text.given?_eq_some_iff.2 ⟨rfl, h⟩
  have hfields : validateFields c username "" (some transaction) =
      [("user", username), ("pass", "")] ++ c.realmField ++ [("transaction_id", transaction)] := by
    simp [validateFields, withRealm_eq, hgiven]
  rw [validate, hfields]
  exact runFrom_call_bind c rfl _ (onlyLogs_responseOf c .validateCheck) v

/-- A poll confirms a transaction exactly when the reply affirms both flags. -/
theorem runFrom_poll (c : Client) {transaction : String} (h : transaction ≠ "")
    (v : Conversation) :
    ∃ es, (poll c (some transaction)).runFrom v =
      ((answered .pollTransaction v.pending.head?).map fun body =>
          body.affirms "status" && body.affirms "value",
        (v.ask (c.pollRequest transaction)).log es) := by
  have hgiven : Text.given? (some transaction) = some transaction :=
    Text.given?_eq_some_iff.2 ⟨rfl, h⟩
  have hpost : ∀ body, OnlyLogs
      (do let r ← responseOf c .pollTransaction body; return r.status && r.value)
      (.ok (body.affirms "status" && body.affirms "value")) := fun body =>
    (onlyLogs_responseOf c .pollTransaction body).bind (by simpa using OnlyLogs.pure _)
  simp only [poll, hgiven]
  exact runFrom_call_bind c rfl _ hpost v

end Client

end SecondFactor
