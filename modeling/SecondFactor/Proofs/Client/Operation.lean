import SecondFactor.Proofs.Client.Login

/-!
# What an operation comes to

A client is used by five operations. Each calls one endpoint, except that polling without a
transaction asks nobody. `Performed` says how an operation goes: nothing is sent, or it goes as its
call does.
-/
namespace SecondFactor.Client

open Exchange (OnlyLogs)

/-- What a client can be asked to do. -/
inductive Operation
  | trigger (username : String)
  | validate (username otp : String) (transactionId : Option String)
  | poll (transactionId : Option String)
  | tokens (username : String)
  | rollout (username tokenType : String)
deriving DecidableEq, Repr

/-- What an operation gives. -/
inductive Answer
  | response (r : Response)
  | confirmed (b : Bool)
  | tokens (ts : List TokenInfo)
  | rollout (r : Rollout)
deriving DecidableEq, Repr

namespace Operation

def perform (c : Client) : Operation → Exchange Answer
  | trigger username => .response <$> c.trigger username
  | validate username otp transactionId => .response <$> c.validate username otp transactionId
  | poll transactionId => .confirmed <$> c.poll transactionId
  | tokens username => .tokens <$> c.tokens username
  | rollout username tokenType => .rollout <$> c.rollout username tokenType

/-- Whether an operation works in the name of the service account. -/
def isAdmin : Operation → Bool
  | trigger _ | tokens _ | rollout _ _ => true
  | validate _ _ _ | poll _ => false

/-- The endpoint and the fields of an operation's request. -/
def target? (c : Client) : Operation → Option (Endpoint × List (String × String))
  | trigger username => some (.triggerChallenge, c.withRealm [("user", username)])
  | validate username otp transactionId =>
    some (.validateCheck, validateFields c username otp transactionId)
  | poll transactionId =>
    (Text.given? transactionId).map fun t => (.pollTransaction, [("transaction_id", t)])
  | tokens username => some (.tokens, c.withRealm [("user", username)])
  | rollout username tokenType =>
    some (.tokenInit, c.withRealm [("user", username), ("type", tokenType), ("genkey", "1")])

/-- The requests of an operation besides a login, with the token that they carry. -/
def requests (c : Client) (authorization : Option String) (op : Operation) : List Request :=
  ((op.target? c).map fun target => c.requestTo target.1 authorization target.2).toList

/-- What an operation makes of the object that its request brings. -/
def read : Operation → Json → Answer
  | trigger _, body | validate _ _ _, body => .response (Response.ofJson body)
  | poll _, body => .confirmed (body.affirms "status" && body.affirms "value")
  | tokens _, body => .tokens (if body.affirms "status" then TokenInfo.listOf body else [])
  | rollout _ tokenType, body => .rollout (Rollout.ofJson tokenType body)

variable {c : Client} {op : Operation} {endpoint : Endpoint} {fields : List (String × String)}

theorem isAdmin_target (h : op.target? c = some (endpoint, fields)) :
    endpoint.isAdmin = op.isAdmin := by
  cases op with
  | poll transactionId =>
    obtain ⟨t, -, ht⟩ := Option.map_eq_some_iff.1 h
    cases ht
    rfl
  | _ =>
    cases h
    rfl

/-- No operation asks for a login by itself. -/
theorem target_ne_auth (h : op.target? c = some (endpoint, fields)) : endpoint ≠ .auth := by
  cases op with
  | poll transactionId =>
    obtain ⟨t, -, ht⟩ := Option.map_eq_some_iff.1 h
    cases ht
    simp
  | _ =>
    cases h
    simp

/-- What is asked in the name of the service account is asked in any case. -/
theorem isAdmin_of_no_target (h : op.target? c = none) : op.isAdmin = false := by
  cases op with
  | poll transactionId => rfl
  | _ => cases h

/-- Without a transaction nothing is polled, and nothing was confirmed. -/
theorem perform_of_no_target (h : op.target? c = none) :
    OnlyLogs (op.perform c) (.ok (.confirmed false)) := by
  cases op with
  | poll transactionId =>
    have hgiven : Text.given? transactionId = none := Option.map_eq_none_iff.1 h
    simp only [perform, Client.poll, hgiven]
    exact ((OnlyLogs.diagnose c _).bind (.pure false)).map Answer.confirmed
  | _ => cases h

/-- An operation calls its endpoint, and the answer goes to work that only logs. -/
theorem perform_eq_call (h : op.target? c = some (endpoint, fields)) :
    ∃ post : Json → Exchange Answer, op.perform c = call c endpoint fields >>= post ∧
      ∀ body, OnlyLogs (post body) (.ok (op.read body)) := by
  cases op with
  | trigger username =>
    cases h
    refine ⟨_, map_bind _ _ _, fun body => ?_⟩
    exact (onlyLogs_responseOf c .triggerChallenge body).map Answer.response
  | validate username otp transactionId =>
    cases h
    refine ⟨_, map_bind _ _ _, fun body => ?_⟩
    exact (onlyLogs_responseOf c .validateCheck body).map Answer.response
  | poll transactionId =>
    obtain ⟨t, hgiven, ht⟩ := Option.map_eq_some_iff.1 h
    cases ht
    simp only [perform, Client.poll, hgiven]
    refine ⟨_, map_bind _ _ _, fun body => ?_⟩
    refine OnlyLogs.map Answer.confirmed ((onlyLogs_responseOf c .pollTransaction body).bind ?_)
    simpa using OnlyLogs.pure _
  | tokens username =>
    cases h
    refine ⟨_, map_bind _ _ _, fun body => ?_⟩
    exact (onlyLogs_listing c body).map Answer.tokens
  | rollout username tokenType =>
    cases h
    refine ⟨_, map_bind _ _ _, fun body => ?_⟩
    exact (onlyLogs_enrolled c username tokenType body).map Answer.rollout

end Operation

/-! ## How an operation goes -/

/-- How an operation leads from `v` to `w`, and what it gives. -/
inductive Performed (c : Client) (op : Operation) (v w : Conversation) :
    Except Fault Answer → Prop
  /-- There is no transaction to be polled. -/
  | silent (h : op.target? c = none) (traffic : v.Extends w []) (keeps : w.token = v.token) :
      Performed c op v w (.ok (.confirmed false))
  | called {endpoint : Endpoint} {fields : List (String × String)} {result : Except Fault Json}
      (h : op.target? c = some (endpoint, fields)) (call : Called c endpoint fields v w result) :
      Performed c op v w (result.map op.read)

theorem Performed.traffic {op : Operation} {v w : Conversation} {result : Except Fault Answer}
    (h : Performed c op v w result) : ∃ sent, v.Extends w sent := by
  cases h with
  | silent h traffic keeps => exact ⟨_, traffic⟩
  | called h call => exact call.traffic

/-- An operation of the service account calls an endpoint. -/
theorem Performed.called_of_isAdmin {op : Operation} {v w : Conversation}
    {result : Except Fault Answer} (h : Performed c op v w result) (hadmin : op.isAdmin = true) :
    ∃ endpoint fields answer, op.target? c = some (endpoint, fields) ∧
      endpoint.isAdmin = true ∧ result = answer.map op.read ∧
      Called c endpoint fields v w answer := by
  cases h with
  | silent hnone traffic keeps => simp [Operation.isAdmin_of_no_target hnone] at hadmin
  | @called endpoint fields answer htarget call =>
    have hendpoint := (Operation.isAdmin_target htarget).trans hadmin
    exact ⟨endpoint, fields, answer, htarget, hendpoint, rfl, call⟩

theorem performed (c : Client) (op : Operation) (v : Conversation) :
    Performed c op v ((op.perform c).runFrom v).2 ((op.perform c).runFrom v).1 := by
  cases h : op.target? c with
  | none =>
    obtain ⟨es, hes⟩ := Operation.perform_of_no_target h v
    rw [hes]
    exact .silent h ((Conversation.Extends.refl v).log es) rfl
  | some target =>
    obtain ⟨endpoint, fields⟩ := target
    obtain ⟨post, hperform, hpost⟩ := Operation.perform_eq_call h
    obtain ⟨es, hes⟩ := Exchange.runFrom_bind_onlyLogs (x := call c endpoint fields) hpost v
    rw [hperform, hes]
    exact .called h ((called_call c endpoint fields v).log es)

end SecondFactor.Client
