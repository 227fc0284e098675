import SecondFactor.Proofs.Client.Twins

/-!
# Secrets in the traffic of a client

A client knows two secrets: the password of the service account and the passcodes of the users. Two
runs that differ in these alone are followed side by side. They come to the same, log the same and
keep the same token, and their requests are the same but for two fields: the password of a login and
the passcode of a validation.
-/
namespace SecondFactor

/-! ## Requests without their secrets -/

/-- Both texts count as given, or neither does. -/
def Text.GivenAlike (o o' : Option String) : Prop := (given? o).isSome = (given? o').isSome

/-- The field of a request that holds a secret. -/
def Endpoint.secretField? : Endpoint → Option String
  | .auth => some "password"
  | .validateCheck => some "pass"
  | .triggerChallenge | .pollTransaction | .tokens | .tokenInit => none

/-- A request with its secret left out. -/
def Request.masked (q : Request) : Request :=
  { q with
    fields := q.fields.map fun f => if q.endpoint.secretField? = some f.1 then (f.1, "") else f }

/-- Conversations that differ in the secrets of their requests alone. -/
structure Conversation.Alike (v w : Conversation) : Prop where
  pending : v.pending = w.pending
  requests : v.requests.map Request.masked = w.requests.map Request.masked
  events : v.events = w.events
  token : v.token = w.token

theorem Conversation.Alike.refl (v : Conversation) : v.Alike v := ⟨rfl, rfl, rfl, rfl⟩

theorem Conversation.parallel_alike : Conversation.Parallel Conversation.Alike where
  pending h := h.pending
  token h := h.token
  keep h _ := ⟨h.pending, h.requests, h.events, rfl⟩
  log h _ _ := ⟨h.pending, h.requests, by simp [Conversation.log, h.events], h.token⟩

namespace Exchange

variable {α : Type}

/-- Two exchanges that differ in the secrets of their requests alone. -/
abbrev Alike (x y : Exchange α) : Prop := Work.Alike Conversation.Alike x y

theorem alike_reply {q r : Request} (h : q.masked = r.masked) : Alike (reply q) (reply r) := by
  intro v w hvw
  rw [runFrom_reply, runFrom_reply, hvw.pending]
  exact ⟨rfl, by simp [hvw.pending], by simp [hvw.requests, h], hvw.events, hvw.token⟩

end Exchange

namespace Client

/-- The client with another password of the service account. -/
def withPassword (c : Client) (password : Option String) : Client :=
  { c with account := { c.account with password } }

variable {c : Client} {password : Option String}

/-- The account is complete with both passwords, or with neither. -/
theorem credentials?_withPassword (h : Text.GivenAlike c.account.password password) :
    c.credentials? = none ∧ (c.withPassword password).credentials? = none ∨
      ∃ name secret secret', c.credentials? = some (name, secret) ∧
        (c.withPassword password).credentials? = some (name, secret') := by
  unfold credentials? withPassword
  cases Text.given? c.account.name with
  | none => exact .inl ⟨rfl, rfl⟩
  | some name =>
    unfold Text.GivenAlike at h
    cases hsecret : Text.given? c.account.password <;> cases hsecret' : Text.given? password <;>
      simp_all

/-- The password shows in the request alone. -/
theorem masked_login (c : Client) (name secret secret' : String) :
    (c.requestTo .auth none (loginFields c name secret)).masked =
      (c.requestTo .auth none (loginFields c name secret')).masked := by
  simp [Request.masked, requestTo, loginFields, Endpoint.secretField?]

theorem masked_validate (c : Client) (username otp otp' : String) (transactionId : Option String)
    (authorization : Option String) :
    (c.requestTo .validateCheck authorization (validateFields c username otp transactionId)).masked =
      (c.requestTo .validateCheck authorization
        (validateFields c username otp' transactionId)).masked := by
  rw [validateFields, validateFields, withRealm_eq, withRealm_eq]
  simp [Request.masked, requestTo, Endpoint.secretField?]

/-- Another password changes nothing but the requests of logins. -/
theorem twins_withPassword (h : Text.GivenAlike c.account.password password) :
    c.Twins Conversation.Alike (c.withPassword password) where
  parallel := Conversation.parallel_alike
  realm := rfl
  schedule := rfl
  owns := rfl
  diagnose e _ v w hvw :=
    ⟨hvw.pending, hvw.requests, by simp [Conversation.log, hvw.events, withPassword], hvw.token⟩
  ask _ _ _ := Exchange.alike_reply rfl
  login := by
    refine (credentials?_withPassword h).imp id ?_
    rintro ⟨name, secret, secret', hsome, hsome'⟩
    exact ⟨name, secret, secret', hsome, hsome',
      Exchange.alike_reply (masked_login c name secret secret')⟩

/-- Another password and another passcode change nothing but the requests that hold them. -/
theorem alike_validate (h : Text.GivenAlike c.account.password password) (username otp otp' : String)
    (transactionId : Option String) :
    Exchange.Alike (validate c username otp transactionId)
      (validate (c.withPassword password) username otp' transactionId) :=
  (twins_withPassword h).alike_validate fun authorization =>
    Exchange.alike_reply (masked_validate c username otp otp' transactionId authorization)

end Client

end SecondFactor
