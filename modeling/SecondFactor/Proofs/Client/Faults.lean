import SecondFactor.Proofs.Client.Operation

/-!
# When an operation fails

Whether an operation fails, and with what, can be read off what passed during it. The server is at
fault where a reply brings no object, the configuration where a login is needed and the account is
not complete, the account where the answer to a login grants no token. Everything else is returned,
whatever the object is that came: what is taken for granted about it holds.
-/
namespace SecondFactor

namespace Reply

/-- Whether a request got nothing that can be used: the transport failed, or the body is no JSON,
or it is JSON but no object. -/
def isUnusable : Reply → Bool
  | lost _ _ => true
  | answer _ (.error (.tooDeep _)) => false
  | answer _ (.error _) => true
  | answer _ (.ok j) => !j.isObject
  | crashed _ _ => false

/-- Whether a request failed in a way that is not the server's and that nothing handles. -/
def isForeign : Reply → Bool
  | crashed _ _ | answer _ (.error (.tooDeep _)) => true
  | _ => false

theorem fault_of_read {endpoint : Endpoint} {r : Reply} {f : Fault}
    (h : r.read endpoint = .error f) :
    r.isUnusable = true ∧ f.category = .connection ∧ f.endpoint? = some endpoint ∨
      r.isUnusable = false ∧ r.isForeign = true ∧ ∃ kind, f.category = .foreign kind := by
  cases r with
  | lost kind message =>
    cases h
    exact .inl ⟨rfl, rfl, rfl⟩
  | crashed kind message =>
    cases h
    exact .inr ⟨rfl, rfl, _, rfl⟩
  | answer status body =>
    cases body with
    | error e =>
      cases e with
      | tooDeep inner =>
        cases h
        exact .inr ⟨rfl, rfl, _, rfl⟩
      | _ =>
        cases h
        exact .inl ⟨rfl, rfl, rfl⟩
    | ok j =>
      cases j with
      | object es => cases h
      | _ =>
        cases h
        exact .inl ⟨rfl, rfl, rfl⟩

theorem not_isUnusable_of_object {r : Reply} {body : Json} (h : r.object? = some body) :
    r.isUnusable = false := by
  unfold object? at h
  split at h
  · rfl
  · cases h

end Reply

namespace Client

variable {c : Client} {op : Operation} {v : Conversation} {xs : Dialogue} {f : Fault}
  {result : Except Fault Answer} {x : Request × Option Reply}

/-- An operation of the service account that finds no token, and an account without a name or
without a password. -/
def Lacking (c : Client) (op : Operation) (v : Conversation) : Prop :=
  op.isAdmin = true ∧ v.token = none ∧
    (Text.given? c.account.name = none ∨ Text.given? c.account.password = none)

/-- A request got an object, and one that grants a token if it was a login. -/
def Brought (x : Request × Option Reply) : Prop :=
  ∃ body, x.2.bind Reply.object? = some body ∧ (x.1.endpoint = .auth → ∃ token, Grants body token)

/-- A login got an object that grants no token. -/
def Refused (x : Request × Option Reply) : Prop :=
  x.1.endpoint = .auth ∧
    ∃ body, x.2.bind Reply.object? = some body ∧ ¬ ∃ token, Grants body token

/-- How an operation that starts at `v` ends, told by what passes: either nothing does, or it is
the last request that decides. -/
inductive Verdict (c : Client) (op : Operation) (v : Conversation) :
    Dialogue → Except Fault Answer → Prop
  | noAccount (lacking : Lacking c op v) : Verdict c op v [] (.error .noServiceAccount)
  | silent (equipped : ¬ Lacking c op v) (h : op.target? c = none) :
    Verdict c op v [] (.ok (.confirmed false))
  | stuck (front : Dialogue) {q : Request} {r : Option Reply} {f : Fault}
      (equipped : ¬ Lacking c op v) (before : ∀ x ∈ front, Brought x)
      (fault : answered q.endpoint r = .error f) :
      Verdict c op v (front ++ [(q, r)]) (.error f)
  | refused {q : Request} {r : Option Reply} {reason : String} (equipped : ¬ Lacking c op v)
      (refuses : Refused (q, r)) : Verdict c op v [(q, r)] (.error (.loginRefused reason))
  | gave (front : Dialogue) {q : Request} {r : Option Reply} {body : Json}
      (equipped : ¬ Lacking c op v) (before : ∀ x ∈ front, Brought x)
      (asks : op.target? c = some (q.endpoint, q.fields))
      (brings : r.bind Reply.object? = some body) :
      Verdict c op v (front ++ [(q, r)]) (.ok (op.read body))

theorem verdict_of_answered (front : Dialogue) {q : Request} {r : Option Reply}
    (equipped : ¬ Lacking c op v) (before : ∀ x ∈ front, Brought x)
    (asks : op.target? c = some (q.endpoint, q.fields)) :
    Verdict c op v (front ++ [(q, r)]) ((answered q.endpoint r).map op.read) := by
  cases hanswer : answered q.endpoint r with
  | error f => exact .stuck front equipped before hanswer
  | ok body => exact .gave front equipped before asks (answered_eq_ok_iff.1 hanswer)

/-- A login that gives no token got no object, or was refused. -/
theorem verdict_of_loginAnswer {q : Request} {r : Option Reply} (equipped : ¬ Lacking c op v)
    (hq : q.endpoint = .auth) (h : loginAnswer r = .error f) :
    Verdict c op v [(q, r)] (.error f) := by
  have refuses : ¬ ∃ token, loginAnswer r = .ok token := by simp [h]
  unfold loginAnswer at h
  split at h
  · next g hg =>
    cases h
    exact .stuck [] equipped (by simp) (hq ▸ hg)
  · next body hbody =>
    split at h
    · next htoken =>
      cases h
      have hobject := answered_eq_ok_iff.1 hbody
      refine .refused equipped ⟨hq, body, hobject, ?_⟩
      rintro ⟨token, grants⟩
      exact refuses ⟨token, loginAnswer_eq_ok_iff.2 ⟨body, hobject, grants⟩⟩
    · cases h

theorem verdict_of_performed {w : Conversation} (h : Performed c op v w result) :
    Verdict c op v (v.dialogue w) result := by
  cases h with
  | silent hnone traffic keeps =>
    rw [traffic.dialogue_eq]
    refine .silent (fun lacking => ?_) hnone
    simp [Lacking, Operation.isAdmin_of_no_target hnone] at lacking
  | @called endpoint fields answer htarget hcall =>
    have hadminop := Operation.isAdmin_target htarget
    cases hcall with
    | plain hadmin traffic keeps =>
      rw [traffic.dialogue_eq]
      refine verdict_of_answered [] (fun lacking => ?_) (by simp) htarget
      simp [lacking.1, hadmin] at hadminop
    | @kept token hadmin found traffic keeps =>
      rw [traffic.dialogue_eq]
      refine verdict_of_answered [] (fun lacking => ?_) (by simp) htarget
      simp [lacking.2.1] at found
    | noAccount hadmin found account traffic keeps =>
      rw [traffic.dialogue_eq]
      exact .noAccount ⟨hadminop ▸ hadmin, found, credentials?_eq_none_iff.1 account⟩
    | @loginFailed name password f hadmin found account failed traffic keeps =>
      rw [traffic.dialogue_eq]
      refine verdict_of_loginAnswer (fun lacking => ?_) rfl failed
      rw [credentials?_eq_none_iff.2 lacking.2.2] at account
      cases account
    | @loggedIn name password token hadmin found account granted traffic keeps =>
      rw [traffic.dialogue_eq]
      refine verdict_of_answered [(c.loginRequest name password, v.pending.head?)]
        (fun lacking => ?_) ?_ htarget
      · rw [credentials?_eq_none_iff.2 lacking.2.2] at account
        cases account
      · rintro x hx
        rw [List.mem_singleton.1 hx]
        obtain ⟨body, hbody, grants⟩ := loginAnswer_eq_ok_iff.1 granted
        exact ⟨body, hbody, fun _ => ⟨token, grants⟩⟩

/-! ## The faults of an operation -/

theorem fault_of_answered {endpoint : Endpoint} {r : Option Reply}
    (h : answered endpoint r = .error f) :
    r.any Reply.isUnusable = true ∧ f.category = .connection ∧ f.endpoint? = some endpoint ∨
      r.any Reply.isUnusable = false ∧ r.all Reply.isForeign = true ∧
        ∃ kind, f.category = .foreign kind := by
  cases r with
  | none =>
    cases h
    exact .inr ⟨rfl, rfl, _, rfl⟩
  | some r => exact Reply.fault_of_read h

/-- A request that gets no object says nothing about the account. -/
theorem category_ne_of_answered {endpoint : Endpoint} {r : Option Reply}
    (h : answered endpoint r = .error f) : f.category ≠ .configuration ∧ f.category ≠ .login := by
  rcases category_of_answered h with hf | ⟨kind, hf⟩ <;> simp [hf]

theorem not_unchecked_of_answered {endpoint : Endpoint} {r : Option Reply}
    (h : answered endpoint r = .error f) :
    (∀ key, f ≠ .memberMissing key) ∧ ∀ kind, f ≠ .noMembers kind := by
  cases r with
  | none =>
    cases h
    simp
  | some r =>
    change r.read endpoint = .error f at h
    unfold Reply.read at h
    split at h <;> cases h <;> simp

namespace Brought

theorem not_unusable (h : Brought x) : x.2.any Reply.isUnusable = false := by
  obtain ⟨body, hbody, -⟩ := h
  obtain ⟨r, hr, hbody⟩ := Option.bind_eq_some_iff.1 hbody
  simp [hr, Reply.not_isUnusable_of_object hbody]

theorem not_refused (h : Brought x) : ¬ Refused x := by
  rintro ⟨auth, body, hbody, refuses⟩
  obtain ⟨body', hbody', grants⟩ := h
  rw [hbody] at hbody'
  cases hbody'
  exact refuses (grants auth)

end Brought

theorem Refused.not_unusable (h : Refused x) : x.2.any Reply.isUnusable = false := by
  obtain ⟨-, body, hbody, -⟩ := h
  obtain ⟨r, hr, hbody⟩ := Option.bind_eq_some_iff.1 hbody
  simp [hr, Reply.not_isUnusable_of_object hbody]

namespace Verdict

theorem brought_of_ok {a : Answer} (h : Verdict c op v xs (.ok a)) : ∀ x ∈ xs, Brought x := by
  cases h with
  | silent equipped hnone => simp
  | @gave front q r body equipped before asks brings =>
    intro x hx
    rcases List.mem_append.1 hx with hx | hx
    · exact before x hx
    · rw [List.mem_singleton.1 hx]
      exact ⟨body, brings, fun auth => (Operation.target_ne_auth asks auth).elim⟩

/-- A failure of the connection is told by a request that got nothing usable. -/
theorem unusable_of_connection (h : Verdict c op v xs (.error f)) (hf : f.category = .connection) :
    ∃ x ∈ xs, x.2.any Reply.isUnusable = true ∧ f.endpoint? = some x.1.endpoint := by
  cases h with
  | noAccount lacking => cases hf
  | @stuck front q r f equipped before fault =>
    refine ⟨(q, r), by simp, ?_⟩
    rcases fault_of_answered fault with ⟨bad, -, hendpoint⟩ | ⟨-, -, kind, hkind⟩
    · exact ⟨bad, hendpoint⟩
    · rw [hf] at hkind
      cases hkind
  | refused equipped refuses => cases hf

theorem connection_of_unusable (h : Verdict c op v xs result) (hx : x ∈ xs)
    (bad : x.2.any Reply.isUnusable = true) :
    ∃ f, result = .error f ∧ f.category = .connection ∧ f.endpoint? = some x.1.endpoint := by
  have notBrought : ¬ Brought x := fun brought => by simp [brought.not_unusable] at bad
  cases result with
  | ok a => exact (notBrought (h.brought_of_ok x hx)).elim
  | error f =>
    refine ⟨f, rfl, ?_⟩
    cases h with
    | noAccount lacking => cases hx
    | stuck front equipped before fault =>
      rcases List.mem_append.1 hx with hx | hx
      · exact (notBrought (before x hx)).elim
      · cases List.mem_singleton.1 hx
        rcases fault_of_answered fault with ⟨-, hf⟩ | ⟨good, -⟩
        · exact hf
        · simp [good] at bad
    | refused equipped refuses =>
      cases List.mem_singleton.1 hx
      simp [refuses.not_unusable] at bad

theorem configuration_iff (h : Verdict c op v xs result) :
    (∃ f, result = .error f ∧ f.category = .configuration) ↔ Lacking c op v := by
  cases h with
  | noAccount lacking => exact iff_of_true ⟨_, rfl, rfl⟩ lacking
  | silent equipped hnone => exact iff_of_false (by simp) equipped
  | stuck front equipped before fault =>
    refine iff_of_false ?_ equipped
    rintro ⟨g, hg, hcategory⟩
    cases hg
    exact (category_ne_of_answered fault).1 hcategory
  | refused equipped refuses =>
    refine iff_of_false ?_ equipped
    rintro ⟨g, hg, hcategory⟩
    cases hg
    cases hcategory
  | gave front equipped before asks brings => exact iff_of_false (by simp) equipped

theorem login_iff (h : Verdict c op v xs result) :
    (∃ f, result = .error f ∧ f.category = .login) ↔ ∃ x ∈ xs, Refused x := by
  cases result with
  | ok a =>
    refine iff_of_false (by simp) ?_
    rintro ⟨x, hx, refuses⟩
    exact (h.brought_of_ok x hx).not_refused refuses
  | error f =>
    cases h with
    | noAccount lacking =>
      refine iff_of_false ?_ (by simp)
      rintro ⟨g, hg, hcategory⟩
      cases hg
      cases hcategory
    | stuck front equipped before fault =>
      refine iff_of_false ?_ ?_
      · rintro ⟨g, hg, hcategory⟩
        cases hg
        exact (category_ne_of_answered fault).2 hcategory
      · rintro ⟨x, hx, refuses⟩
        rcases List.mem_append.1 hx with hx | hx
        · exact (before x hx).not_refused refuses
        · cases List.mem_singleton.1 hx
          obtain ⟨-, body, hbody, -⟩ := refuses
          rw [object?_of_answered fault] at hbody
          cases hbody
    | @refused q r reason equipped refuses =>
      exact iff_of_true ⟨_, rfl, rfl⟩ ⟨(q, r), by simp, refuses⟩

theorem returns_iff (h : Verdict c op v xs result) :
    (∃ a, result = .ok a) ↔ ¬ Lacking c op v ∧ ∀ x ∈ xs, Brought x := by
  cases result with
  | ok a =>
    refine iff_of_true ⟨a, rfl⟩ ⟨?_, h.brought_of_ok⟩
    intro lacking
    obtain ⟨f, hf, -⟩ := h.configuration_iff.2 lacking
    cases hf
  | error f =>
    refine iff_of_false (by simp) ?_
    rintro ⟨equipped, brought⟩
    cases h with
    | noAccount lacking => exact equipped lacking
    | @stuck front q r f equipped before fault =>
      obtain ⟨body, hbody, -⟩ := brought (q, r) (by simp)
      rw [object?_of_answered fault] at hbody
      cases hbody
    | @refused q r reason equipped refuses => exact (brought (q, r) (by simp)).not_refused refuses

theorem returned {a : Answer} (h : Verdict c op v xs (.ok a)) :
    xs = [] ∧ op.target? c = none ∧ a = .confirmed false ∨
      ∃ front x body, xs = front ++ [x] ∧ op.target? c = some (x.1.endpoint, x.1.fields) ∧
        x.2.bind Reply.object? = some body ∧ a = op.read body := by
  cases h with
  | silent equipped hnone => exact .inl ⟨rfl, hnone, rfl⟩
  | @gave front q r body equipped before asks brings =>
    exact .inr ⟨front, (q, r), body, rfl, asks, brings, rfl⟩

/-- Any other fault came with the reply to a request. -/
theorem others (h : Verdict c op v xs (.error f)) :
    f.category = .connection ∨ f.category = .configuration ∨ f.category = .login ∨
      ∃ x ∈ xs, x.2.all Reply.isForeign = true := by
  cases h with
  | noAccount lacking => exact .inr (.inl rfl)
  | @stuck front q r f equipped before fault =>
    rcases fault_of_answered fault with ⟨-, hf, -⟩ | ⟨-, foreign, -⟩
    · exact .inl hf
    · exact .inr (.inr (.inr ⟨(q, r), by simp, foreign⟩))
  | refused equipped refuses => exact .inr (.inr (.inl rfl))

theorem category (h : Verdict c op v xs (.error f)) :
    f.category = .configuration ∨ f.category = .login ∨ f.category = .connection ∨
      ∃ kind, f.category = .foreign kind := by
  cases h with
  | noAccount lacking => exact .inl rfl
  | stuck front equipped before fault => exact .inr (.inr (category_of_answered fault))
  | refused equipped refuses => exact .inr (.inl rfl)

/-- What is taken for granted about an object is never found wanting. -/
theorem not_unchecked (h : Verdict c op v xs (.error f)) :
    (∀ key, f ≠ .memberMissing key) ∧ ∀ kind, f ≠ .noMembers kind := by
  cases h with
  | noAccount lacking => simp
  | stuck front equipped before fault => exact not_unchecked_of_answered fault
  | refused equipped refuses => simp

end Verdict

/-- The faults of an operation, by the operation itself. -/
theorem category_of_perform {c : Client} {v : Conversation} {α : Type} {x : Exchange α}
    {answer : α → Answer} (hperform : op.perform c = answer <$> x)
    (h : (x.runFrom v).1 = .error f) :
    f.category = .configuration ∨ f.category = .login ∨ f.category = .connection ∨
      ∃ kind, f.category = .foreign kind := by
  have hfailed : ((op.perform c).runFrom v).1 = .error f := by
    rw [hperform, Work.runFrom_map, h]
    rfl
  have hverdict := verdict_of_performed (performed c op v)
  rw [hfailed] at hverdict
  exact hverdict.category

/-- How the result of an operation of a client follows from what passed. -/
structure Taxonomy (c : Client) (op : Operation) (v : Conversation) (xs : Dialogue)
    (result : Except Fault Answer) : Prop where
  /-- A failure of the connection has a request that got nothing usable, and names its endpoint. -/
  connection : ∀ f, result = .error f → f.category = .connection →
    ∃ x ∈ xs, x.2.any Reply.isUnusable = true ∧ f.endpoint? = some x.1.endpoint
  unusable : ∀ x ∈ xs, x.2.any Reply.isUnusable = true →
    ∃ f, result = .error f ∧ f.category = .connection ∧ f.endpoint? = some x.1.endpoint
  configuration : (∃ f, result = .error f ∧ f.category = .configuration) ↔ Lacking c op v
  login : (∃ f, result = .error f ∧ f.category = .login) ↔ ∃ x ∈ xs, Refused x
  returns : (∃ a, result = .ok a) ↔ ¬ Lacking c op v ∧ ∀ x ∈ xs, Brought x
  /-- What is returned is read from the object that the last request got; nothing is asked, and
  nothing was confirmed, where there is no transaction to be polled. -/
  returned : ∀ a, result = .ok a → xs = [] ∧ op.target? c = none ∧ a = .confirmed false ∨
    ∃ front x body, xs = front ++ [x] ∧ op.target? c = some (x.1.endpoint, x.1.fields) ∧
      x.2.bind Reply.object? = some body ∧ a = op.read body
  /-- Any other fault came in the place of a reply that the server or its connection gives. -/
  others : ∀ f, result = .error f → f.category = .connection ∨ f.category = .configuration ∨
    f.category = .login ∨ ∃ x ∈ xs, x.2.all Reply.isForeign = true
  /-- No member that is taken for granted is missing, and no value is of the wrong kind. -/
  unchecked : ∀ f, result = .error f →
    (∀ key, f ≠ .memberMissing key) ∧ ∀ kind, f ≠ .noMembers kind

/-- Whatever the client, the operation, the replies to come and the token that is kept. -/
theorem operation_taxonomy (c : Client) (op : Operation) (v : Conversation) :
    Taxonomy c op v (v.dialogue ((op.perform c).runFrom v).2) ((op.perform c).runFrom v).1 := by
  have h := verdict_of_performed (performed c op v)
  refine
    { connection := fun f hf hcategory => ?_
      unusable := fun x hx bad => h.connection_of_unusable hx bad
      configuration := h.configuration_iff
      login := h.login_iff
      returns := h.returns_iff
      returned := fun a ha => ?_
      others := fun f hf => ?_
      unchecked := fun f hf => ?_ }
  · exact (hf ▸ h).unusable_of_connection hcategory
  · exact (ha ▸ h).returned
  · exact (hf ▸ h).others
  · exact (hf ▸ h).not_unchecked

end Client

end SecondFactor
