import SecondFactor.Proofs.Client.Operation

/-!
# Logins over the life of a client

What a client says is a talk in which every request depends on the login token so far: a login goes
out only while there is none, a request in the name of the service account only once there is one,
and the answer to a login decides whether there is one from then on. One operation is such a talk,
so any sequence of operations is, and what has to hold of every request is read off the talk.
-/
namespace SecondFactor.Client

/-- A login got a token. -/
def GrantedBy (x : Request × Option Reply) (token : String) : Prop :=
  x.1.endpoint = .auth ∧ ∃ body, x.2.bind Reply.object? = some body ∧ Grants body token

/-- The realm that a request names: the user's, but the account's for a login and none for a
poll. -/
def realmFor (c : Client) : Endpoint → List (String × String)
  | .auth => ((Text.given? c.account.realm).map fun realm => ("realm", realm)).toList
  | .pollTransaction => []
  | .triggerChallenge | .validateCheck | .tokens | .tokenInit => c.realmField

/-- The fields of a request that name a realm. -/
def realmsIn (fields : List (String × String)) : List (String × String) :=
  fields.filter (·.1 = "realm")

/-- What may be said next while the token is `s`, and what the token is then. -/
inductive Turn (c : Client) : Option String → Request × Option Reply → Option String → Prop
  | login {name password : String} {r : Option Reply}
      (account : c.credentials? = some (name, password)) :
      Turn c none (c.loginRequest name password, r) (loginAnswer r).toOption
  | admin {endpoint : Endpoint} {token : String} {fields : List (String × String)}
      {r : Option Reply} (hadmin : endpoint.isAdmin = true)
      (realms : realmsIn fields = c.realmFor endpoint) :
      Turn c (some token) (c.requestTo endpoint (some token) fields, r) (some token)
  | plain {endpoint : Endpoint} {s : Option String} {fields : List (String × String)}
      {r : Option Reply} (hadmin : endpoint.isAdmin = false) (hauth : endpoint ≠ .auth)
      (realms : realmsIn fields = c.realmFor endpoint) :
      Turn c s (c.requestTo endpoint none fields, r) s

/-- Turns that follow one another, each with the token that the turn before it left. -/
inductive Talk (c : Client) : Option String → Dialogue → Option String → Prop
  | nil {s : Option String} : Talk c s [] s
  | cons {s s' t : Option String} {x : Request × Option Reply} {xs : Dialogue}
      (turn : Turn c s x s') (rest : Talk c s' xs t) : Talk c s (x :: xs) t

variable {c : Client} {op : Operation} {v w : Conversation} {s s' t : Option String}
  {x : Request × Option Reply} {xs ys : Dialogue} {token : String}

theorem GrantedBy.ne_empty (h : GrantedBy x token) : token ≠ "" := by
  obtain ⟨-, body, -, result, status, value, -, -, -, -, -, hne⟩ := h
  exact hne

/-! ## Realms -/

theorem realmsIn_append (fields more : List (String × String)) :
    realmsIn (fields ++ more) = realmsIn fields ++ realmsIn more :=
  List.filter_append ..

/-- A realm that is sent along is a realm. -/
theorem realmsIn_realm (o : Option String) :
    realmsIn ((o.map fun realm => ("realm", realm)).toList) =
      (o.map fun realm => ("realm", realm)).toList := by
  cases o <;> simp [realmsIn]

theorem realmsIn_realmField (c : Client) : realmsIn c.realmField = c.realmField :=
  realmsIn_realm _

theorem realmsIn_loginFields (c : Client) (name password : String) :
    realmsIn (loginFields c name password) = c.realmFor .auth := by
  rw [loginFields, realmsIn_append, realmsIn_realm]
  simp [realmsIn, realmFor]

theorem realmsIn_target {endpoint : Endpoint} {fields : List (String × String)}
    (h : op.target? c = some (endpoint, fields)) : realmsIn fields = c.realmFor endpoint := by
  cases op with
  | trigger username =>
    cases h
    rw [withRealm_eq, realmsIn_append, realmsIn_realmField]
    simp [realmsIn, realmFor]
  | validate username otp transactionId =>
    cases h
    rw [validateFields, withRealm_eq, realmsIn_append, realmsIn_append, realmsIn_realmField]
    cases Text.given? transactionId <;> simp [realmsIn, realmFor]
  | poll transactionId =>
    obtain ⟨transaction, -, ht⟩ := Option.map_eq_some_iff.1 h
    cases ht
    simp [realmsIn, realmFor]
  | tokens username =>
    cases h
    rw [withRealm_eq, realmsIn_append, realmsIn_realmField]
    simp [realmsIn, realmFor]
  | rollout username tokenType =>
    cases h
    rw [withRealm_eq, realmsIn_append, realmsIn_realmField]
    simp [realmsIn, realmFor]

/-! ## One turn -/

namespace Turn

theorem realms (h : Turn c s x s') : realmsIn x.1.fields = c.realmFor x.1.endpoint := by
  cases h with
  | login account => exact realmsIn_loginFields c _ _
  | admin hadmin realms => exact realms
  | plain hadmin hauth realms => exact realms

theorem authorization_eq_none (h : Turn c s x s') (hadmin : x.1.endpoint.isAdmin = false) :
    x.1.authorization = none := by
  cases h with
  | login account => rfl
  | admin hadmin' realms => simp [hadmin'] at hadmin
  | plain hadmin' hauth realms => rfl

theorem authorization_eq_some (h : Turn c s x s') (hadmin : x.1.endpoint.isAdmin = true) :
    ∃ token, s = some token ∧ x.1.authorization = some token := by
  cases h with
  | login account => cases hadmin
  | @admin endpoint token fields r hadmin' realms => exact ⟨token, rfl, rfl⟩
  | plain hadmin' hauth realms => simp [hadmin'] at hadmin

/-- A login goes out only while there is no token. -/
theorem eq_none_of_auth (h : Turn c s x s') (hauth : x.1.endpoint = .auth) : s = none := by
  cases h with
  | login account => rfl
  | admin hadmin realms =>
    cases hauth
    cases hadmin
  | plain hadmin hauth' realms => exact (hauth' hauth).elim

/-- The token after a turn is the one before it, or the one that the turn got. -/
theorem token_iff (h : Turn c s x s') : s' = some token ↔ s = some token ∨ GrantedBy x token := by
  have keeps (hauth : x.1.endpoint ≠ .auth) : ¬ GrantedBy x token := fun h => hauth h.1
  cases h with
  | @login name password r account =>
    have hgranted : (loginAnswer r).toOption = some token ↔ loginAnswer r = .ok token := by
      cases loginAnswer r <;> simp [Except.toOption]
    rw [hgranted, loginAnswer_eq_ok_iff]
    simp [GrantedBy, loginRequest, requestTo]
  | admin hadmin realms =>
    have hauth : ¬ GrantedBy _ token := keeps fun hauth => by cases hauth; cases hadmin
    simp [hauth]
  | plain hadmin hauth realms => simp [keeps hauth]

end Turn

/-! ## A talk -/

namespace Talk

theorem append (h : Talk c s xs s') (h' : Talk c s' ys t) : Talk c s (xs ++ ys) t := by
  induction h with
  | nil => exact h'
  | cons turn rest ih => exact .cons turn (ih h')

theorem single (h : Turn c s x t) : Talk c s [x] t := .cons h .nil

/-- A talk can be broken off anywhere. -/
theorem split (h : Talk c s (xs ++ ys) t) : ∃ s', Talk c s xs s' ∧ Talk c s' ys t := by
  induction xs generalizing s with
  | nil => exact ⟨s, .nil, h⟩
  | cons x xs ih =>
    cases h with
    | cons turn rest =>
      obtain ⟨s', hxs, hys⟩ := ih rest
      exact ⟨s', .cons turn hxs, hys⟩

/-- The token after a talk is the one before it, or one that was got during it. -/
theorem token_iff (h : Talk c s xs t) :
    t = some token ↔ s = some token ∨ ∃ x ∈ xs, GrantedBy x token := by
  induction h with
  | nil => simp
  | cons turn rest ih => simp [ih, turn.token_iff, or_assoc]

/-- Once there is a token no login goes out. -/
theorem no_login (h : Talk c (some token) xs t) : ∀ x ∈ xs, x.1.endpoint ≠ .auth := by
  generalize hs : some token = s at h
  induction h with
  | nil => simp
  | @cons s s' t x xs turn rest ih =>
    subst hs
    have hkept : s' = some token := turn.token_iff.2 (.inl rfl)
    intro y hy hauth
    rcases List.mem_cons.1 hy with rfl | hy
    · cases turn.eq_none_of_auth hauth
    · exact ih hkept.symm y hy hauth

/-- Without an account there never is a token. -/
theorem eq_none_of_no_account (account : c.credentials? = none) (h : Talk c none xs t) :
    t = none := by
  generalize hs : (none : Option String) = s at h
  induction h with
  | nil => rfl
  | cons turn rest ih =>
    subst hs
    cases turn with
    | login account' => cases account.symm.trans account'
    | plain hadmin hauth realms => exact ih rfl

end Talk

/-! ## Operations -/

theorem talk_of_performed {result : Except Fault Answer} (h : Performed c op v w result) :
    Talk c v.token (v.dialogue w) w.token := by
  cases h with
  | silent hnone traffic keeps =>
    rw [traffic.dialogue_eq, keeps]
    exact .nil
  | called htarget call =>
    have realms := realmsIn_target htarget
    cases call with
    | plain hadmin traffic keeps =>
      rw [traffic.dialogue_eq, keeps]
      exact .single (.plain hadmin (Operation.target_ne_auth htarget) realms)
    | kept hadmin found traffic keeps =>
      rw [traffic.dialogue_eq, keeps, found]
      exact .single (.admin hadmin realms)
    | noAccount hadmin found account traffic keeps =>
      rw [traffic.dialogue_eq, keeps, found]
      exact .nil
    | loginFailed hadmin found account failed traffic keeps =>
      have hnone : (loginAnswer v.pending.head?).toOption = none := by rw [failed]; rfl
      rw [traffic.dialogue_eq, keeps, found]
      exact .single (hnone ▸ .login account)
    | @loggedIn name password token hadmin found account granted traffic keeps =>
      have hsome : (loginAnswer v.pending.head?).toOption = some token := by rw [granted]; rfl
      rw [traffic.dialogue_eq, keeps, found]
      exact .cons (hsome ▸ .login account) (.single (.admin hadmin realms))

/-- The conversation after some operations, whatever they came to. -/
def after (c : Client) (v : Conversation) : List Operation → Conversation
  | [] => v
  | op :: ops => after c ((op.perform c).runFrom v).2 ops

theorem talk_after (c : Client) (v : Conversation) (ops : List Operation) :
    ∃ sent, v.Extends (after c v ops) sent ∧
      Talk c v.token (v.dialogue (after c v ops)) (after c v ops).token := by
  induction ops generalizing v with
  | nil => exact ⟨[], .refl v, by simpa [after] using Talk.nil⟩
  | cons op ops ih =>
    have hperformed := performed c op v
    obtain ⟨sent, hsent⟩ := hperformed.traffic
    obtain ⟨more, hmore, htalk⟩ := ih ((op.perform c).runFrom v).2
    refine ⟨sent ++ more, hsent.trans hmore, ?_⟩
    rw [after, hsent.dialogue_append hmore]
    exact (talk_of_performed hperformed).append htalk

/-- Without an account an operation that needs one asks nothing, and says so. -/
theorem performed_no_account {result : Except Fault Answer} (h : Performed c op v w result)
    (hadmin : op.isAdmin = true) (wanting : v.token = none) (account : c.credentials? = none) :
    v.dialogue w = [] ∧ result = .error .noServiceAccount := by
  obtain ⟨endpoint, fields, answer, htarget, hendpoint, rfl, call⟩ := h.called_of_isAdmin hadmin
  cases call with
  | plain hadmin' traffic keeps => simp [hendpoint] at hadmin'
  | kept hadmin' found traffic keeps => simp [wanting] at found
  | noAccount hadmin' found account' traffic keeps => exact ⟨traffic.dialogue_eq, rfl⟩
  | loginFailed hadmin' found account' failed traffic keeps => simp [account] at account'
  | loggedIn hadmin' found account' granted traffic keeps => simp [account] at account'

/-- With a token an operation that needs one sends its request and no login. -/
theorem performed_kept {result : Except Fault Answer} (h : Performed c op v w result)
    (hadmin : op.isAdmin = true) (found : v.token = some token) :
    (v.dialogue w).map Prod.fst = op.requests c (some token) := by
  obtain ⟨endpoint, fields, answer, htarget, hendpoint, rfl, call⟩ := h.called_of_isAdmin hadmin
  cases call with
  | plain hadmin' traffic keeps => simp [hendpoint] at hadmin'
  | kept hadmin' found' traffic keeps =>
    cases found.symm.trans found'
    rw [traffic.dialogue_eq, Conversation.map_fst_paired, Operation.requests, htarget]
    rfl
  | noAccount hadmin' found' account traffic keeps => simp [found] at found'
  | loginFailed hadmin' found' account failed traffic keeps => simp [found] at found'
  | loggedIn hadmin' found' account granted traffic keeps => simp [found] at found'

/-- Without a token an operation that needs one logs in first. If that fails, it ends there, and
otherwise its request follows. -/
theorem performed_login {result : Except Fault Answer} {name password : String}
    (h : Performed c op v w result) (hadmin : op.isAdmin = true) (wanting : v.token = none)
    (account : c.credentials? = some (name, password)) :
    ∃ x later, v.dialogue w = x :: later ∧ x.1 = c.loginRequest name password ∧
      ((∀ token, ¬ GrantedBy x token) →
        later = [] ∧ w.token = none ∧ ∃ f, result = .error f) ∧
      ∀ token, GrantedBy x token → later.map Prod.fst = op.requests c (some token) := by
  obtain ⟨endpoint, fields, answer, htarget, hendpoint, rfl, call⟩ := h.called_of_isAdmin hadmin
  cases call with
  | plain hadmin' traffic keeps => simp [hendpoint] at hadmin'
  | kept hadmin' found traffic keeps => simp [wanting] at found
  | noAccount hadmin' found account' traffic keeps => simp [account] at account'
  | @loginFailed name' password' f hadmin' found account' failed traffic keeps =>
    cases account.symm.trans account'
    refine ⟨_, _, traffic.dialogue_eq, rfl, fun _ => ⟨rfl, keeps, f, rfl⟩, ?_⟩
    rintro token ⟨-, granted⟩
    rw [loginAnswer_eq_ok_iff.2 granted] at failed
    cases failed
  | @loggedIn name' password' kept hadmin' found account' granted traffic keeps =>
    cases account.symm.trans account'
    have hgranted := loginAnswer_eq_ok_iff.1 granted
    refine ⟨_, _, traffic.dialogue_eq, rfl, fun refused => (refused kept ⟨rfl, hgranted⟩).elim, ?_⟩
    rintro token ⟨-, granted'⟩
    cases granted.symm.trans (loginAnswer_eq_ok_iff.2 granted')
    rw [Operation.requests, htarget]
    rfl

/-- The rules for logging in, over any operations in any order and whatever the replies: of each
request that is sent, and of an operation of the service account that comes next. -/
theorem login_protocol (c : Client) (replies : List Reply) (ops : List Operation) :
    let start := Conversation.ofReplies replies
    let u := after c start ops
    let xs := start.dialogue u
    (∀ earlier x later, xs = earlier ++ x :: later →
      ((∃ token, GrantedBy x token) → ∀ y ∈ later, y.1.endpoint ≠ .auth) ∧
      (x.1.endpoint.isAdmin = true → ∃ y ∈ earlier, ∃ token,
        GrantedBy y token ∧ token ≠ "" ∧ x.1.authorization = some token) ∧
      (x.1.endpoint.isAdmin = false → x.1.authorization = none) ∧
      realmsIn x.1.fields = c.realmFor x.1.endpoint) ∧
    ∀ op : Operation, op.isAdmin = true →
      let out := (op.perform c).runFrom u
      let ys := u.dialogue out.2
      (Text.given? c.account.name = none ∨ Text.given? c.account.password = none →
        ys = [] ∧ out.1 = .error .noServiceAccount) ∧
      (∀ x ∈ xs, ∀ token, GrantedBy x token → ys.map Prod.fst = op.requests c (some token)) ∧
      ∀ name password, Text.given? c.account.name = some name →
        Text.given? c.account.password = some password → (∀ x ∈ xs, ∀ token, ¬ GrantedBy x token) →
        ∃ x later, ys = x :: later ∧ x.1 = c.loginRequest name password ∧
          ((∀ token, ¬ GrantedBy x token) →
            later = [] ∧ out.2.token = none ∧ ∃ f, out.1 = .error f) ∧
          ∀ token, GrantedBy x token → later.map Prod.fst = op.requests c (some token) := by
  intro start u xs
  obtain ⟨sent, -, talk⟩ := talk_after c start ops
  refine ⟨fun earlier x later hxs => ?_, fun op hadmin => ?_⟩
  · rw [show start.dialogue u = _ from hxs] at talk
    obtain ⟨s, hearlier, hrest⟩ := talk.split
    cases hrest with
    | cons turn hlater =>
      refine ⟨?_, fun hadmin => ?_, turn.authorization_eq_none, turn.realms⟩
      · rintro ⟨token, granted⟩
        have hs := turn.token_iff.2 (.inr granted)
        exact (hs ▸ hlater).no_login
      · obtain ⟨token, rfl, hauthorization⟩ := turn.authorization_eq_some hadmin
        rcases hearlier.token_iff.1 rfl with hstart | ⟨y, hy, granted⟩
        · cases hstart
        · exact ⟨y, hy, token, granted, granted.ne_empty, hauthorization⟩
  · intro out ys
    have hperformed := performed c op u
    refine ⟨fun lacking => ?_, fun x hx token granted => ?_,
      fun name password hname hpassword hrefused => ?_⟩
    · have account := credentials?_eq_none_iff.2 lacking
      exact performed_no_account hperformed hadmin (talk.eq_none_of_no_account account) account
    · exact performed_kept hperformed hadmin (talk.token_iff.2 (.inr ⟨x, hx, granted⟩))
    · have wanting : u.token = none := by
        cases htoken : u.token with
        | none => rfl
        | some token =>
          rcases talk.token_iff.1 htoken with hstart | ⟨x, hx, granted⟩
          · cases hstart
          · exact (hrefused x hx token granted).elim
      exact performed_login hperformed hadmin wanting (credentials?_eq_some hname hpassword)

end SecondFactor.Client
