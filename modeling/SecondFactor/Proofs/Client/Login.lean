import SecondFactor.Proofs.Client.Traffic

/-!
# Requests in the name of the service account

Such a request comes after a login unless a token is kept already. How a call goes is told by the
token that is kept, the account and the replies to come, and `Called` has a case for each way.
`AdminCall` is what is left of it where the replies are arbitrary: only logins go out before the
request, none of them where there is a token, and once it goes out a token is kept. The three
operations of the service account are described by what becomes of such a request.
-/
namespace SecondFactor.Client

open Exchange (OnlyLogs)

variable {α : Type}

/-! ## The login -/

theorem credentials?_eq_none_iff {c : Client} :
    c.credentials? = none ↔
      Text.given? c.account.name = none ∨ Text.given? c.account.password = none := by
  unfold credentials?
  cases Text.given? c.account.name <;> cases Text.given? c.account.password <;> simp

theorem credentials?_eq_some {c : Client} {name password : String}
    (hname : Text.given? c.account.name = some name)
    (hpassword : Text.given? c.account.password = some password) :
    c.credentials? = some (name, password) := by
  simp [credentials?, hname, hpassword]

/-- The request that logs the service account in. -/
def loginRequest (c : Client) (name password : String) : Request :=
  c.requestTo .auth none (loginFields c name password)

/-- An answer to a login grants a token: its result has a status that counts as given, and a value
that holds the token, a text that is not empty. -/
def Grants (body : Json) (token : String) : Prop :=
  ∃ result status value, body.member? "result" = some (.object result) ∧
    result.lookup "status" = some status ∧ status.isTruthy = true ∧
    result.lookup "value" = some (.object value) ∧ value.lookup "token" = some (.text token) ∧
    token ≠ ""

theorem tokenOf?_eq_some_iff {body : Json} {token : String} :
    tokenOf? body = some token ↔ Grants body token := by
  simp only [tokenOf?, Grants]
  constructor
  · intro h
    split at h
    · next status t hstatus ht =>
      obtain ⟨result, hresult, hstatus⟩ := Response.member?_part_eq_some_iff.1 hstatus
      obtain ⟨value, hvalue, htoken⟩ := Response.member?_part_eq_some_iff.1 ht
      obtain ⟨result', hresult', hvalue⟩ := Response.member?_part_eq_some_iff.1 hvalue
      obtain rfl : result = result' := by simpa [hresult] using hresult'
      split at h
      · next hgiven =>
        obtain ⟨htruthy, hne⟩ := Bool.and_eq_true_iff.1 hgiven
        cases h
        exact ⟨result, status, value, hresult, hstatus, htruthy, hvalue, htoken, by simpa using hne⟩
      · cases h
    · cases h
  · rintro ⟨result, status, value, hresult, hstatus, htruthy, hvalue, htoken, hne⟩
    have hs : (Response.part body "result").member? "status" = some status :=
      Response.member?_part_eq_some_iff.2 ⟨result, hresult, hstatus⟩
    have hv : (Response.part body "result").member? "value" = some (.object value) :=
      Response.member?_part_eq_some_iff.2 ⟨result, hresult, hvalue⟩
    have ht : (Response.part (Response.part body "result") "value").member? "token" =
        some (.text token) := Response.member?_part_eq_some_iff.2 ⟨value, hv, htoken⟩
    simp [hs, ht, htruthy, hne]

/-- The token that a login gets from the reply it takes, or why it gets none. -/
def loginAnswer (r : Option Reply) : Except Fault String :=
  match answered .auth r with
  | .error f => .error f
  | .ok body =>
    match tokenOf? body with
    | none => .error (.loginRefused (refusalOf body))
    | some token => .ok token

theorem loginAnswer_eq_ok_iff {r : Option Reply} {token : String} :
    loginAnswer r = .ok token ↔ ∃ body, r.bind Reply.object? = some body ∧ Grants body token := by
  unfold loginAnswer
  cases hanswer : answered .auth r with
  | error f => simp [object?_of_answered hanswer]
  | ok body =>
    simp only [answered_eq_ok_iff.1 hanswer, Option.some.injEq, exists_eq_left',
      ← tokenOf?_eq_some_iff]
    cases tokenOf? body <;> simp

/-- Where a token is kept, no login is sent. -/
theorem runFrom_login_kept (c : Client) {v : Conversation} {token : String}
    (h : v.token = some token) : (login c).runFrom v = (.ok token, v) := by
  simp [login, Work.runFrom_bind, h]

theorem runFrom_login_noAccount (c : Client) {v : Conversation} (h : v.token = none)
    (haccount : c.credentials? = none) :
    (login c).runFrom v = (.error .noServiceAccount, v) := by
  simp [login, Work.runFrom_bind, h, haccount]

/-- A login asks once. It gives the token of the answer, and that token is kept. -/
theorem runFrom_login_asked (c : Client) {v : Conversation} {name password : String}
    (found : v.token = none) (account : c.credentials? = some (name, password)) :
    ∃ es, (login c).runFrom v = (loginAnswer v.pending.head?,
      { (v.ask (c.loginRequest name password)).log es with
        token := (loginAnswer v.pending.head?).toOption }) := by
  obtain ⟨es, hes⟩ := runFrom_send c .auth none (loginFields c name password) v
  -- The token is cleared on both sides, since there was none.
  obtain ⟨pending, requests, events, token⟩ := v
  cases found
  cases hanswer : answered .auth pending.head? with
  | error f =>
    refine ⟨es, ?_⟩
    simp [login, Work.runFrom_bind, account, hes, hanswer, loginAnswer, loginRequest,
      Except.toOption, Conversation.ask, Conversation.log]
  | ok body =>
    cases hbody : tokenOf? body with
    | none =>
      refine ⟨es ++ (Log.Event.trafficFailed
        (.text (Fault.loginRefused (refusalOf body)).message)).gated c.logging, ?_⟩
      simp [login, Work.runFrom_bind, account, hes, hanswer, hbody, loginAnswer, loginRequest,
        Except.toOption, Conversation.ask, Conversation.log]
    | some token =>
      refine ⟨es ++ [.accountLoggedIn name], ?_⟩
      simp [login, Work.runFrom_bind, Work.runFrom_map, Except.map, account, hes, hanswer, hbody,
        loginAnswer, loginRequest, Except.toOption, Conversation.ask, Conversation.log]

/-! ## How a call goes -/

/-- How a call of an endpoint leads from `v` to `w`, and what it gives. -/
inductive Called (c : Client) (endpoint : Endpoint) (fields : List (String × String))
    (v w : Conversation) : Except Fault Json → Prop
  | plain (hadmin : endpoint.isAdmin = false)
      (traffic : v.Extends w [c.requestTo endpoint none fields]) (keeps : w.token = v.token) :
      Called c endpoint fields v w (answered endpoint v.pending.head?)
  /-- The service account is logged in already. -/
  | kept {token : String} (hadmin : endpoint.isAdmin = true) (found : v.token = some token)
      (traffic : v.Extends w [c.requestTo endpoint (some token) fields])
      (keeps : w.token = some token) :
      Called c endpoint fields v w (answered endpoint v.pending.head?)
  | noAccount (hadmin : endpoint.isAdmin = true) (found : v.token = none)
      (account : c.credentials? = none) (traffic : v.Extends w []) (keeps : w.token = none) :
      Called c endpoint fields v w (.error .noServiceAccount)
  | loginFailed {name password : String} {f : Fault} (hadmin : endpoint.isAdmin = true)
      (found : v.token = none) (account : c.credentials? = some (name, password))
      (failed : loginAnswer v.pending.head? = .error f)
      (traffic : v.Extends w [c.loginRequest name password]) (keeps : w.token = none) :
      Called c endpoint fields v w (.error f)
  | loggedIn {name password token : String} (hadmin : endpoint.isAdmin = true)
      (found : v.token = none) (account : c.credentials? = some (name, password))
      (granted : loginAnswer v.pending.head? = .ok token)
      (traffic : v.Extends w
        [c.loginRequest name password, c.requestTo endpoint (some token) fields])
      (keeps : w.token = some token) :
      Called c endpoint fields v w (answered endpoint v.pending.tail.head?)

theorem Called.log {c : Client} {endpoint : Endpoint} {fields : List (String × String)}
    {v w : Conversation} {result : Except Fault Json} (h : Called c endpoint fields v w result)
    (es : List Log.Event) :
    Called c endpoint fields v (w.log es) result := by
  cases h with
  | plain hadmin traffic keeps => exact .plain hadmin (traffic.log es) keeps
  | kept hadmin found traffic keeps => exact .kept hadmin found (traffic.log es) keeps
  | noAccount hadmin found account traffic keeps =>
    exact .noAccount hadmin found account (traffic.log es) keeps
  | loginFailed hadmin found account failed traffic keeps =>
    exact .loginFailed hadmin found account failed (traffic.log es) keeps
  | loggedIn hadmin found account granted traffic keeps =>
    exact .loggedIn hadmin found account granted (traffic.log es) keeps

theorem Called.traffic {c : Client} {endpoint : Endpoint} {fields : List (String × String)}
    {v w : Conversation} {result : Except Fault Json} (h : Called c endpoint fields v w result) :
    ∃ sent, v.Extends w sent := by
  cases h with
  | plain hadmin traffic keeps => exact ⟨_, traffic⟩
  | kept hadmin found traffic keeps => exact ⟨_, traffic⟩
  | noAccount hadmin found account traffic keeps => exact ⟨_, traffic⟩
  | loginFailed hadmin found account failed traffic keeps => exact ⟨_, traffic⟩
  | loggedIn hadmin found account granted traffic keeps => exact ⟨_, traffic⟩

theorem called_plain (c : Client) {endpoint : Endpoint} (hadmin : endpoint.isAdmin = false)
    (fields : List (String × String)) (v : Conversation) :
    Called c endpoint fields v ((call c endpoint fields).runFrom v).2
      ((call c endpoint fields).runFrom v).1 := by
  have hcall : call c endpoint fields = send c endpoint none fields := by simp [call, hadmin]
  obtain ⟨es, hes⟩ := runFrom_send c endpoint none fields v
  rw [hcall, hes]
  exact .plain hadmin ((Conversation.Extends.ask v _).log es) rfl

theorem called_admin (c : Client) {endpoint : Endpoint} (hadmin : endpoint.isAdmin = true)
    (fields : List (String × String)) (v : Conversation) :
    Called c endpoint fields v ((call c endpoint fields).runFrom v).2
      ((call c endpoint fields).runFrom v).1 := by
  have hcall : call c endpoint fields =
      login c >>= fun token => send c endpoint (some token) fields := by simp [call, hadmin]
  rw [hcall, Work.runFrom_bind]
  cases found : v.token with
  | some token =>
    obtain ⟨es, hes⟩ := runFrom_send c endpoint (some token) fields v
    simp only [runFrom_login_kept c found, hes]
    exact .kept hadmin found ((Conversation.Extends.ask v _).log es) found
  | none =>
    cases account : c.credentials? with
    | none =>
      simp only [runFrom_login_noAccount c found account]
      exact .noAccount hadmin found account (.refl v) found
    | some credentials =>
      obtain ⟨name, password⟩ := credentials
      obtain ⟨es, hes⟩ := runFrom_login_asked c found account
      have hask := (Conversation.Extends.ask v (c.loginRequest name password)).log es
      rw [hes]
      cases hanswer : loginAnswer v.pending.head? with
      | error f =>
        exact .loginFailed hadmin found account hanswer ⟨hask.requests, hask.pending⟩ rfl
      | ok token =>
        have hkept : v.Extends
            { (v.ask (c.loginRequest name password)).log es with token := some token }
            [c.loginRequest name password] := ⟨hask.requests, hask.pending⟩
        obtain ⟨fs, hfs⟩ := runFrom_send c endpoint (some token) fields
          { (v.ask (c.loginRequest name password)).log es with token := some token }
        simp only [Except.toOption, hfs]
        exact .loggedIn hadmin found account hanswer ((hkept.trans (.ask _ _)).log fs) rfl

theorem called_call (c : Client) (endpoint : Endpoint) (fields : List (String × String))
    (v : Conversation) :
    Called c endpoint fields v ((call c endpoint fields).runFrom v).2
      ((call c endpoint fields).runFrom v).1 := by
  cases hadmin : endpoint.isAdmin with
  | false => exact called_plain c hadmin fields v
  | true => exact called_admin c hadmin fields v

/-! ## In the name of the service account -/

/-- How a request in the name of the service account leads from `v` to `w`, and what it gives:
either it never goes out for want of a token, or it goes out after the logins and takes the reply
after theirs. -/
inductive AdminCall (c : Client) (endpoint : Endpoint) (fields : List (String × String))
    (v w : Conversation) : Except Fault Json → Prop
  | refused {logins : List Request} {f : Fault} (wanting : v.token = none)
      (auth : ∀ q ∈ logins, q.endpoint = .auth) (traffic : v.Extends w logins) :
      AdminCall c endpoint fields v w (.error f)
  | sent {logins : List Request} {token : String}
      (auth : ∀ q ∈ logins, q.endpoint = .auth) (kept : v.token.isSome = true → logins = [])
      (keeps : w.token = some token)
      (traffic : v.Extends w (logins ++ [c.requestTo endpoint (some token) fields])) :
      AdminCall c endpoint fields v w (answered endpoint (v.pending.drop logins.length).head?)

namespace AdminCall

variable {c : Client} {endpoint : Endpoint} {fields : List (String × String)}
  {v w : Conversation} {result : Except Fault Json}

theorem log (h : AdminCall c endpoint fields v w result) (es : List Log.Event) :
    AdminCall c endpoint fields v (w.log es) result := by
  cases h with
  | refused wanting auth traffic => exact .refused wanting auth (traffic.log es)
  | sent auth kept keeps traffic => exact .sent auth kept keeps (traffic.log es)

theorem traffic (h : AdminCall c endpoint fields v w result) : ∃ sent, v.Extends w sent := by
  cases h with
  | refused wanting auth traffic => exact ⟨_, traffic⟩
  | sent auth kept keeps traffic => exact ⟨_, traffic⟩

/-- Only logins pass beside the request, and the reply to the request is what decides. -/
theorem of_mem_dialogue (h : AdminCall c endpoint fields v w result)
    {x : Request × Option Reply} (hx : x ∈ v.dialogue w) :
    x.1.endpoint = .auth ∨ x.1.endpoint = endpoint ∧ result = answered endpoint x.2 := by
  cases h with
  | refused wanting auth traffic =>
    rw [traffic.dialogue_eq] at hx
    exact .inl (auth x.1 (Conversation.fst_mem_of_mem_paired hx))
  | sent auth kept keeps traffic =>
    rw [traffic.dialogue_eq, Conversation.paired_append, List.mem_append] at hx
    rcases hx with hx | hx
    · exact .inl (auth x.1 (Conversation.fst_mem_of_mem_paired hx))
    · rw [List.mem_singleton.1 hx]
      exact .inr ⟨rfl, rfl⟩

/-- Where an object was brought, the request came last, and a token is kept from then on. -/
theorem dialogue_of_ok {body : Json} (h : AdminCall c endpoint fields v w (.ok body)) :
    ∃ logins q r, v.dialogue w = logins ++ [(q, some r)] ∧
      (∀ x ∈ logins, x.1.endpoint = .auth) ∧ q.endpoint = endpoint ∧ r.object? = some body ∧
      w.token.isSome = true := by
  generalize hresult : (Except.ok body : Except Fault Json) = result at h
  cases h with
  | refused wanting auth traffic => cases hresult
  | @sent logins token auth kept keeps traffic =>
    cases hreply : (v.pending.drop logins.length).head? with
    | none =>
      rw [hreply] at hresult
      cases hresult
    | some r =>
      rw [hreply] at hresult
      refine ⟨Conversation.paired logins v.pending, c.requestTo endpoint (some token) fields, r,
        ?_, ?_, rfl, Reply.read_eq_ok_iff.1 hresult.symm, by rw [keeps]; rfl⟩
      · rw [traffic.dialogue_eq, Conversation.paired_append, Conversation.paired, hreply]
        rfl
      · exact fun x hx => auth x.1 (Conversation.fst_mem_of_mem_paired hx)

/-- Where a token is kept, only the request passes. -/
theorem dialogue_of_token (h : AdminCall c endpoint fields v w result)
    (htoken : v.token.isSome = true) :
    ∃ q, v.dialogue w = [(q, v.pending.head?)] ∧ q.endpoint = endpoint := by
  cases h with
  | refused wanting auth traffic =>
    rw [wanting] at htoken
    cases htoken
  | @sent logins token auth kept keeps traffic =>
    rw [kept htoken] at traffic
    exact ⟨c.requestTo endpoint (some token) fields, traffic.dialogue_eq, rfl⟩

end AdminCall

/-- The replies forgotten: what a call of the service account comes to in any case. -/
theorem Called.adminCall {c : Client} {endpoint : Endpoint} {fields : List (String × String)}
    {v w : Conversation} {result : Except Fault Json} (h : Called c endpoint fields v w result)
    (admin : endpoint.isAdmin = true) : AdminCall c endpoint fields v w result := by
  cases h with
  | plain hadmin traffic keeps => simp [admin] at hadmin
  | kept hadmin found traffic keeps =>
    exact .sent (List.forall_mem_nil _) (fun _ => rfl) keeps traffic
  | noAccount hadmin found account traffic keeps => exact .refused found (by simp) traffic
  | loginFailed hadmin found account failed traffic keeps =>
    exact .refused found (by simp [loginRequest, requestTo]) traffic
  | @loggedIn name password token hadmin found account granted traffic keeps =>
    have hauth : ∀ q ∈ [c.loginRequest name password], q.endpoint = .auth := by
      simp [loginRequest, requestTo]
    have hsent := AdminCall.sent hauth (by simp [found]) keeps traffic
    rwa [List.length_singleton, List.drop_one] at hsent

/-- A request in the name of the service account, whose answer goes to work that only logs. -/
theorem adminCall_bind (c : Client) {endpoint : Endpoint} (h : endpoint.isAdmin = true)
    (fields : List (String × String)) {post : Json → Exchange α} {g : Json → α}
    (hpost : ∀ body, OnlyLogs (post body) (.ok (g body))) (v : Conversation) :
    ∃ result, AdminCall c endpoint fields v ((call c endpoint fields >>= post).runFrom v).2 result ∧
      ((call c endpoint fields >>= post).runFrom v).1 = result.map g := by
  obtain ⟨es, hes⟩ := Exchange.runFrom_bind_onlyLogs (x := call c endpoint fields) hpost v
  rw [hes]
  exact ⟨_, ((called_call c endpoint fields v).adminCall h).log es, rfl⟩

theorem adminCall_trigger (c : Client) (username : String) (v : Conversation) :
    ∃ result, AdminCall c .triggerChallenge (c.withRealm [("user", username)]) v
        ((trigger c username).runFrom v).2 result ∧
      ((trigger c username).runFrom v).1 = result.map Response.ofJson :=
  adminCall_bind c rfl _ (onlyLogs_responseOf c .triggerChallenge) v

/-- An answer that affirms a key has an object for its result, so it is safe to take that for
granted. -/
theorem resultOf_of_affirms {body : Json} {key : String} (h : body.affirms key = true) :
    resultOf body = .ok (Response.part body "result") := by
  obtain ⟨result, hresult, -⟩ := Json.affirms_iff.1 h
  simp [resultOf, Response.part, hresult, Json.entries]

/-- What is made of a listing: no tokens where the answer is an error. -/
theorem onlyLogs_listing (c : Client) (body : Json) :
    OnlyLogs (do
        let r ← responseOf c .tokens body
        if r.isError then return []
        else return TokenInfo.ofResult (← Work.ofExcept (resultOf body)))
      (.ok (if body.affirms "status" then TokenInfo.listOf body else [])) := by
  refine (onlyLogs_responseOf c .tokens body).bind ?_
  rw [Response.isError_ofJson]
  cases h : body.affirms "status" with
  | false => exact OnlyLogs.pure _
  | true =>
    rw [resultOf_of_affirms h]
    exact OnlyLogs.pure _

/-- A listing gives no tokens where the answer is an error. -/
theorem adminCall_tokens (c : Client) (username : String) (v : Conversation) :
    ∃ result, AdminCall c .tokens (c.withRealm [("user", username)]) v
        ((tokens c username).runFrom v).2 result ∧
      ((tokens c username).runFrom v).1 =
        result.map fun body => if body.affirms "status" then TokenInfo.listOf body else [] :=
  adminCall_bind c rfl _ (onlyLogs_listing c) v

/-- What is made of an enrollment: the new token, whatever is missing in the answer. -/
theorem onlyLogs_enrolled (c : Client) (username tokenType : String) (body : Json) :
    OnlyLogs (do
        discard (responseOf c .tokenInit body)
        let r := Rollout.ofJson tokenType body
        Exchange.log (.tokenRolledOut username tokenType r.serial)
        return r)
      (.ok (Rollout.ofJson tokenType body)) := by
  have hread : OnlyLogs (discard (responseOf c .tokenInit body)) (.ok ⟨⟩) :=
    (onlyLogs_responseOf c .tokenInit body).bind (.pure _)
  exact hread.bind ((OnlyLogs.log _).bind (.pure _))

theorem adminCall_rollout (c : Client) (username tokenType : String) (v : Conversation) :
    ∃ result, AdminCall c .tokenInit
        (c.withRealm [("user", username), ("type", tokenType), ("genkey", "1")]) v
        ((rollout c username tokenType).runFrom v).2 result ∧
      ((rollout c username tokenType).runFrom v).1 = result.map (Rollout.ofJson tokenType) := by
  exact adminCall_bind c rfl _ (onlyLogs_enrolled c username tokenType) v
end SecondFactor.Client
