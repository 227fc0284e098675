import SecondFactor.Client.Poller
import SecondFactor.Proofs.Client.Faults

/-!
# Runs of a background poller

After each wait that ends by itself a poller goes through one round: it polls the transaction and,
if that confirms it, validates it. A round either lets the poller go on, or brings the response that
the poller was after, or breaks it. The rounds of a run are determined by the replies and by the
waits, which end where a wait is too long for the timer; how the run ends is told by its last round
or by that wait.
-/
namespace SecondFactor.Client

/-- What one round of a poller meets: the reply to the poll and, if that confirms the transaction,
the reply to the validation. -/
structure Round where
  polled : Option Reply
  checked : Option (Option Reply)
  checks : checked.isSome = (polled.any (·.affirms "status") && polled.any (·.affirms "value"))

namespace Round

/-- The round that takes the next replies. -/
def ofReplies (replies : List Reply) : Round where
  polled := replies.head?
  checked :=
    if replies.head?.any (·.affirms "status") && replies.head?.any (·.affirms "value") then
      some replies.tail.head?
    else none
  checks := by split <;> simp_all

/-- The requests of a round, each beside its reply. -/
def dialogue (c : Client) (username transaction : String) (r : Round) : Dialogue :=
  (c.pollRequest transaction, r.polled) ::
    (r.checked.map fun reply => (c.finishRequest username transaction, reply)).toList

/-- Nothing is decided: the poll failed, or did not confirm, or the validation failed. -/
def GoesOn (r : Round) : Prop :=
  r.polled.any Reply.isUnusable = true ∨
    (∃ body, r.polled.bind Reply.object? = some body) ∧ r.checked = none ∨
    ∃ reply, r.checked = some reply ∧ reply.any Reply.isUnusable = true

/-- The validation got an object, which is read as a response. -/
def Responds (r : Round) (response : Response) : Prop :=
  ∃ reply body, r.checked = some reply ∧ reply.bind Reply.object? = some body ∧
    response = Response.ofJson body

/-- A request failed in a way that is not the server's. -/
def Breaks (r : Round) : Prop :=
  r.polled.all Reply.isForeign = true ∨
    ∃ reply, r.checked = some reply ∧ reply.all Reply.isForeign = true

/-- The requests of a round. -/
def requests (c : Client) (username transaction : String) (r : Round) : List Request :=
  c.pollRequest transaction ::
    (r.checked.map fun _ => c.finishRequest username transaction).toList

theorem length_requests (c : Client) (username transaction : String) (r : Round) :
    (r.requests c username transaction).length = r.checked.toList.length + 1 := by
  unfold requests
  cases r.checked <;> rfl

theorem paired_requests (c : Client) (username transaction : String) (replies : List Reply) :
    Conversation.paired ((ofReplies replies).requests c username transaction) replies =
      (ofReplies replies).dialogue c username transaction := by
  unfold requests dialogue ofReplies
  split <;> rfl

/-- What a round comes to. -/
def result (r : Round) : Except Fault (Option Response) :=
  match answered .pollTransaction r.polled with
  | .error f => .error f
  | .ok _ =>
    match r.checked with
    | none => .ok none
    | some reply =>
      match answered .validateCheck reply with
      | .error f => .error f
      | .ok body => .ok (some (Response.ofJson body))

/-- Whether there is another wait after a round. -/
def continues (r : Round) : Bool :=
  match r.result with
  | .ok none => true
  | .ok (some _) => false
  | .error f => f.isServer

/-- The fault of a request is the server's where the reply is unusable. -/
theorem isServer_of_answered {endpoint : Endpoint} {reply : Option Reply} {f : Fault}
    (h : answered endpoint reply = .error f) :
    f.isServer = true ∧ reply.any Reply.isUnusable = true ∨
      f.isServer = false ∧ reply.all Reply.isForeign = true := by
  rcases fault_of_answered h with ⟨bad, hf, -⟩ | ⟨-, foreign, kind, hf⟩
  · exact .inl ⟨by simp [Fault.isServer, hf], bad⟩
  · exact .inr ⟨by simp [Fault.isServer, hf], foreign⟩

/-- A round lets the poller go on, or responds, or breaks it. -/
theorem fate (r : Round) :
    match r.result with
    | .ok none => r.GoesOn
    | .ok (some response) => r.Responds response
    | .error f => f.isServer = true ∧ r.GoesOn ∨ f.isServer = false ∧ r.Breaks := by
  cases hpolled : answered .pollTransaction r.polled with
  | error f =>
    simp only [result, hpolled]
    rcases isServer_of_answered hpolled with ⟨hf, bad⟩ | ⟨hf, foreign⟩
    · exact .inl ⟨hf, .inl bad⟩
    · exact .inr ⟨hf, .inl foreign⟩
  | ok body =>
    cases hchecked : r.checked with
    | none =>
      simp only [result, hpolled, hchecked]
      exact .inr (.inl ⟨⟨body, answered_eq_ok_iff.1 hpolled⟩, hchecked⟩)
    | some reply =>
      simp only [result, hpolled, hchecked]
      cases hanswer : answered .validateCheck reply with
      | ok body => exact ⟨reply, body, hchecked, answered_eq_ok_iff.1 hanswer, rfl⟩
      | error f =>
        rcases isServer_of_answered hanswer with ⟨hf, bad⟩ | ⟨hf, foreign⟩
        · exact .inl ⟨hf, .inr (.inr ⟨reply, hchecked, bad⟩)⟩
        · exact .inr ⟨hf, .inr ⟨reply, hchecked, foreign⟩⟩

end Round

variable {c : Client} {username transaction : String} {v w : Conversation}

theorem runFrom_pollOnce (c : Client) (username : String) (h : transaction ≠ "")
    (v : Conversation) :
    let r := Round.ofReplies v.pending
    ∃ w, (pollOnce c (some transaction) username).runFrom v = (r.result, w) ∧
      v.Extends w (r.requests c username transaction) := by
  intro r
  obtain ⟨es, hes⟩ := runFrom_poll c h v
  have hpoll := (Conversation.Extends.ask v (c.pollRequest transaction)).log es
  have hpolled' : r.polled = v.pending.head? := rfl
  rw [pollOnce, Work.runFrom_bind, hes]
  cases hpolled : answered .pollTransaction v.pending.head? with
  | error f =>
    have hchecked : r.checked = none := by
      simp [r, Round.ofReplies, any_affirms_of_failed hpolled]
    simp only [Round.result, Round.requests, hpolled', hpolled, hchecked]
    exact ⟨_, rfl, hpoll⟩
  | ok body =>
    simp only [Round.result, Round.requests, hpolled', hpolled]
    cases hconfirmed : body.affirms "status" && body.affirms "value" with
    | false =>
      have hchecked : r.checked = none := by
        simp [r, Round.ofReplies, any_affirms_of_answered hpolled, hconfirmed]
      simp only [Except.map, hconfirmed, hchecked]
      exact ⟨_, rfl, hpoll⟩
    | true =>
      have hchecked : r.checked = some v.pending.tail.head? := by
        simp [r, Round.ofReplies, any_affirms_of_answered hpolled, hconfirmed]
      obtain ⟨fs, hfs⟩ := runFrom_validate_transaction c username h
        ((v.ask (c.pollRequest transaction)).log es)
      have hfinish := (hpoll.trans (.ask _ (c.finishRequest username transaction))).log fs
      simp only [Except.map, hconfirmed, if_true, Work.runFrom_map, hfs, hchecked,
        Conversation.pending_log, Conversation.pending_ask]
      cases answered .validateCheck v.pending.tail.head? with
      | error f => exact ⟨_, rfl, hfinish⟩
      | ok body => exact ⟨_, rfl, hfinish⟩

/-! ## Runs -/

variable {timer : Timer}

/-- The rounds of a poller that has waited `done` times and waits up to `n` times more, with the
replies to come. A wait that is too long for the timer is not made. -/
def rounds (c : Client) (timer : Timer) : (n done : Nat) → List Reply → List Round
  | 0, _, _ => []
  | n + 1, done, replies =>
    let r := Round.ofReplies replies
    if timer.takes (c.schedule.interval done) then
      if r.continues then
        r :: rounds c timer n (done + 1) (replies.drop (r.checked.toList.length + 1))
      else [r]
    else []

/-- A poller that waits less often goes through the same rounds, as far as it comes. -/
theorem rounds_eq_take {k n : Nat} (h : k ≤ n) (done : Nat) (replies : List Reply) :
    rounds c timer k done replies = (rounds c timer n done replies).take k := by
  induction k generalizing n done replies with
  | zero => simp [rounds]
  | succ k ih =>
    obtain ⟨n, rfl⟩ : ∃ m, n = m + 1 := ⟨n - 1, by omega⟩
    simp only [rounds]
    split
    · split
      · rw [ih (Nat.le_of_succ_le_succ h), List.take_succ_cons]
      · simp
    · simp

/-- The five ways in which a run can end, after which rounds and how many waits. -/
inductive Ended (timer : Timer) (signalled : Bool) (left : Nat) : List Round → PollRun → Prop
  | stopped {rs : List Round} {waits : List Int} (goOn : ∀ r ∈ rs, r.GoesOn)
      (all : rs.length = left) (waited : waits.length = left + 1) :
      Ended timer signalled left rs ⟨waits, .stopped⟩
  | dropped (rs : List Round) {r : Round} {response : Response} {waits : List Int}
      (goOn : ∀ r ∈ rs, r.GoesOn) (responds : r.Responds response) (told : signalled = true)
      (waited : waits.length = rs.length + 1) :
      Ended timer signalled left (rs ++ [r]) ⟨waits, .dropped⟩
  | delivered (rs : List Round) {r : Round} {response : Response} {waits : List Int}
      (goOn : ∀ r ∈ rs, r.GoesOn) (responds : r.Responds response) (untold : signalled = false)
      (waited : waits.length = rs.length + 1) :
      Ended timer signalled left (rs ++ [r]) ⟨waits, .delivered response⟩
  | broken (rs : List Round) {r : Round} {f : Fault} {waits : List Int}
      (goOn : ∀ r ∈ rs, r.GoesOn) (breaks : r.Breaks)
      (waited : waits.length = rs.length + 1) :
      Ended timer signalled left (rs ++ [r]) ⟨waits, .broken f⟩
  /-- The next wait is too long, and nothing tells the poller to stop before it. -/
  | refused {rs : List Round} {waits : List Int} {seconds : Int} (goOn : ∀ r ∈ rs, r.GoesOn)
      (early : rs.length < left) (tooLong : timer.takes seconds = false)
      (waited : waits.length = rs.length) :
      Ended timer signalled left rs ⟨waits, .refused seconds⟩

theorem Ended.after {signalled : Bool} {left : Nat} {r : Round} {rs : List Round} {run : PollRun}
    (hr : r.GoesOn) (h : Ended timer signalled left rs run) (wait : Int) :
    Ended timer signalled (left + 1) (r :: rs) (run.after wait) := by
  have hcons (front : List Round) (goOn : ∀ r ∈ front, r.GoesOn) :
      ∀ x ∈ r :: front, x.GoesOn := by simpa using ⟨hr, goOn⟩
  cases h with
  | stopped goOn all waited =>
    exact .stopped (hcons _ goOn) (by simp [all]) (by simp [waited])
  | @dropped front last response waits goOn responds told waited =>
    exact .dropped (r :: front) (hcons _ goOn) responds told (by simp [waited])
  | @delivered front last response waits goOn responds untold waited =>
    exact .delivered (r :: front) (hcons _ goOn) responds untold (by simp [waited])
  | @broken front last f waits goOn breaks waited =>
    exact .broken (r :: front) (hcons _ goOn) breaks (by simp [waited])
  | refused goOn early tooLong waited =>
    exact .refused (hcons _ goOn) (by simpa using early) tooLong (by simp [waited])

/-- What is asked of a run that starts at `v` and leads to `w`. -/
structure Polls (c : Client) (timer : Timer) (username transaction : String) (signalled : Bool)
    (left done : Nat) (v w : Conversation) (run : PollRun) : Prop where
  traffic : ∃ sent, v.Extends w sent
  passes : v.dialogue w =
    (rounds c timer left done v.pending).flatMap (Round.dialogue c username transaction)
  waits : ∀ k wait, run.waits[k]? = some wait → wait = c.schedule.interval (done + k)
  taken : ∀ k < (rounds c timer left done v.pending).length,
    timer.takes (c.schedule.interval (done + k)) = true
  refused : ∀ seconds, run.ending = .refused seconds →
    seconds = c.schedule.interval (done + run.waits.length)
  ended : Ended timer signalled left (rounds c timer left done v.pending) run

theorem Polls.after {signalled : Bool} {left done : Nat} {u v w : Conversation} {run : PollRun}
    (htakes : timer.takes (c.schedule.interval done) = true)
    (hcontinues : (Round.ofReplies u.pending).continues = true)
    (hgoes : (Round.ofReplies u.pending).GoesOn)
    (hsent : u.Extends v ((Round.ofReplies u.pending).requests c username transaction))
    (h : Polls c timer username transaction signalled left (done + 1) v w run) :
    Polls c timer username transaction signalled (left + 1) done u w
      (run.after (c.schedule.interval done)) := by
  have hrest : rounds c timer (left + 1) done u.pending =
      Round.ofReplies u.pending :: rounds c timer left (done + 1) v.pending := by
    simp [rounds, htakes, hcontinues, hsent.pending, Round.length_requests]
  have hindex (k : Nat) : done + 1 + k = done + (k + 1) := by omega
  obtain ⟨sent, hmore⟩ := h.traffic
  refine ⟨⟨_, hsent.trans hmore⟩, ?_, ?_, ?_, ?_, ?_⟩
  · rw [hsent.dialogue_append hmore, h.passes, hsent.dialogue_eq, Round.paired_requests, hrest]
    rfl
  · intro k wait hk
    cases k with
    | zero => exact (Option.some.inj hk).symm
    | succ k => rw [h.waits k wait hk, hindex]
  · intro k hk
    rw [hrest, List.length_cons] at hk
    cases k with
    | zero => exact htakes
    | succ k =>
      rw [← hindex]
      exact h.taken k (Nat.lt_of_succ_lt_succ hk)
  · intro seconds hseconds
    rw [h.refused seconds hseconds, hindex]
    rfl
  · rw [hrest]
    exact h.ended.after hgoes _

theorem Polls.last {signalled : Bool} {left done : Nat} {v w : Conversation} {ending : PollEnd}
    (htakes : timer.takes (c.schedule.interval done) = true)
    (hstops : (Round.ofReplies v.pending).continues = false)
    (hsent : v.Extends w ((Round.ofReplies v.pending).requests c username transaction))
    (hmade : ∀ seconds, ending ≠ .refused seconds)
    (hends : Ended timer signalled (left + 1) [Round.ofReplies v.pending]
      ⟨[c.schedule.interval done], ending⟩) :
    Polls c timer username transaction signalled (left + 1) done v w
      ⟨[c.schedule.interval done], ending⟩ := by
  have hrounds : rounds c timer (left + 1) done v.pending = [Round.ofReplies v.pending] := by
    simp [rounds, htakes, hstops]
  refine ⟨⟨_, hsent⟩, ?_, ?_, ?_, fun seconds hseconds => absurd hseconds (hmade seconds),
    hrounds ▸ hends⟩
  · rw [hsent.dialogue_eq, Round.paired_requests, hrounds, List.flatMap_singleton]
  · intro k wait hk
    cases k with
    | zero => exact (Option.some.inj hk).symm
    | succ k => cases hk
  · intro k hk
    rw [hrounds, List.length_singleton, Nat.lt_one_iff] at hk
    rw [hk]
    exact htakes

theorem Polls.refusal {signalled : Bool} {left done : Nat} {v : Conversation}
    (htooLong : timer.takes (c.schedule.interval done) = false) :
    Polls c timer username transaction signalled (left + 1) done v v
      ⟨[], .refused (c.schedule.interval done)⟩ := by
  have hrounds : rounds c timer (left + 1) done v.pending = [] := by simp [rounds, htooLong]
  refine ⟨⟨[], .refl v⟩, ?_, by simp, by simp [hrounds], ?_, ?_⟩
  · rw [hrounds]
    exact v.dialogue_self
  · rintro seconds ⟨⟩
    rfl
  · rw [hrounds]
    exact .refused (by simp) (by simp) htooLong rfl

/-- A wait that is too long ends a poller. -/
theorem run_pollLoop_tooLong (c : Client) (t : Option String) (username : String)
    (signalled : Bool) (left : Nat) {done : Nat}
    (h : timer.takes (c.schedule.interval done) = false) (v : Conversation) :
    (pollLoop c timer t username signalled (left + 1) done).run v =
      (⟨[], .refused (c.schedule.interval done)⟩, v) := by
  simp only [pollLoop, h, Bool.false_eq_true, if_false]
  rfl

/-- A wait that ends by itself, one round, and what becomes of its result. -/
theorem run_pollLoop_succ (c : Client) (t : Option String) (username : String) (signalled : Bool)
    (left : Nat) {done : Nat} (h : timer.takes (c.schedule.interval done) = true)
    (v : Conversation) :
    (pollLoop c timer t username signalled (left + 1) done).run v =
      let wait := c.schedule.interval done
      match (pollOnce c t username).runFrom v with
      | (.ok none, w) =>
        let out := (pollLoop c timer t username signalled left (done + 1)).run w
        (out.1.after wait, out.2)
      | (.ok (some r), w) =>
        if signalled then (⟨[wait], .dropped⟩, w)
        else (⟨[wait], .delivered r⟩, w.log [.pollerFinished t (done + 1)])
      | (.error f, w) =>
        if f.isServer then
          let out :=
            (pollLoop c timer t username signalled left (done + 1)).run ((pollFailed c t f).run w).2
          (out.1.after wait, out.2)
        else (⟨[wait], .broken f⟩, w) := by
  have hrun : (pollOnce c t username).run.run v = (pollOnce c t username).runFrom v := rfl
  simp only [pollLoop, h, if_true, StateT.run_bind, hrun]
  rcases (pollOnce c t username).runFrom v with ⟨f | _ | r, w⟩
  · change (if f.isServer = true then _ else _ : StateM Conversation PollRun).run w =
      if f.isServer = true then _ else _
    split <;> rfl
  · rfl
  · cases signalled <;> rfl

theorem pollLoop_polls (c : Client) (timer : Timer) (username : String) (h : transaction ≠ "")
    (signalled : Bool) (left done : Nat) (v : Conversation) :
    let out := (pollLoop c timer (some transaction) username signalled left done).run v
    Polls c timer username transaction signalled left done v out.2 out.1 := by
  -- The induction is on the waits that would end by themselves; one that is too long is the last.
  induction left generalizing done v with
  | zero =>
    refine ⟨⟨[], .refl v⟩, v.dialogue_self, ?_, by simp [rounds], ?_, ?_⟩
    · intro k wait hk
      cases k with
      | zero => exact (Option.some.inj hk).symm
      | succ k => cases hk
    · rintro seconds ⟨⟩
    · exact .stopped (by simp [rounds]) rfl rfl
  | succ left ih =>
    cases htakes : timer.takes (c.schedule.interval done) with
    | false =>
      simp only [run_pollLoop_tooLong c _ username signalled left htakes]
      exact .refusal htakes
    | true =>
      obtain ⟨w, hw, hsent⟩ := runFrom_pollOnce c username h v
      have hfate := (Round.ofReplies v.pending).fate
      have hnext : (Round.ofReplies v.pending).continues =
        match (Round.ofReplies v.pending).result with
        | .ok none => true
        | .ok (some _) => false
        | .error f => f.isServer := rfl
      simp only [run_pollLoop_succ c _ username signalled left htakes, hw]
      cases hresult : (Round.ofReplies v.pending).result with
      | ok response? =>
        rw [hresult] at hfate hnext
        cases response? with
        | none => exact (ih (done + 1) w).after htakes hnext hfate hsent
        | some response =>
          cases signalled with
          | true =>
            exact .last htakes hnext hsent (by simp) (.dropped [] (by simp) hfate rfl rfl)
          | false =>
            exact .last htakes hnext (hsent.log _) (by simp)
              (.delivered [] (by simp) hfate rfl rfl)
      | error f =>
        rw [hresult] at hfate hnext
        rcases hfate with ⟨hf, hgoes⟩ | ⟨hf, hbreaks⟩
        · simp only [hf, if_true]
          exact (ih (done + 1) _).after htakes (hnext.trans hf) hgoes ((hsent.log _).log _)
        · simp only [hf]
          exact .last htakes (hnext.trans hf) hsent (by simp) (.broken [] (by simp) hbreaks rfl)

/-- A run of a poller, whatever the replies. `left` waits end by themselves if the timer takes them,
the one after them is interrupted, and `signalled` is what the check after a response finds: as
there is no more than one such check in a run, each moment at which the poller can be told to stop
is one choice of the two. Each wait is as long as the schedule says, and each that ends by itself is
followed by one round, so that a run which is stopped earlier goes through the same rounds as far as
it comes. An entry of the schedule that is too long for the timer ends the run where it is reached:
the waits before it were made, it was not. -/
theorem poller_run (c : Client) (timer : Timer) (username : String) {transaction : String}
    (h : transaction ≠ "") (signalled : Bool) (left : Nat) (v : Conversation) :
    let out := (pollLoop c timer (some transaction) username signalled left 0).run v
    ∃ rs : List Round,
      v.dialogue out.2 = rs.flatMap (Round.dialogue c username transaction) ∧
      (∀ k wait, out.1.waits[k]? = some wait → wait = c.schedule.interval k) ∧
      (∀ k < rs.length, timer.takes (c.schedule.interval k) = true) ∧
      (∀ seconds, out.1.ending = .refused seconds →
        seconds = c.schedule.interval out.1.waits.length) ∧
      Ended timer signalled left rs out.1 ∧
      ∀ k ≤ left, ∀ told,
        v.dialogue ((pollLoop c timer (some transaction) username told k 0).run v).2 =
          (rs.take k).flatMap (Round.dialogue c username transaction) := by
  intro out
  have hpolls := pollLoop_polls c timer username h signalled left 0 v
  refine ⟨rounds c timer left 0 v.pending, hpolls.passes, fun k wait hwait => ?_, fun k hk => ?_,
    fun seconds hseconds => ?_, hpolls.ended, fun k hk told => ?_⟩
  · rw [hpolls.waits k wait hwait, Nat.zero_add]
  · have htaken := hpolls.taken k hk
    rwa [Nat.zero_add] at htaken
  · rw [hpolls.refused seconds hseconds, Nat.zero_add]
  · rw [(pollLoop_polls c timer username h told k 0 v).passes, rounds_eq_take hk]

/-- A client at a server's address, without a realm and without an account. -/
def atUrl (serverUrl : String) : Client where
  serverUrl
  verifySsl := true
  schedule := ⟨1, [2, 3]⟩
  realm := none
  account := ⟨none, none, none⟩
  userAgent := ClientConfig.defaultUserAgent
  timeout := .int 10
  logging := false
  ownsSession := true

/-- An answer with the two flags. -/
def flagged (status value : Bool) : Reply :=
  .answer 200 (.ok (.object [("result", .object [("status", .bool status),
    ("value", .bool value)])]))

/-- Not confirmed, then out of reach, then confirmed, and the validation goes through. -/
def confirmedLate : Conversation :=
  .ofReplies [flagged true false, .lost .timeout "slow", flagged true true, flagged true true]

theorem poller_run_confirmedLate :
    let c := atUrl "https://mfa.example"
    let out := (pollLoop c .nanoseconds (some "tx1") "alice" false 7 0).run confirmedLate
    "tx1" ≠ "" ∧ out.1.waits = [1, 2, 3] ∧ out.1.delivered?.isSome = true ∧
      ∃ rs : List Round,
        confirmedLate.dialogue out.2 = rs.flatMap (Round.dialogue c "alice" "tx1") ∧
        Ended .nanoseconds false 7 rs out.1 := by
  intro c out
  obtain ⟨rs, passes, -, -, -, ended, -⟩ :=
    poller_run c .nanoseconds "alice" (show "tx1" ≠ "" by decide) false 7 confirmedLate
  exact ⟨by decide, rfl, rfl, rs, passes, ended⟩

/-- A poller may end before it is told to stop and without a validation that got an object, though
the server answers everything and the timer takes any wait: a body that opens too many lists is no
JSON and breaks it. -/
theorem nested_body_ends_poller :
    ¬ ∀ (c : Client) (username transaction : String) (signalled : Bool) (left : Nat)
      (v : Conversation),
      transaction ≠ "" → 2 * left ≤ v.pending.length →
      (∀ r ∈ v.pending, ∃ status text, r = .answer status (Json.read Json.usualDepth text)) →
      let out := (pollLoop c .unbounded (some transaction) username signalled left 0).run v
      out.1.ending = .stopped ∨ ∃ x ∈ v.dialogue out.2, x.1.endpoint = .validateCheck ∧
        ∃ body, x.2.bind Reply.object? = some body := by
  intro h
  have hread : Json.read Json.usualDepth (String.ofList (List.replicate 3000 '[')) =
      .error (.tooDeep .list) := Json.read_openLists (by decide)
  -- From here on only what comes of reading the text matters.
  generalize String.ofList (List.replicate 3000 '[') = text at hread
  have hlaw := h (atUrl "https://mfa.example") "alice" "tx1" false 1
    (.ofReplies [.answer 200 (Json.read Json.usualDepth text),
      .answer 200 (Json.read Json.usualDepth text)])
    (by decide) (by simp [Conversation.ofReplies])
    fun r hr => ⟨200, text, by simpa [Conversation.ofReplies] using hr⟩
  rw [hread] at hlaw
  rcases hlaw with hstopped | ⟨x, hx, hvalidate, -⟩
  · cases hstopped
  · cases List.mem_singleton.1 hx
    cases hvalidate

end SecondFactor.Client
