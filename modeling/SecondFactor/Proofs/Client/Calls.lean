import SecondFactor.Client.Poller
import SecondFactor.Proofs.Client.Registry

/-!
# Calls that nothing interleaves with

A client that one owner uses makes its calls one after the other. Each of them does to the registry
what some row of steps does, so whatever holds after every row of steps holds of such a client. It
loses no poller: all that run are in the list, and none outlives a call that stops them.
-/
namespace SecondFactor.Client

namespace Registry

variable {r r' : Registry} {caller : Caller} {id : Nat}
variable {xs : List Step} {x : Step}

theorem step_of_takes (h : Takes r x r') : r.step x = .ok r' := by
  cases h with
  | register free => simp only [step, free, if_true]
  | start call =>
    simp only [step, call]
    rfl
  | takeOver free => simp only [step, free, if_true]
  | signal call => simp only [step, call]
  | await call goes =>
    simp only [step, call, goes]
    rfl
  | «return» call => simp only [step, call]
  | breakOff call fails => simp only [step, call, fails]
  | finish free =>
    simp only [step, free, if_true]
    rfl

theorem steps_cons {s : Registry} (first : Takes r x s) (later : xs.foldlM step s = .ok r') :
    (x :: xs).foldlM step r = .ok r' := by
  rw [List.foldlM_cons, step_of_takes first]
  exact later

theorem steps_append {ys : List Step} {s : Registry} (first : xs.foldlM step r = .ok s)
    (later : ys.foldlM step s = .ok r') : (xs ++ ys).foldlM step r = .ok r' := by
  rw [List.foldlM_append, first]
  exact later

theorem setCall_setCall (r : Registry) (caller : Caller) (call next : Call) :
    (r.setCall caller call).setCall caller next = r.setCall caller next := by
  simp [setCall, endCall]

/-- Where no other call is under way, one that begins and ends leaves no trace. -/
theorem endCall_setCall (quiet : r.calls = []) (caller : Caller) (call : Call) :
    (r.setCall caller call).endCall caller = r := by
  obtain ⟨pollers, listed, calls⟩ := r
  cases quiet
  simp [setCall, endCall]

/-- A call to start a poller. -/
theorem steps_start (quiet : r.calls = []) (free : r.isFree caller = true) :
    [.register caller, .start caller].foldlM step r =
      .ok (r.register.start r.pollers.length) := by
  have call : (r.register.setCall caller (.starting r.pollers.length)).callOf caller =
      some (.starting r.pollers.length) := by rw [callOf_setCall, if_pos rfl]
  have hlast := Takes.start call
  have hleft : ((r.register.setCall caller (.starting r.pollers.length)).setPhase r.pollers.length
      .running).endCall caller = r.register.start r.pollers.length :=
    endCall_setCall (r := r.register.setPhase r.pollers.length .running) quiet caller _
  rw [hleft] at hlast
  exact steps_cons (.register free) (steps_cons hlast rfl)

theorem steps_signal (r : Registry) (caller : Caller) (ids toAwait : List Nat) :
    (List.replicate ids.length (.signal caller)).foldlM step
        (r.setCall caller (.stopping ids toAwait)) =
      .ok ((ids.foldl signal r).setCall caller (.stopping [] toAwait)) := by
  induction ids generalizing r with
  | nil => rfl
  | cons id rest ih =>
    have call : (r.setCall caller (.stopping (id :: rest) toAwait)).callOf caller =
        some (.stopping (id :: rest) toAwait) := by rw [callOf_setCall, if_pos rfl]
    have htold := Takes.signal call
    have hleft : ((r.setCall caller (.stopping (id :: rest) toAwait)).signal id).setCall caller
        (.stopping rest toAwait) = (r.signal id).setCall caller (.stopping rest toAwait) :=
      setCall_setCall (r.signal id) caller _ _
    rw [hleft] at htold
    exact steps_cons htold (ih (r.signal id))

/-- A poller that has ended can be taken to end once more. -/
theorem finish_of_finished (h : r.phaseOf id = some .finished) : r.finish id = r := by
  obtain ⟨pollers, listed, calls⟩ := r
  unfold phaseOf at h
  simp only [finish, setPhase, mk.injEq, and_true]
  refine List.ext_getElem? fun i => ?_
  rw [List.getElem?_modify]
  by_cases hi : id = i
  · subst hi
    obtain ⟨p, hp, hphase⟩ := Option.map_eq_some_iff.1 h
    obtain ⟨phase, signalled⟩ := p
    cases hphase
    simp only at hp
    simp [hp]
  · simp [hi]

/-- The registry once a caller has awaited a poller, which ends for it. -/
def awaited (r : Registry) (caller : Caller) (id : Nat) : Registry :=
  if caller = .poller id then r else r.finish id

/-- To await one poller, with nobody else about: it ends before, if it still runs. -/
theorem exists_steps_awaited (caller : Caller) (rest : List Nat) (quiet : r.calls = [])
    (started : r.phaseOf id = some .running ∨ r.phaseOf id = some .finished) :
    ∃ xs : List Step, (∀ x ∈ xs, x = .await caller ∨ x = .finish id) ∧
      xs.foldlM step (r.setCall caller (.stopping [] (id :: rest))) =
        .ok ((r.awaited caller id).setCall caller (.stopping [] rest)) := by
  have hcall : ∀ s : Registry, (s.setCall caller (.stopping [] (id :: rest))).callOf caller =
      some (.stopping [] (id :: rest)) := fun s => (callOf_setCall s _ _ _).trans (if_pos rfl)
  unfold awaited
  by_cases hself : caller = .poller id
  · have hawait := Takes.await (hcall r) (if_pos hself)
    rw [setCall_setCall] at hawait
    rw [if_pos hself]
    exact ⟨[.await caller], by simp, steps_cons hawait rfl⟩
  · have hended : (r.finish id).phaseOf id = some .finished := by
      rw [finish, phaseOf_setPhase, if_pos rfl]
      rcases started with h | h <;> rw [h] <;> rfl
    have hgoes : ((r.finish id).setCall caller (.stopping [] (id :: rest))).await caller id =
        .ok () := by
      have hphase : ((r.finish id).setCall caller
          (.stopping [] (id :: rest))).pollers[id]?.map Poller.phase = some .finished := hended
      simp only [await, if_neg hself, hphase]
    have hawait := Takes.await (hcall (r.finish id)) hgoes
    rw [setCall_setCall] at hawait
    rw [if_neg hself]
    -- One that still runs has to end first, and it can, since its callback makes no call.
    rcases started with hrunning | hfinished
    · have hidle : (r.setCall caller (.stopping [] (id :: rest))).callOf (.poller id) = none := by
        rw [callOf_setCall, if_neg (Ne.symm hself), callOf, quiet]
        rfl
      have hfree : (r.setCall caller (.stopping [] (id :: rest))).isFree (.poller id) = true := by
        simp only [isFree, hidle, Option.isNone_none, Bool.true_and]
        exact isRunning_iff.2 hrunning
      exact ⟨[.finish id, .await caller], by simp,
        steps_cons (.finish hfree) (steps_cons hawait rfl)⟩
    · rw [finish_of_finished hfinished] at hawait ⊢
      exact ⟨[.await caller], by simp, steps_cons hawait rfl⟩

theorem phaseOf_awaited {i : Nat}
    (started : r.phaseOf i = some .running ∨ r.phaseOf i = some .finished) :
    (r.awaited caller id).phaseOf i = some .running ∨
      (r.awaited caller id).phaseOf i = some .finished := by
  unfold awaited
  split
  · exact started
  · rw [finish, phaseOf_setPhase]
    split
    · rcases started with h | h <;> simp [h]
    · exact started

theorem calls_awaited : (r.awaited caller id).calls = r.calls := by
  unfold awaited
  split <;> rfl

theorem calls_foldl_awaited (ids : List Nat) :
    (ids.foldl (awaited · caller) r).calls = r.calls := by
  induction ids generalizing r with
  | nil => rfl
  | cons id rest ih =>
    rw [List.foldl_cons, ih]
    exact calls_awaited

/-- To await pollers, with nobody else about. -/
theorem exists_steps_await (caller : Caller) (ids : List Nat) (quiet : r.calls = [])
    (started : ∀ id ∈ ids, r.phaseOf id = some .running ∨ r.phaseOf id = some .finished) :
    ∃ xs : List Step, (∀ x ∈ xs, x = .await caller ∨ ∃ id ∈ ids, x = .finish id) ∧
      xs.foldlM step (r.setCall caller (.stopping [] ids)) =
        .ok ((ids.foldl (awaited · caller) r).setCall caller (.stopping [] [])) := by
  induction ids generalizing r with
  | nil => exact ⟨[], by simp, rfl⟩
  | cons id rest ih =>
    obtain ⟨xs, hxs, hfirst⟩ := exists_steps_awaited caller rest quiet
      (started id List.mem_cons_self)
    obtain ⟨ys, hys, hlater⟩ := ih (calls_awaited.trans quiet) fun i hi =>
      phaseOf_awaited (started i (List.mem_cons_of_mem _ hi))
    refine ⟨xs ++ ys, fun x hx => ?_, steps_append hfirst hlater⟩
    rcases List.mem_append.1 hx with hx | hx
    · exact (hxs x hx).imp_right fun h => ⟨id, List.mem_cons_self, h⟩
    · exact (hys x hx).imp_right fun ⟨i, hi, h⟩ => ⟨i, List.mem_cons_of_mem _ hi, h⟩

theorem foldl_awaited (r : Registry) (caller : Caller) (ids : List Nat) :
    ids.foldl (awaited · caller) r =
      (ids.filter fun id => caller != .poller id).foldl finish r := by
  rw [List.foldl_filter]
  refine congrArg (fun f => ids.foldl f r) (funext fun s => funext fun id => ?_)
  unfold awaited
  by_cases hself : caller = .poller id <;> simp [hself]

theorem foldl_signal (r : Registry) (ids : List Nat) :
    (ids.foldl signal r).calls = r.calls ∧ ∀ id, (ids.foldl signal r).phaseOf id = r.phaseOf id := by
  induction ids generalizing r with
  | nil => exact ⟨rfl, fun _ => rfl⟩
  | cons i rest ih =>
    obtain ⟨hcalls, hphases⟩ := ih (r.signal i)
    exact ⟨hcalls, fun id => (hphases id).trans (phaseOf_signal r i id)⟩

theorem calls_stopAll (quiet : r.calls = []) (caller : Caller) : (r.stopAll caller).calls = [] := by
  have hall := foldl_awaited (r.listed.foldl signal { r with listed := [] }) caller r.listed
  rw [stopAll, ← hall, calls_foldl_awaited]
  exact (foldl_signal { r with listed := [] } r.listed).1.trans quiet

/-- A call to stop all pollers with which nothing interleaves: the list is taken over, all in it are
told to stop, and each of them ends before it is awaited. -/
theorem exists_steps_stopAll (hr : r.Sound) (quiet : r.calls = []) (free : r.isFree caller = true) :
    ∃ xs : List Step,
      (∀ x ∈ xs, x ∈ [.takeOver caller, .signal caller, .await caller, .return caller] ∨
        ∃ id ∈ r.listed, x = .finish id) ∧
      xs.foldlM step r = .ok (r.stopAll caller) := by
  obtain ⟨hcalls, hphases⟩ := foldl_signal { r with listed := [] } r.listed
  have hstarted : ∀ id ∈ r.listed,
      (r.listed.foldl signal { r with listed := [] }).phaseOf id = some .running ∨
        (r.listed.foldl signal { r with listed := [] }).phaseOf id = some .finished := by
    intro id hid
    obtain ⟨phase, hphase⟩ := exists_phaseOf (hr.listed id hid)
    rw [hphases]
    change r.phaseOf id = _ ∨ r.phaseOf id = _
    cases phase with
    | running => exact .inl hphase
    | finished => exact .inr hphase
    | created =>
      -- Somebody would be about to start it, but no call is under way.
      obtain ⟨c, hc⟩ := (hr.created id).1 hphase
      rw [callOf, quiet] at hc
      cases hc
  obtain ⟨ys, hys, hawaited⟩ := exists_steps_await caller r.listed (hcalls.trans quiet) hstarted
  have hall : r.listed.foldl (awaited · caller) (r.listed.foldl signal { r with listed := [] }) =
      r.stopAll caller := foldl_awaited _ caller r.listed
  rw [hall] at hawaited
  have hquiet : (r.stopAll caller).calls = [] := calls_stopAll quiet caller
  have hlast := Takes.return (r := (r.stopAll caller).setCall caller (.stopping [] []))
    ((callOf_setCall _ caller caller _).trans (if_pos rfl))
  rw [endCall_setCall hquiet] at hlast
  have hsignals := steps_signal { r with listed := [] } caller r.listed r.listed
  have hends : [.return caller].foldlM step
      ((r.stopAll caller).setCall caller (.stopping [] [])) = .ok (r.stopAll caller) :=
    steps_cons hlast rfl
  refine ⟨.takeOver caller ::
      (List.replicate r.listed.length (.signal caller) ++ (ys ++ [.return caller])), ?_,
    steps_cons (.takeOver free) (steps_append hsignals (steps_append hawaited hends))⟩
  intro x hx
  simp only [List.mem_cons, List.mem_append, List.mem_replicate, List.not_mem_nil, or_false] at hx ⊢
  rcases hx with rfl | ⟨-, rfl⟩ | hx | rfl
  · exact .inl (.inl rfl)
  · exact .inl (.inr (.inl rfl))
  · exact (hys x hx).imp (fun h => .inr (.inr (.inl h))) fun h => h
  · exact .inl (.inr (.inr (.inr rfl)))

/-! ## Registries without a call under way -/

/-- A row of steps leads to the registry, and every call is over. -/
structure Settled (r : Registry) : Prop where
  quiet : r.calls = []
  reached : ∃ xs, run xs = .ok r

theorem settled_empty : Settled empty := ⟨rfl, [], rfl⟩

theorem isFree_of_quiet (quiet : r.calls = []) (running : r.isRunning id = true) :
    r.isFree (.poller id) = true := by
  simp [isFree, callOf, quiet, running]

theorem phaseOf_register_start (r : Registry) :
    (r.register.start r.pollers.length).phaseOf r.pollers.length = some .running := by
  rw [Registry.start, phaseOf_setPhase, if_pos rfl, phaseOf_register, if_pos rfl]
  rfl

/-- A poller whose callback stops all pollers goes on running. -/
theorem phaseOf_stopAll_self (r : Registry) (id : Nat) :
    (r.stopAll (.poller id)).phaseOf id = r.phaseOf id := by
  have hawaited : ∀ (ids : List Nat) (s : Registry),
      (ids.foldl (awaited · (.poller id)) s).phaseOf id = s.phaseOf id := by
    intro ids
    induction ids with
    | nil => exact fun _ => rfl
    | cons i rest ih =>
      intro s
      rw [List.foldl_cons, ih, awaited]
      split
      · rfl
      · next hne =>
        have hi : id ≠ i := fun h => hne (by rw [h])
        rw [finish, phaseOf_setPhase, if_neg hi]
  have hall := hawaited r.listed (r.listed.foldl signal { r with listed := [] })
  rw [foldl_awaited] at hall
  exact hall.trans ((foldl_signal { r with listed := [] } r.listed).2 id)

theorem isRunning_finish {i : Nat} (h : (r.finish i).isRunning id = true) :
    r.isRunning id = true ∧ id ≠ i := by
  rw [isRunning_iff, finish, phaseOf_setPhase] at h
  split at h
  · obtain ⟨_, -, hfinished⟩ := Option.map_eq_some_iff.1 h
    cases hfinished
  · next hne => exact ⟨isRunning_iff.2 h, hne⟩

theorem isRunning_awaited {i : Nat} (h : (r.awaited caller i).isRunning id = true) :
    r.isRunning id = true ∧ (id = i → caller = .poller id) := by
  unfold awaited at h
  split at h
  · next hself => exact ⟨h, fun hid => hid ▸ hself⟩
  · obtain ⟨hbefore, hne⟩ := isRunning_finish h
    exact ⟨hbefore, fun hid => absurd hid hne⟩

theorem isRunning_foldl_awaited {ids : List Nat}
    (h : (ids.foldl (awaited · caller) r).isRunning id = true) :
    r.isRunning id = true ∧ (id ∈ ids → caller = .poller id) := by
  induction ids generalizing r with
  | nil => exact ⟨h, by simp⟩
  | cons i rest ih =>
    obtain ⟨hafter, hrest⟩ := ih h
    obtain ⟨hbefore, hfirst⟩ := isRunning_awaited hafter
    exact ⟨hbefore, fun hid => (List.mem_cons.1 hid).elim hfirst hrest⟩

/-- Of the pollers in the list, only one whose callback stops them all goes on running. -/
theorem isRunning_stopAll (h : (r.stopAll caller).isRunning id = true) :
    r.isRunning id = true ∧ (id ∈ r.listed → caller = .poller id) := by
  have hall := foldl_awaited (r.listed.foldl signal { r with listed := [] }) caller r.listed
  rw [stopAll, ← hall] at h
  obtain ⟨hsignalled, hself⟩ := isRunning_foldl_awaited h
  rw [isRunning_iff, (foldl_signal { r with listed := [] } r.listed).2] at hsignalled
  exact ⟨isRunning_iff.2 hsignalled, hself⟩

/-- Where all that run are listed, starting another one keeps it so. -/
theorem mem_listed_register_start (h : ∀ id, r.isRunning id = true → id ∈ r.listed)
    (running : (r.register.start r.pollers.length).isRunning id = true) :
    id ∈ (r.register.start r.pollers.length).listed := by
  refine mem_listed_register.2 ?_
  rw [isRunning_iff, Registry.start, phaseOf_setPhase, phaseOf_register] at running
  by_cases hid : id = r.pollers.length
  · exact .inr hid
  · rw [if_neg hid, if_neg hid] at running
    exact .inl ⟨h id (isRunning_iff.2 running), running⟩

namespace Settled

theorem steps (h : r.Settled) (quiet : r'.calls = []) (hsteps : xs.foldlM step r = .ok r') :
    r'.Settled := by
  obtain ⟨front, hfront⟩ := h.reached
  refine ⟨quiet, front ++ xs, ?_⟩
  rw [run_append, hfront]
  exact hsteps

theorem sound (h : r.Settled) : r.Sound := by
  obtain ⟨xs, hxs⟩ := h.reached
  exact sound_of_run hxs

theorem isFree_owner (h : r.Settled) : r.isFree .owner = true := by
  simp [isFree, callOf, h.quiet]

theorem start (h : r.Settled) : (r.register.start r.pollers.length).Settled :=
  h.steps h.quiet (steps_start h.quiet h.isFree_owner)

theorem stopAll (h : r.Settled) (free : r.isFree caller = true) : (r.stopAll caller).Settled := by
  obtain ⟨xs, -, hxs⟩ := exists_steps_stopAll h.sound h.quiet free
  exact h.steps (calls_stopAll h.quiet caller) hxs

theorem finish (h : r.Settled) (running : r.isRunning id = true) : (r.finish id).Settled := by
  have hends : [.finish id].foldlM step r = .ok (r.finish id) :=
    steps_cons (.finish (isFree_of_quiet h.quiet running)) rfl
  exact h.steps h.quiet hends

end Settled

end Registry

namespace Session

/-- What holds between the calls of the owner: no call is under way, and all pollers that run are in
the list. -/
structure Orderly (s : Session) : Prop where
  settled : s.registry.Settled
  listed : ∀ id, s.registry.isRunning id = true → id ∈ s.registry.listed

variable {s : Session}

theorem orderly_ofReplies (client : Client) (replies : List Reply) :
    (ofReplies client replies).Orderly :=
  ⟨Registry.settled_empty, fun _ h => by cases h⟩

theorem registry_stopAs (s : Session) (caller : Caller) :
    (s.stopAs caller).registry = s.registry.stopAll caller := by
  by_cases hnone : s.registry.listed.length = 0 <;> simp [stopAs, hnone, log]

theorem orderly_startPoller (h : s.Orderly) (transactionId : Option String) :
    (s.startPoller transactionId).Orderly :=
  ⟨h.settled.start, fun _ => Registry.mem_listed_register_start h.listed⟩

/-- When the owner has stopped all pollers, none runs. -/
theorem not_isRunning_stop (h : s.Orderly) (id : Nat) : s.stop.registry.isRunning id = false := by
  rw [stop, registry_stopAs, Bool.eq_false_iff]
  intro hrunning
  obtain ⟨hbefore, hself⟩ := Registry.isRunning_stopAll hrunning
  cases hself (h.listed id hbefore)

theorem orderly_stop (h : s.Orderly) : s.stop.Orderly := by
  constructor
  · rw [stop, registry_stopAs]
    exact h.settled.stopAll h.settled.isFree_owner
  · intro id hrunning
    rw [not_isRunning_stop h] at hrunning
    cases hrunning

theorem orderly_close (h : s.Orderly) : s.close.Orderly := by
  have hregistry : s.close.registry = s.stop.registry := by
    cases howns : s.stop.client.ownsSession <;> simp [close, howns]
  constructor
  · rw [hregistry]
    exact (orderly_stop h).settled
  · rw [hregistry]
    exact (orderly_stop h).listed

/-- A poller that is awaited runs to its end, even if its callback stops all pollers. -/
theorem orderly_runPoller (h : s.Orderly) (timer : Timer) (transactionId : Option String)
    (username : String) (callbackStops : Bool) :
    (s.runPoller timer transactionId username callbackStops).2.Orderly := by
  have hstarted := orderly_startPoller h transactionId
  have hrunning : (s.startPoller transactionId).registry.isRunning s.registry.pollers.length = true :=
    Registry.isRunning_iff.2 (Registry.phaseOf_register_start s.registry)
  have hfree := Registry.isFree_of_quiet hstarted.settled.quiet hrunning
  rcases hrun : (pollLoop (s.startPoller transactionId).client timer transactionId username false
    ((s.startPoller transactionId).conversation.pending.length + 1) 0).run
    (s.startPoller transactionId).conversation with ⟨run, conversation⟩
  cases hstops : run.delivered?.isSome && callbackStops with
  | false =>
    simp only [runPoller, hrun, hstops, Bool.false_eq_true, if_false]
    refine ⟨hstarted.settled.finish hrunning, fun id hid => hstarted.listed id ?_⟩
    exact (Registry.isRunning_finish hid).1
  | true =>
    have hgoesOn : ((s.startPoller transactionId).registry.stopAll
        (.poller s.registry.pollers.length)).isRunning s.registry.pollers.length = true := by
      rw [Registry.isRunning_iff, Registry.phaseOf_stopAll_self]
      exact Registry.isRunning_iff.1 hrunning
    simp only [runPoller, hrun, hstops, if_true, registry_stopAs]
    refine ⟨(hstarted.settled.stopAll hfree).finish hgoesOn, fun id hid => ?_⟩
    -- Only the poller that made the call outlives it, and it is the one that ends now.
    obtain ⟨hbefore, hother⟩ := Registry.isRunning_finish hid
    obtain ⟨hlisted, hself⟩ := Registry.isRunning_stopAll hbefore
    cases hself (hstarted.listed id hlisted)
    exact absurd rfl hother

end Session

end SecondFactor.Client
