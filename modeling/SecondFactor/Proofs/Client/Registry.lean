import SecondFactor.Client.Poller

/-!
# The steps of the registry

What each step reads and changes, and what every registry keeps to that steps lead to: whatever is
in the list or in a caller's hand was made, and a poller that was not started yet is about to be, by
one caller.
-/
namespace SecondFactor.Client.Registry

/-- The phase of a poller, if there is one of the number. -/
def phaseOf (r : Registry) (id : Nat) : Option Phase := r.pollers[id]?.map Poller.phase

/-- Whether a poller was told to stop. -/
def isSignalled (r : Registry) (id : Nat) : Bool := r.pollers[id]?.any Poller.signalled

variable {r r' : Registry} {caller : Caller} {id : Nat}

/-! ## What the parts of a step change -/

theorem isRunning_iff : r.isRunning id = true ↔ r.phaseOf id = some .running := by
  unfold isRunning phaseOf
  cases r.pollers[id]? <;> simp

theorem lt_of_phaseOf {phase : Phase} (h : r.phaseOf id = some phase) : id < r.pollers.length := by
  refine Nat.lt_of_not_le fun hge => ?_
  unfold phaseOf at h
  rw [List.getElem?_eq_none hge] at h
  cases h

theorem exists_phaseOf (h : id < r.pollers.length) : ∃ phase, r.phaseOf id = some phase := by
  unfold phaseOf
  rw [List.getElem?_eq_getElem h]
  exact ⟨_, rfl⟩

theorem callOf_endCall (r : Registry) (caller c : Caller) :
    (r.endCall caller).callOf c = if c = caller then none else r.callOf c := by
  unfold callOf endCall
  induction r.calls with
  | nil => simp
  | cons x rest ih =>
    obtain ⟨c', call⟩ := x
    by_cases hx : c' = caller
    · by_cases hc : c = caller
      · simpa [hx, hc] using ih
      · simpa [hx, hc, List.lookup_cons, beq_false_of_ne hc] using ih
    · by_cases hc : c = c'
      · simp [hx, hc]
      · simpa [hx, List.lookup_cons, beq_false_of_ne hc] using ih

theorem callOf_setCall (r : Registry) (caller c : Caller) (call : Call) :
    (r.setCall caller call).callOf c = if c = caller then some call else r.callOf c := by
  have hrest := callOf_endCall r caller c
  unfold callOf at hrest ⊢
  by_cases h : c = caller
  · simp [setCall, h]
  · rw [if_neg h] at hrest ⊢
    simpa [setCall, List.lookup_cons, beq_false_of_ne h] using hrest

theorem phaseOf_register (r : Registry) (id : Nat) :
    r.register.phaseOf id = if id = r.pollers.length then some .created else r.phaseOf id := by
  unfold phaseOf register
  rcases Nat.lt_trichotomy id r.pollers.length with h | h | h
  · rw [List.getElem?_append_left h, if_neg (by omega)]
  · simp [h]
  · rw [List.getElem?_append_right (by omega), if_neg (by omega),
      List.getElem?_eq_none (l := r.pollers) (by omega)]
    obtain ⟨k, hk⟩ : ∃ k, id - r.pollers.length = k + 1 := ⟨id - r.pollers.length - 1, by omega⟩
    simp [hk]

theorem isSignalled_register (r : Registry) (id : Nat) :
    r.register.isSignalled id = r.isSignalled id := by
  unfold isSignalled register
  rcases Nat.lt_trichotomy id r.pollers.length with h | h | h
  · rw [List.getElem?_append_left h]
  · simp [h]
  · rw [List.getElem?_append_right (by omega), List.getElem?_eq_none (l := r.pollers) (by omega)]
    obtain ⟨k, hk⟩ : ∃ k, id - r.pollers.length = k + 1 := ⟨id - r.pollers.length - 1, by omega⟩
    simp [hk]

theorem phaseOf_setPhase (r : Registry) (i id : Nat) (phase : Phase) :
    (r.setPhase i phase).phaseOf id =
      if id = i then (r.phaseOf id).map fun _ => phase else r.phaseOf id := by
  unfold phaseOf setPhase
  rw [List.getElem?_modify]
  by_cases h : id = i
  · subst h
    cases r.pollers[id]? <;> simp
  · simp [h, Ne.symm h]

theorem isSignalled_setPhase (r : Registry) (i id : Nat) (phase : Phase) :
    (r.setPhase i phase).isSignalled id = r.isSignalled id := by
  unfold isSignalled setPhase
  rw [List.getElem?_modify]
  cases r.pollers[id]? <;> simp [apply_ite]

theorem phaseOf_signal (r : Registry) (i id : Nat) :
    (r.signal i).phaseOf id = r.phaseOf id := by
  unfold phaseOf signal
  rw [List.getElem?_modify]
  cases r.pollers[id]? <;> simp [apply_ite]

theorem isSignalled_signal (r : Registry) (i id : Nat) :
    (r.signal i).isSignalled id = (r.isSignalled id || id = i && (r.phaseOf id).isSome) := by
  unfold isSignalled phaseOf signal
  rw [List.getElem?_modify]
  by_cases h : id = i
  · subst h
    cases r.pollers[id]? <;> simp
  · simp [h, Ne.symm h]

section

variable (r : Registry) (caller : Caller) (call : Call) (id i : Nat) (phase : Phase)

@[simp] theorem listed_setCall : (r.setCall caller call).listed = r.listed := rfl

@[simp] theorem listed_endCall : (r.endCall caller).listed = r.listed := rfl

@[simp] theorem listed_signal : (r.signal i).listed = r.listed := rfl

@[simp] theorem phaseOf_setCall : (r.setCall caller call).phaseOf id = r.phaseOf id := rfl

@[simp] theorem phaseOf_endCall : (r.endCall caller).phaseOf id = r.phaseOf id := rfl

@[simp] theorem callOf_setPhase : (r.setPhase i phase).callOf caller = r.callOf caller := rfl

end

theorem length_register : r.register.pollers.length = r.pollers.length + 1 := by
  simp [register]

theorem mem_listed_register : id ∈ r.register.listed ↔
    id ∈ r.listed ∧ r.phaseOf id = some .running ∨ id = r.pollers.length := by
  simp [register, isRunning_iff]

theorem length_setPhase (r : Registry) (i : Nat) (phase : Phase) :
    (r.setPhase i phase).pollers.length = r.pollers.length := by
  simp [setPhase]

theorem length_signal (r : Registry) (i : Nat) :
    (r.signal i).pollers.length = r.pollers.length := by
  simp [signal]

/-! ## Steps -/

/-- What a step can do, with all that it asks for. -/
inductive Takes (r : Registry) : Step → Registry → Prop
  | register {caller : Caller} (free : r.isFree caller = true) :
      Takes r (.register caller) (r.register.setCall caller (.starting r.pollers.length))
  | start {caller : Caller} {id : Nat} (call : r.callOf caller = some (.starting id)) :
      Takes r (.start caller) ((r.setPhase id .running).endCall caller)
  | takeOver {caller : Caller} (free : r.isFree caller = true) :
      Takes r (.takeOver caller)
        ({ r with listed := [] }.setCall caller (.stopping r.listed r.listed))
  | signal {caller : Caller} {id : Nat} {rest toAwait : List Nat}
      (call : r.callOf caller = some (.stopping (id :: rest) toAwait)) :
      Takes r (.signal caller) ((r.signal id).setCall caller (.stopping rest toAwait))
  | await {caller : Caller} {id : Nat} {rest : List Nat}
      (call : r.callOf caller = some (.stopping [] (id :: rest)))
      (goes : r.await caller id = .ok ()) :
      Takes r (.await caller) (r.setCall caller (.stopping [] rest))
  | return {caller : Caller} (call : r.callOf caller = some (.stopping [] [])) :
      Takes r (.return caller) (r.endCall caller)
  | breakOff {caller : Caller} {id : Nat} {rest : List Nat}
      (call : r.callOf caller = some (.stopping [] (id :: rest)))
      (fails : r.await caller id = .error .notStarted) :
      Takes r (.breakOff caller) (r.endCall caller)
  | finish {id : Nat} (free : r.isFree (.poller id) = true) :
      Takes r (.finish id) (r.setPhase id .finished)

theorem takes_of_step {x : Step} (h : r.step x = .ok r') : Takes r x r' := by
  cases x with
  | register caller =>
    simp only [step] at h
    split at h
    · next free =>
      cases h
      exact .register free
    · cases h
  | start caller =>
    simp only [step] at h
    split at h
    · next id call =>
      cases h
      exact .start call
    · cases h
  | takeOver caller =>
    simp only [step] at h
    split at h
    · next free =>
      cases h
      exact .takeOver free
    · cases h
  | signal caller =>
    simp only [step] at h
    split at h
    · next id rest toAwait call =>
      cases h
      exact .signal call
    · cases h
  | await caller =>
    simp only [step] at h
    split at h
    · next id rest call =>
      cases hawait : r.await caller id with
      | error e => simp [hawait, bind, Except.bind] at h
      | ok _ =>
        simp only [hawait, bind, Except.bind, pure, Except.pure] at h
        cases h
        exact .await call hawait
    · cases h
  | «return» caller =>
    simp only [step] at h
    split at h
    · next call =>
      cases h
      exact .return call
    · cases h
  | breakOff caller =>
    simp only [step] at h
    split at h
    · next id rest call =>
      split at h
      · next fails =>
        cases h
        exact .breakOff call fails
      · cases h
    · cases h
  | finish id =>
    simp only [step] at h
    split at h
    · next free =>
      cases h
      exact .finish free
    · cases h

/-- A caller that is free has no call under way. -/
theorem callOf_of_isFree (h : r.isFree caller = true) : r.callOf caller = none := by
  simp only [isFree, Bool.and_eq_true, Option.isNone_iff_eq_none] at h
  exact h.1

/-- A callback makes its calls while its poller runs. -/
theorem isRunning_of_isFree (h : r.isFree (.poller id) = true) : r.isRunning id = true := by
  simp only [isFree, Bool.and_eq_true] at h
  exact h.2

/-! ## What holds of every registry -/

/-- What the steps rely on. -/
structure Sound (r : Registry) : Prop where
  /-- What is in the list was made. -/
  listed : ∀ id ∈ r.listed, id < r.pollers.length
  /-- So was what is being stopped. -/
  stopping : ∀ caller toSignal toAwait, r.callOf caller = some (.stopping toSignal toAwait) →
    (∀ id ∈ toSignal, id < r.pollers.length) ∧ ∀ id ∈ toAwait, id < r.pollers.length
  /-- A poller that was not started yet is about to be. -/
  created : ∀ id, r.phaseOf id = some .created ↔ ∃ caller, r.callOf caller = some (.starting id)
  /-- Only one caller is to start it. -/
  starter : ∀ caller other id, r.callOf caller = some (.starting id) →
    r.callOf other = some (.starting id) → caller = other
  /-- A callback's poller goes on running until its call is over. -/
  callback : ∀ id call, r.callOf (.poller id) = some call → r.phaseOf id = some .running

theorem sound_empty : Sound empty := by
  constructor <;> simp [empty, callOf, phaseOf]

namespace Sound

/-- Steps in which a caller takes the list over or works off what it took over, or is done with it,
leave the pollers in their phases. -/
theorem stopping_turn (hr : r.Sound) (hlength : r'.pollers.length = r.pollers.length)
    (hphase : ∀ id, r'.phaseOf id = r.phaseOf id) (hlisted : ∀ id ∈ r'.listed, id ∈ r.listed)
    {next : Option Call} (hcalls : ∀ c, r'.callOf c = if c = caller then next else r.callOf c)
    (hbefore : ∀ id, r.callOf caller ≠ some (.starting id))
    (hnext : ∀ call, next = some call → ∃ toSignal toAwait, call = .stopping toSignal toAwait ∧
      (∀ id ∈ toSignal, id < r.pollers.length) ∧ ∀ id ∈ toAwait, id < r.pollers.length)
    (hcallback : ∀ id, caller = .poller id → next ≠ none → r.phaseOf id = some .running) :
    r'.Sound := by
  have hstarting : ∀ c id, r'.callOf c = some (.starting id) ↔ r.callOf c = some (.starting id) := by
    intro c id
    rw [hcalls]
    by_cases hc : c = caller
    · have hnot : next ≠ some (.starting id) := by
        intro h
        obtain ⟨_, _, hcall, -⟩ := hnext _ h
        cases hcall
      simp [hc, hnot, hbefore]
    · simp [hc]
  refine ⟨?_, ?_, ?_, ?_, ?_⟩
  · intro id hid
    rw [hlength]
    exact hr.listed id (hlisted id hid)
  · intro c toSignal toAwait hc
    rw [hcalls] at hc
    rw [hlength]
    split at hc
    · obtain ⟨_, _, hcall, hbound⟩ := hnext _ hc
      cases hcall
      exact hbound
    · exact hr.stopping c toSignal toAwait hc
  · intro id
    rw [hphase, hr.created]
    exact exists_congr fun c => (hstarting c id).symm
  · intro c c' id hc hc'
    exact hr.starter c c' id ((hstarting c id).1 hc) ((hstarting c' id).1 hc')
  · intro id call hc
    rw [hcalls] at hc
    rw [hphase]
    split at hc
    · next heq => exact hcallback id heq.symm (by simp [hc])
    · exact hr.callback id call hc

theorem register (hr : r.Sound) (free : r.isFree caller = true) :
    (r.register.setCall caller (.starting r.pollers.length)).Sound := by
  have hfree : r.callOf caller = none := callOf_of_isFree free
  have hnew : ∀ c, r.callOf c ≠ some (.starting r.pollers.length) := by
    intro c hc
    have hlt := lt_of_phaseOf ((hr.created r.pollers.length).2 ⟨c, hc⟩)
    omega
  have hcalls : ∀ c, (r.register.setCall caller (.starting r.pollers.length)).callOf c =
      if c = caller then some (.starting r.pollers.length) else r.callOf c :=
    fun c => callOf_setCall r.register caller c _
  have hlength : (r.register.setCall caller (.starting r.pollers.length)).pollers.length =
      r.pollers.length + 1 := length_register
  refine ⟨?_, ?_, ?_, ?_, ?_⟩
  · intro id hid
    rw [hlength]
    rcases mem_listed_register.1 hid with ⟨hold, -⟩ | rfl
    · have := hr.listed id hold
      omega
    · omega
  · intro c toSignal toAwait hc
    rw [hcalls] at hc
    rw [hlength]
    split at hc
    · cases hc
    · obtain ⟨hsignal, hawait⟩ := hr.stopping c toSignal toAwait hc
      exact ⟨fun id hid => Nat.lt_succ_of_lt (hsignal id hid),
        fun id hid => Nat.lt_succ_of_lt (hawait id hid)⟩
  · intro id
    rw [phaseOf_setCall, phaseOf_register]
    by_cases hid : id = r.pollers.length
    · rw [if_pos hid]
      exact iff_of_true rfl ⟨caller, by rw [hcalls, if_pos rfl, hid]⟩
    · rw [if_neg hid, hr.created]
      refine exists_congr fun c => ?_
      rw [hcalls]
      by_cases hc : c = caller
      · simp [hc, hfree, Ne.symm hid]
      · simp [hc]
  · intro c c' id hc hc'
    rw [hcalls] at hc hc'
    grind [hr.starter c c' id]
  · intro id call hc
    rw [hcalls] at hc
    have hrunning : r.phaseOf id = some .running := by
      split at hc
      · next heq => exact isRunning_iff.1 (isRunning_of_isFree (heq ▸ free))
      · exact hr.callback id call hc
    have hlt := lt_of_phaseOf hrunning
    rw [phaseOf_setCall, phaseOf_register, if_neg (by omega), hrunning]

theorem start (hr : r.Sound) (call : r.callOf caller = some (.starting id)) :
    ((r.setPhase id .running).endCall caller).Sound := by
  have hcreated : r.phaseOf id = some .created := (hr.created id).2 ⟨caller, call⟩
  have hcalls : ∀ c, ((r.setPhase id .running).endCall caller).callOf c =
      if c = caller then none else r.callOf c := fun c => callOf_endCall _ caller c
  have hphases : ∀ i, ((r.setPhase id .running).endCall caller).phaseOf i =
      if i = id then some .running else r.phaseOf i := by
    intro i
    rw [phaseOf_endCall, phaseOf_setPhase]
    by_cases hi : i = id
    · simp [hi, hcreated]
    · simp [hi]
  have hlength : ((r.setPhase id .running).endCall caller).pollers.length = r.pollers.length :=
    length_setPhase r id .running
  refine ⟨?_, ?_, ?_, ?_, ?_⟩
  · intro i hi
    rw [hlength]
    exact hr.listed i hi
  · intro c toSignal toAwait hc
    rw [hcalls] at hc
    rw [hlength]
    split at hc
    · cases hc
    · exact hr.stopping c toSignal toAwait hc
  · intro i
    rw [hphases]
    by_cases hi : i = id
    · rw [if_pos hi]
      refine iff_of_false (by simp) ?_
      rintro ⟨c, hc⟩
      rw [hcalls] at hc
      split at hc
      · cases hc
      · next hne => exact hne (hr.starter c caller id (hi ▸ hc) call)
    · rw [if_neg hi, hr.created]
      refine exists_congr fun c => ?_
      rw [hcalls]
      by_cases hc : c = caller
      · simp [hc, call, Ne.symm hi]
      · simp [hc]
  · intro c c' i hc hc'
    rw [hcalls] at hc hc'
    grind [hr.starter c c' i]
  · intro i other hc
    rw [hcalls] at hc
    rw [hphases]
    split at hc
    · cases hc
    · simp [hr.callback i other hc]

theorem finish (hr : r.Sound) (free : r.isFree (.poller id) = true) :
    (r.setPhase id .finished).Sound := by
  have hrunning : r.phaseOf id = some .running := isRunning_iff.1 (isRunning_of_isFree free)
  have hfree : r.callOf (.poller id) = none := callOf_of_isFree free
  refine ⟨?_, ?_, ?_, hr.starter, ?_⟩
  · intro i hi
    rw [length_setPhase]
    exact hr.listed i hi
  · intro c toSignal toAwait hc
    rw [length_setPhase]
    exact hr.stopping c toSignal toAwait hc
  · intro i
    have hold := hr.created i
    rw [phaseOf_setPhase]
    by_cases hi : i = id
    · subst hi
      rw [hrunning] at hold ⊢
      simpa using hold
    · rw [if_neg hi]
      exact hold
  · intro i call hc
    have hi : i ≠ id := by
      rintro rfl
      rw [callOf_setPhase, hfree] at hc
      cases hc
    rw [phaseOf_setPhase, if_neg hi]
    exact hr.callback i call hc

end Sound

theorem Takes.sound {x : Step} (h : Takes r x r') (hr : r.Sound) : r'.Sound := by
  cases h with
  | register free => exact hr.register free
  | start call => exact hr.start call
  | finish free => exact hr.finish free
  | @takeOver caller free =>
    refine hr.stopping_turn rfl (fun _ => rfl) (by simp) (fun c => callOf_setCall _ caller c _)
      (by simp [callOf_of_isFree free]) ?_ ?_
    · rintro call ⟨⟩
      exact ⟨r.listed, r.listed, rfl, hr.listed, hr.listed⟩
    · rintro id rfl -
      exact isRunning_iff.1 (isRunning_of_isFree free)
  | @signal caller id rest toAwait call =>
    obtain ⟨hsignal, hawait⟩ := hr.stopping caller _ _ call
    refine hr.stopping_turn (length_signal r id) (phaseOf_signal r id) (by simp)
      (fun c => callOf_setCall _ caller c _) (by simp [call]) ?_ ?_
    · rintro next ⟨⟩
      exact ⟨rest, toAwait, rfl, fun i hi => hsignal i (List.mem_cons_of_mem _ hi), hawait⟩
    · rintro i rfl -
      exact hr.callback i _ call
  | @await caller id rest call goes =>
    obtain ⟨-, hawait⟩ := hr.stopping caller _ _ call
    refine hr.stopping_turn rfl (fun _ => rfl) (by simp) (fun c => callOf_setCall _ caller c _)
      (by simp [call]) ?_ ?_
    · rintro next ⟨⟩
      exact ⟨[], rest, rfl, by simp, fun i hi => hawait i (List.mem_cons_of_mem _ hi)⟩
    · rintro i rfl -
      exact hr.callback i _ call
  | @«return» caller call =>
    exact hr.stopping_turn rfl (fun _ => rfl) (by simp) (fun c => callOf_endCall r caller c)
      (by simp [call]) (by simp) (by simp)
  | @breakOff caller id rest call fails =>
    exact hr.stopping_turn rfl (fun _ => rfl) (by simp) (fun c => callOf_endCall r caller c)
      (by simp [call]) (by simp) (by simp)

/-! ## Rows of steps -/

/-- What a row of steps makes of a registry without pollers, if each of them can be taken. -/
def run (xs : List Step) : Except Refusal Registry := xs.foldlM step empty

variable {xs : List Step} {x : Step}

theorem run_append (front xs : List Step) :
    run (front ++ xs) = run front >>= fun r => xs.foldlM step r := by
  simp [run]

theorem run_concat (h : run xs = .ok r) (x : Step) : run (xs ++ [x]) = r.step x := by
  have hlast : [x].foldlM step r = r.step x := by
    rw [List.foldlM_cons]
    cases r.step x <;> rfl
  rw [run_append, h]
  exact hlast

/-- What holds after some steps and is kept by every step goes on to hold. -/
theorem steps_induction {P : List Step → Registry → Prop}
    (next : ∀ xs x r r', run xs = .ok r → Takes r x r' → P xs r → P (xs ++ [x]) r')
    {front xs : List Step} (hrun : run front = .ok r) (start : P front r)
    (h : xs.foldlM step r = .ok r') : P (front ++ xs) r' := by
  induction xs generalizing front r with
  | nil =>
    cases h
    simpa using start
  | cons x rest ih =>
    rw [List.foldlM_cons] at h
    cases hstep : r.step x with
    | error e =>
      rw [hstep] at h
      cases h
    | ok s =>
      rw [hstep] at h
      have hnext : P (front ++ [x]) s := next front x r s hrun (takes_of_step hstep) start
      simpa using ih ((run_concat hrun x).trans hstep) hnext h

/-- What holds at first and is kept by every step holds after every row of steps. -/
theorem run_induction {P : List Step → Registry → Prop} (first : P [] empty)
    (next : ∀ xs x r r', run xs = .ok r → Takes r x r' → P xs r → P (xs ++ [x]) r')
    {xs : List Step} {r : Registry} (h : run xs = .ok r) : P xs r :=
  steps_induction next rfl first h

theorem sound_of_run (h : run xs = .ok r) : r.Sound :=
  run_induction (P := fun _ r => r.Sound) sound_empty (fun _ _ _ _ _ takes hr => takes.sound hr) h

end SecondFactor.Client.Registry
