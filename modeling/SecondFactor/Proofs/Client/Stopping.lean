import SecondFactor.Proofs.Client.Registry

/-!
# Which pollers can be stopped

Callers interleave, so a poller can be in the list without running yet when somebody else comes to
register another one or to stop them all. The first drops it from the list, and nothing will ever
tell it to stop; the second cannot await it. These two are all that goes wrong: any other poller
that runs and was not told to stop is in the list, or some call that stops pollers has it in hand.
-/
namespace SecondFactor.Client.Registry

/-- The caller is stopping pollers and has still to tell this one. -/
def Holds (r : Registry) (caller : Caller) (id : Nat) : Prop :=
  ∃ toSignal toAwait, r.callOf caller = some (.stopping toSignal toAwait) ∧ id ∈ toSignal

/-- A poller is in the list, or it was taken over from it and is still to be told to stop. -/
def Kept (r : Registry) (id : Nat) : Prop := id ∈ r.listed ∨ ∃ caller, r.Holds caller id

/-- In a row of steps a poller was overtaken: it was in the list and not started yet when another
one was registered. -/
def Overtaken (xs : List Step) (id : Nat) : Prop :=
  ∃ front caller back r, xs = front ++ .register caller :: back ∧ run front = .ok r ∧
    id ∈ r.listed ∧ r.phaseOf id = some .created

variable {r r' : Registry} {caller : Caller} {id : Nat}
variable {xs : List Step} {x : Step}

/-! ## What a caller has in hand -/

theorem holds_iff_mem {toSignal toAwait : List Nat}
    (call : r.callOf caller = some (.stopping toSignal toAwait)) :
    r.Holds caller id ↔ id ∈ toSignal := by
  unfold Holds
  rw [call]
  simp

/-- A caller that does not stop pollers has none in hand. -/
theorem not_holds (h : ∀ toSignal toAwait, r.callOf caller ≠ some (.stopping toSignal toAwait)) :
    ¬ r.Holds caller id := by
  rintro ⟨toSignal, toAwait, call, -⟩
  exact h toSignal toAwait call

/-- What a step of one caller changes is in nobody else's hand. -/
theorem holds_of_ne {next : Option Call}
    (hcalls : ∀ c, r'.callOf c = if c = caller then next else r.callOf c) {c : Caller}
    (hc : c ≠ caller) : r'.Holds c id ↔ r.Holds c id := by
  unfold Holds
  rw [hcalls, if_neg hc]

/-- A step of a caller that has nothing in hand, before and after, changes nobody's. -/
theorem holds_of_idle {next : Option Call}
    (hcalls : ∀ c, r'.callOf c = if c = caller then next else r.callOf c)
    (hbefore : ∀ i, ¬ r.Holds caller i) (hafter : ∀ i, ¬ r'.Holds caller i) (c : Caller) (i : Nat) :
    r'.Holds c i ↔ r.Holds c i := by
  by_cases hc : c = caller
  · subst hc
    exact iff_of_false (hafter i) (hbefore i)
  · exact holds_of_ne hcalls hc

/-! ## Who was overtaken -/

theorem overtaken_concat (h : run xs = .ok r) : Overtaken (xs ++ [x]) id ↔
    Overtaken xs id ∨
      (∃ caller, x = .register caller) ∧ id ∈ r.listed ∧ r.phaseOf id = some .created := by
  constructor
  · rintro ⟨front, caller, back, s, heq, hs, hlisted, hcreated⟩
    rcases List.eq_nil_or_concat back with rfl | ⟨back, y, rfl⟩
    · obtain ⟨rfl, hx⟩ := List.append_inj' heq rfl
      rw [h] at hs
      cases hs
      cases hx
      exact .inr ⟨⟨caller, rfl⟩, hlisted, hcreated⟩
    · rw [List.concat_eq_append, ← List.cons_append, ← List.append_assoc] at heq
      obtain ⟨heq, -⟩ := List.append_inj' heq rfl
      exact .inl ⟨front, caller, back, s, heq, hs, hlisted, hcreated⟩
  · rintro (⟨front, caller, back, s, rfl, hs, hlisted, hcreated⟩ |
      ⟨⟨caller, rfl⟩, hlisted, hcreated⟩)
    · exact ⟨front, caller, back ++ [x], s, by simp, hs, hlisted, hcreated⟩
    · exact ⟨xs, caller, [], r, rfl, h, hlisted, hcreated⟩

/-! ## Where a poller is -/

/-- Where the pollers are after a row of steps. -/
structure Accounts (xs : List Step) (r : Registry) : Prop where
  sound : r.Sound
  /-- What is in the list was not told to stop, and nobody is about to. -/
  listed : ∀ id ∈ r.listed, r.isSignalled id = false ∧ ∀ caller, ¬ r.Holds caller id
  kept : ∀ id phase, r.phaseOf id = some phase → phase ≠ .finished → r.isSignalled id = false →
    r.Kept id ∨ Overtaken xs id
  /-- What was overtaken is out of reach for good. -/
  overtaken : ∀ id, Overtaken xs id →
    id < r.pollers.length ∧ r.isSignalled id = false ∧ ¬ r.Kept id

theorem accounts_empty : Accounts [] empty := by
  refine ⟨sound_empty, by simp [empty], by simp [empty, phaseOf], ?_⟩
  rintro id ⟨front, caller, back, r, heq, -⟩
  simp at heq

namespace Accounts

theorem register (h : Accounts xs r) (hrun : run xs = .ok r) (free : r.isFree caller = true) :
    Accounts (xs ++ [.register caller])
      (r.register.setCall caller (.starting r.pollers.length)) := by
  have hfree : r.callOf caller = none := callOf_of_isFree free
  have hcalls : ∀ c, (r.register.setCall caller (.starting r.pollers.length)).callOf c =
      if c = caller then some (.starting r.pollers.length) else r.callOf c :=
    fun c => callOf_setCall r.register caller c _
  have hholds : ∀ c i, (r.register.setCall caller (.starting r.pollers.length)).Holds c i ↔
      r.Holds c i :=
    holds_of_idle hcalls (fun i => not_holds (by simp [hfree]))
      fun i => not_holds (by simp [hcalls])
  have hbound : ∀ c i, r.Holds c i → i < r.pollers.length := by
    rintro c i ⟨toSignal, toAwait, hc, hi⟩
    exact (h.sound.stopping c toSignal toAwait hc).1 i hi
  have hlisted : ∀ i, i ∈ (r.register.setCall caller (.starting r.pollers.length)).listed ↔
      i ∈ r.listed ∧ r.phaseOf i = some .running ∨ i = r.pollers.length :=
    fun i => mem_listed_register
  have hsignalled : ∀ i, (r.register.setCall caller (.starting r.pollers.length)).isSignalled i =
      r.isSignalled i := isSignalled_register r
  have hnew : r.isSignalled r.pollers.length = false := by simp [isSignalled]
  refine ⟨h.sound.register free, ?_, ?_, ?_⟩
  · intro i hi
    rw [hsignalled]
    rcases (hlisted i).1 hi with ⟨hold, -⟩ | rfl
    · exact ⟨(h.listed i hold).1, fun c hc => (h.listed i hold).2 c ((hholds c i).1 hc)⟩
    · refine ⟨hnew, fun c hc => ?_⟩
      have := hbound c _ ((hholds c _).1 hc)
      omega
  · intro i phase hphase hunfinished hunsignalled
    rw [hsignalled] at hunsignalled
    rw [overtaken_concat hrun]
    rw [phaseOf_setCall, phaseOf_register] at hphase
    by_cases hi : i = r.pollers.length
    · exact .inl (.inl ((hlisted i).2 (.inr hi)))
    · rw [if_neg hi] at hphase
      rcases h.kept i phase hphase hunfinished hunsignalled with (hold | ⟨c, hc⟩) | hover
      · -- The list keeps what runs; what was not started yet is overtaken by this very step.
        cases phase with
        | created => exact .inr (.inr ⟨⟨caller, rfl⟩, hold, hphase⟩)
        | running => exact .inl (.inl ((hlisted i).2 (.inl ⟨hold, hphase⟩)))
        | finished => exact absurd rfl hunfinished
      · exact .inl (.inr ⟨c, (hholds c i).2 hc⟩)
      · exact .inr (.inl hover)
  · intro i hover
    have hlength : (r.register.setCall caller (.starting r.pollers.length)).pollers.length =
        r.pollers.length + 1 := length_register
    rw [hsignalled, hlength]
    rcases (overtaken_concat hrun).1 hover with hover | ⟨-, hold, hcreated⟩
    · obtain ⟨hlt, hunsignalled, hnot⟩ := h.overtaken i hover
      refine ⟨by omega, hunsignalled, ?_⟩
      rintro (hi | ⟨c, hc⟩)
      · rcases (hlisted i).1 hi with ⟨hold, -⟩ | rfl
        · exact hnot (.inl hold)
        · omega
      · exact hnot (.inr ⟨c, (hholds c i).1 hc⟩)
    · have hlt := h.sound.listed i hold
      obtain ⟨hunsignalled, hnobody⟩ := h.listed i hold
      refine ⟨by omega, hunsignalled, ?_⟩
      rintro (hi | ⟨c, hc⟩)
      · rcases (hlisted i).1 hi with ⟨-, hrunning⟩ | rfl
        · rw [hcreated] at hrunning
          cases hrunning
        · omega
      · exact hnobody c ((hholds c i).1 hc)

/-- Other steps overtake no poller, so it is enough that they lose none. -/
theorem unovertaken (h : Accounts xs r) (hrun : run xs = .ok r)
    (hx : ∀ caller, x ≠ .register caller) (hsound : r'.Sound)
    (hlength : r'.pollers.length = r.pollers.length)
    (hphase : ∀ i phase, r'.phaseOf i = some phase → phase ≠ .finished →
      ∃ before, r.phaseOf i = some before ∧ before ≠ .finished)
    (hlisted : ∀ i ∈ r'.listed, i ∈ r.listed)
    (hsignalled : ∀ i, ¬ (∃ c, r.Holds c i) → r'.isSignalled i = r.isSignalled i)
    (hmore : ∀ i, r'.isSignalled i = false → r.isSignalled i = false)
    (hheld : ∀ i, i ∈ r'.listed → (∃ c, r'.Holds c i) → ∃ c, r.Holds c i)
    (hless : ∀ i, r'.Kept i → r.Kept i)
    (hkeeps : ∀ i, r'.isSignalled i = false → r.Kept i → r'.Kept i) :
    Accounts (xs ++ [x]) r' := by
  have hover : ∀ i, Overtaken (xs ++ [x]) i ↔ Overtaken xs i := by
    intro i
    rw [overtaken_concat hrun, or_iff_left]
    rintro ⟨⟨caller, rfl⟩, -⟩
    exact hx caller rfl
  refine ⟨hsound, ?_, ?_, ?_⟩
  · intro i hi
    obtain ⟨hunsignalled, hnobody⟩ := h.listed i (hlisted i hi)
    have hfree : ¬ ∃ c, r.Holds c i := by
      rintro ⟨c, hc⟩
      exact hnobody c hc
    exact ⟨(hsignalled i hfree).trans hunsignalled, fun c hc => hfree (hheld i hi ⟨c, hc⟩)⟩
  · intro i phase hi hunfinished hunsignalled
    obtain ⟨before, hbefore, hunfinished⟩ := hphase i phase hi hunfinished
    rw [hover]
    exact (h.kept i before hbefore hunfinished (hmore i hunsignalled)).imp
      (hkeeps i hunsignalled) fun h => h
  · intro i hi
    obtain ⟨hlt, hunsignalled, hnot⟩ := h.overtaken i ((hover i).1 hi)
    have hfree : ¬ ∃ c, r.Holds c i := fun hc => hnot (.inr hc)
    exact ⟨by omega, (hsignalled i hfree).trans hunsignalled, fun hk => hnot (hless i hk)⟩

/-- A step that changes neither the list nor what callers have in hand nor what was told. -/
theorem quiet (h : Accounts xs r) (hrun : run xs = .ok r) (hx : ∀ caller, x ≠ .register caller)
    (hsound : r'.Sound) (hlength : r'.pollers.length = r.pollers.length)
    (hphase : ∀ i phase, r'.phaseOf i = some phase → phase ≠ .finished →
      ∃ before, r.phaseOf i = some before ∧ before ≠ .finished)
    (hlisted : r'.listed = r.listed) (hsignalled : ∀ i, r'.isSignalled i = r.isSignalled i)
    (hholds : ∀ c i, r'.Holds c i ↔ r.Holds c i) : Accounts (xs ++ [x]) r' := by
  have hkept : ∀ i, r'.Kept i ↔ r.Kept i := by
    intro i
    unfold Kept
    rw [hlisted]
    exact or_congr_right (exists_congr fun c => hholds c i)
  refine h.unovertaken hrun hx hsound hlength hphase ?_ ?_ ?_ ?_ ?_ ?_
  · intro i hi
    exact hlisted ▸ hi
  · intro i _
    exact hsignalled i
  · intro i hi
    exact (hsignalled i).symm.trans hi
  · rintro i - ⟨c, hc⟩
    exact ⟨c, (hholds c i).1 hc⟩
  · intro i hi
    exact (hkept i).1 hi
  · intro i _ hi
    exact (hkept i).2 hi

theorem start (h : Accounts xs r) (hrun : run xs = .ok r)
    (call : r.callOf caller = some (.starting id)) :
    Accounts (xs ++ [.start caller]) ((r.setPhase id .running).endCall caller) := by
  have hcreated : r.phaseOf id = some .created := (h.sound.created id).2 ⟨caller, call⟩
  have hcalls : ∀ c, ((r.setPhase id .running).endCall caller).callOf c =
      if c = caller then none else r.callOf c := fun c => callOf_endCall _ caller c
  have hholds : ∀ c i, ((r.setPhase id .running).endCall caller).Holds c i ↔ r.Holds c i :=
    holds_of_idle hcalls (fun i => not_holds (by simp [call])) fun i => not_holds (by simp [hcalls])
  refine h.quiet hrun (by simp) (h.sound.start call) (length_setPhase r id .running) ?_ rfl
    (isSignalled_setPhase r id · .running) hholds
  intro i phase hi hunfinished
  rw [phaseOf_endCall, phaseOf_setPhase] at hi
  by_cases hid : i = id
  · exact ⟨.created, hid ▸ hcreated, by simp⟩
  · rw [if_neg hid] at hi
    exact ⟨phase, hi, hunfinished⟩

theorem takeOver (h : Accounts xs r) (hrun : run xs = .ok r) (free : r.isFree caller = true) :
    Accounts (xs ++ [.takeOver caller])
      ({ r with listed := [] }.setCall caller (.stopping r.listed r.listed)) := by
  have hfree : r.callOf caller = none := callOf_of_isFree free
  have hsound := Takes.sound (.takeOver free) h.sound
  generalize htaken : { r with listed := [] }.setCall caller (.stopping r.listed r.listed) = r'
    at hsound ⊢
  have hcalls : ∀ c, r'.callOf c =
      if c = caller then some (.stopping r.listed r.listed) else r.callOf c := by
    intro c
    rw [← htaken]
    exact callOf_setCall { r with listed := [] } caller c _
  have hlisted : r'.listed = [] := by rw [← htaken]; rfl
  have hphase : ∀ i, r'.phaseOf i = r.phaseOf i := by
    intro i
    rw [← htaken]
    rfl
  have hsignalled : ∀ i, r'.isSignalled i = r.isSignalled i := by
    intro i
    rw [← htaken]
    rfl
  have hmine : ∀ i, r'.Holds caller i ↔ i ∈ r.listed :=
    fun i => holds_iff_mem ((hcalls caller).trans (if_pos rfl))
  have hidle : ∀ i, ¬ r.Holds caller i := fun i => not_holds (by simp [hfree])
  refine h.unovertaken hrun (by simp) hsound (by rw [← htaken]; rfl) ?_ (by simp [hlisted])
    (fun i _ => hsignalled i) (fun i hi => (hsignalled i).symm.trans hi) (by simp [hlisted]) ?_ ?_
  · intro i phase hi hunfinished
    exact ⟨phase, (hphase i).symm.trans hi, hunfinished⟩
  · rintro i (hi | ⟨c, hc⟩)
    · rw [hlisted] at hi
      cases hi
    · by_cases hcaller : c = caller
      · exact .inl ((hmine i).1 (hcaller ▸ hc))
      · exact .inr ⟨c, (holds_of_ne hcalls hcaller).1 hc⟩
  · rintro i - (hi | ⟨c, hc⟩)
    · exact .inr ⟨caller, (hmine i).2 hi⟩
    · have hcaller : c ≠ caller := by
        rintro rfl
        exact hidle i hc
      exact .inr ⟨c, (holds_of_ne hcalls hcaller).2 hc⟩

theorem signal (h : Accounts xs r) (hrun : run xs = .ok r) {rest toAwait : List Nat}
    (call : r.callOf caller = some (.stopping (id :: rest) toAwait)) :
    Accounts (xs ++ [.signal caller]) ((r.signal id).setCall caller (.stopping rest toAwait)) := by
  have hsound := Takes.sound (.signal call) h.sound
  generalize htold : (r.signal id).setCall caller (.stopping rest toAwait) = r' at hsound ⊢
  have hcalls : ∀ c, r'.callOf c =
      if c = caller then some (.stopping rest toAwait) else r.callOf c := by
    intro c
    rw [← htold]
    exact callOf_setCall (r.signal id) caller c _
  have hlisted : r'.listed = r.listed := by rw [← htold]; rfl
  have hphase : ∀ i, r'.phaseOf i = r.phaseOf i := by
    intro i
    rw [← htold]
    exact phaseOf_signal r id i
  have hsignalled : ∀ i, r'.isSignalled i =
      (r.isSignalled i || i = id && (r.phaseOf i).isSome) := by
    intro i
    rw [← htold]
    exact isSignalled_signal r id i
  have hexists : (r.phaseOf id).isSome = true := by
    have hlt := (h.sound.stopping caller _ _ call).1 id List.mem_cons_self
    obtain ⟨phase, hid⟩ := exists_phaseOf hlt
    rw [hid]
    rfl
  have hholds : ∀ i, r.Holds caller i ↔ i = id ∨ i ∈ rest :=
    fun i => (holds_iff_mem call).trans List.mem_cons
  have hmine : ∀ i, r'.Holds caller i ↔ i ∈ rest :=
    fun i => holds_iff_mem ((hcalls caller).trans (if_pos rfl))
  have hheld : ∀ c i, r'.Holds c i → r.Holds c i := by
    intro c i hc
    by_cases hcaller : c = caller
    · subst hcaller
      exact (hholds i).2 (.inr ((hmine i).1 hc))
    · exact (holds_of_ne hcalls hcaller).1 hc
  refine h.unovertaken hrun (by simp) hsound (by rw [← htold]; exact length_signal r id) ?_
    (fun i hi => hlisted ▸ hi) ?_ ?_ ?_ ?_ ?_
  · intro i phase hi hunfinished
    exact ⟨phase, (hphase i).symm.trans hi, hunfinished⟩
  · intro i hnobody
    have hne : i ≠ id := by
      rintro rfl
      exact hnobody ⟨caller, (hholds i).2 (.inl rfl)⟩
    simp [hsignalled, hne]
  · intro i hi
    rw [hsignalled, Bool.or_eq_false_iff] at hi
    exact hi.1
  · rintro i - ⟨c, hc⟩
    exact ⟨c, hheld c i hc⟩
  · rintro i (hi | ⟨c, hc⟩)
    · exact .inl (hlisted ▸ hi)
    · exact .inr ⟨c, hheld c i hc⟩
  · rintro i hi (hlist | ⟨c, hc⟩)
    · exact .inl (hlisted ▸ hlist)
    · have hne : i ≠ id := by
        rintro rfl
        simp [hsignalled, hexists] at hi
      by_cases hcaller : c = caller
      · subst hcaller
        exact .inr ⟨c, (hmine i).2 (((hholds i).1 hc).resolve_left hne)⟩
      · exact .inr ⟨c, (holds_of_ne hcalls hcaller).2 hc⟩

/-- A caller that told all its pollers goes on to await them, or is done. -/
theorem told (h : Accounts xs r) (hrun : run xs = .ok r) (hx : ∀ caller, x ≠ .register caller)
    {toAwait : List Nat} (call : r.callOf caller = some (.stopping [] toAwait)) (hsound : r'.Sound)
    (hpollers : r'.pollers = r.pollers) (hlisted : r'.listed = r.listed) {next : Option Call}
    (hcalls : ∀ c, r'.callOf c = if c = caller then next else r.callOf c)
    (hnext : ∀ toSignal toAwait, next = some (.stopping toSignal toAwait) → toSignal = []) :
    Accounts (xs ++ [x]) r' := by
  have hphase : ∀ i, r'.phaseOf i = r.phaseOf i := by
    intro i
    unfold phaseOf
    rw [hpollers]
  have hbefore : ∀ i, ¬ r.Holds caller i := by
    intro i
    simp [holds_iff_mem call]
  have hafter : ∀ i, ¬ r'.Holds caller i := by
    rintro i ⟨toSignal, toAwait, hcall, hi⟩
    rw [hcalls, if_pos rfl] at hcall
    rw [hnext toSignal toAwait hcall] at hi
    cases hi
  refine h.quiet hrun hx hsound (by rw [hpollers]) ?_ hlisted ?_ (holds_of_idle hcalls hbefore hafter)
  · intro i phase hi hunfinished
    exact ⟨phase, (hphase i).symm.trans hi, hunfinished⟩
  · intro i
    unfold isSignalled
    rw [hpollers]

theorem finish (h : Accounts xs r) (hrun : run xs = .ok r) (free : r.isFree (.poller id) = true) :
    Accounts (xs ++ [.finish id]) (r.setPhase id .finished) := by
  refine h.quiet hrun (by simp) (h.sound.finish free) (length_setPhase r id .finished) ?_ rfl
    (isSignalled_setPhase r id · .finished) (fun c i => Iff.rfl)
  intro i phase hi hunfinished
  rw [phaseOf_setPhase] at hi
  by_cases hid : i = id
  · subst hid
    rw [if_pos rfl] at hi
    obtain ⟨before, -, hbefore⟩ := Option.map_eq_some_iff.1 hi
    exact absurd hbefore.symm hunfinished
  · rw [if_neg hid] at hi
    exact ⟨phase, hi, hunfinished⟩

end Accounts

/-- After every row of steps each poller can be accounted for. -/
theorem accounts_of_run (h : run xs = .ok r) : Accounts xs r := by
  refine run_induction accounts_empty ?_ h
  intro xs x r r' hrun takes accounts
  have hsound : r'.Sound := takes.sound accounts.sound
  cases takes with
  | register free => exact accounts.register hrun free
  | start call => exact accounts.start hrun call
  | takeOver free => exact accounts.takeOver hrun free
  | signal call => exact accounts.signal hrun call
  | finish free => exact accounts.finish hrun free
  | await call goes =>
    refine accounts.told hrun (by simp) call hsound rfl rfl (fun c => callOf_setCall r _ c _) ?_
    rintro toSignal toAwait ⟨⟩
    rfl
  | «return» call =>
    exact accounts.told hrun (by simp) call hsound rfl rfl (callOf_endCall r _) (by simp)
  | breakOff call fails =>
    exact accounts.told hrun (by simp) call hsound rfl rfl (callOf_endCall r _) (by simp)

/-! ## What goes wrong -/

/-- A poller is overtaken while somebody else is about to start it. -/
theorem starter_of_overtaken (h : Overtaken xs id) :
    ∃ front caller back s other, xs = front ++ .register caller :: back ∧ run front = .ok s ∧
      id ∈ s.listed ∧ s.callOf other = some (.starting id) := by
  obtain ⟨front, caller, back, s, heq, hs, hlisted, hcreated⟩ := h
  obtain ⟨other, hother⟩ := ((accounts_of_run hs).sound.created id).1 hcreated
  exact ⟨front, caller, back, s, other, heq, hs, hlisted, hother⟩

theorem await_eq_notStarted_iff {caller : Caller} : r.await caller id = .error .notStarted ↔
    caller ≠ .poller id ∧ r.phaseOf id = some .created := by
  unfold await phaseOf
  by_cases hself : caller = .poller id
  · simp [hself]
  · rw [if_neg hself]
    cases r.pollers[id]? with
    | none => simp
    | some p => cases hp : p.phase <;> simp [hself, hp]

/-- Awaiting is refused exactly where somebody else has still to start the poller. -/
theorem Sound.await_refused_iff (hr : r.Sound) (caller : Caller) :
    r.step (.await caller) = .error .notStarted ↔ ∃ id rest other,
      r.callOf caller = some (.stopping [] (id :: rest)) ∧
      r.callOf other = some (.starting id) := by
  constructor
  · intro h
    simp only [step] at h
    split at h
    · next id rest call =>
      have hawait : r.await caller id = .error .notStarted := by
        cases hawait : r.await caller id with
        | ok _ => simp [hawait, bind, Except.bind, pure, Except.pure] at h
        | error refusal => simpa [hawait, bind, Except.bind] using h
      obtain ⟨-, hcreated⟩ := await_eq_notStarted_iff.1 hawait
      obtain ⟨other, hother⟩ := (hr.created id).1 hcreated
      exact ⟨id, rest, other, call, hother⟩
    · cases h
  · rintro ⟨id, rest, other, call, hother⟩
    have hcreated : r.phaseOf id = some .created := (hr.created id).2 ⟨other, hother⟩
    have hself : caller ≠ .poller id := by
      rintro rfl
      rw [hr.callback id _ call] at hcreated
      cases hcreated
    have hawait := await_eq_notStarted_iff.2 ⟨hself, hcreated⟩
    simp only [step, call, hawait]
    rfl

/-- A poller that was made and is not in the list does not come back into it. -/
theorem Takes.unlisted {x : Step} (h : Takes r x r')
    (hid : id < r.pollers.length ∧ id ∉ r.listed) :
    id < r'.pollers.length ∧ id ∉ r'.listed := by
  obtain ⟨hlt, hout⟩ := hid
  cases h with
  | @register caller free =>
    have hlength : (r.register.setCall caller (.starting r.pollers.length)).pollers.length =
        r.pollers.length + 1 := length_register
    refine ⟨by omega, ?_⟩
    intro hin
    rcases mem_listed_register.1 hin with ⟨hold, -⟩ | rfl
    · exact hout hold
    · omega
  | @start caller i call => exact ⟨(length_setPhase r i .running).symm ▸ hlt, hout⟩
  | takeOver free => exact ⟨hlt, by simp⟩
  | @signal caller i rest toAwait call => exact ⟨(length_signal r i).symm ▸ hlt, hout⟩
  | await call goes => exact ⟨hlt, hout⟩
  | «return» call => exact ⟨hlt, hout⟩
  | breakOff call fails => exact ⟨hlt, hout⟩
  | @finish i free => exact ⟨(length_setPhase r i .finished).symm ▸ hlt, hout⟩

/-- Once a list was taken over, a poller that was made before is not in the list anymore. -/
theorem not_listed_of_takeOver {front mid : List Step} {caller : Caller} {s : Registry}
    (hs : run front = .ok s) (h : run (front ++ .takeOver caller :: mid) = .ok r)
    (hlt : id < s.pollers.length) : id ∉ r.listed := by
  have hfirst := run_concat hs (.takeOver caller)
  rw [run_append, hs] at h
  change (Step.takeOver caller :: mid).foldlM step s = .ok r at h
  rw [List.foldlM_cons] at h
  cases hstep : s.step (.takeOver caller) with
  | error e =>
    rw [hstep] at h
    cases h
  | ok taken =>
    rw [hstep] at h
    have htaken : id < taken.pollers.length ∧ id ∉ taken.listed := by
      cases takes_of_step hstep with
      | takeOver free => exact ⟨hlt, by simp⟩
    have hlater := steps_induction (P := fun _ r => id < r.pollers.length ∧ id ∉ r.listed)
      (fun _ _ _ _ _ => Takes.unlisted) (hfirst.trans hstep) htaken h
    exact hlater.2

/-- The bookkeeping of pollers, however the steps of the callers and the ends of pollers interleave.
A poller that runs and was not told to stop is in the list, or in what a caller took over from it
and has still to tell, unless it was overtaken: somebody registered another one before it was
started. To await a poller is refused exactly where somebody has still to start it. And when a
caller is done with all that it took over, a poller that was made before runs on untold only if it
was overtaken or another caller is about to tell it. -/
theorem bookkeeping (xs : List Step) (r : Registry) (h : run xs = .ok r) :
    (∀ id, r.isRunning id = true → r.isSignalled id = false → (r.Kept id ↔ ¬ Overtaken xs id)) ∧
    (∀ id, Overtaken xs id → r.isSignalled id = false ∧
      ∃ front caller back s other, xs = front ++ .register caller :: back ∧ run front = .ok s ∧
        id ∈ s.listed ∧ s.callOf other = some (.starting id)) ∧
    (∀ caller, r.step (.await caller) = .error .notStarted ↔ ∃ id rest other,
      r.callOf caller = some (.stopping [] (id :: rest)) ∧
      r.callOf other = some (.starting id)) ∧
    ∀ front caller mid s, xs = front ++ .takeOver caller :: mid → run front = .ok s →
      r.callOf caller = some (.stopping [] []) → ∀ id, id < s.pollers.length →
      r.isRunning id = true → r.isSignalled id = false →
      Overtaken xs id ∨ ∃ other, other ≠ caller ∧ r.Holds other id := by
  have accounts := accounts_of_run h
  refine ⟨?_, ?_, accounts.sound.await_refused_iff, ?_⟩
  · intro id hrunning hunsignalled
    constructor
    · intro hkept hover
      exact (accounts.overtaken id hover).2.2 hkept
    · intro hnot
      have hphase := isRunning_iff.1 hrunning
      exact (accounts.kept id .running hphase (by simp) hunsignalled).resolve_right hnot
  · intro id hover
    exact ⟨(accounts.overtaken id hover).2.1, starter_of_overtaken hover⟩
  · rintro front caller mid s rfl hs hdone id hlt hrunning hunsignalled
    have hphase := isRunning_iff.1 hrunning
    rcases accounts.kept id .running hphase (by simp) hunsignalled with (hin | ⟨c, hc⟩) | hover
    · exact absurd hin (not_listed_of_takeOver hs h hlt)
    · refine .inr ⟨c, ?_, hc⟩
      rintro rfl
      obtain ⟨toSignal, toAwait, hcall, hi⟩ := hc
      rw [hdone] at hcall
      cases hcall
      cases hi
    · exact .inl hover

/-- While the owner is about to start a second poller, the callback of the first registers a third.
Then the owner stops all pollers. -/
def overtaking : List Step :=
  [.register .owner, .start .owner, .register .owner, .register (.poller 0), .start .owner,
    .start (.poller 0), .takeOver .owner, .signal .owner, .signal .owner, .finish 0, .finish 2,
    .await .owner, .await .owner, .return .owner]

/-- While the owner is about to start a second poller, the callback of the first stops all pollers
and comes to await the second. -/
def stoppingEarly : List Step :=
  [.register .owner, .start .owner, .register .owner, .takeOver (.poller 0), .signal (.poller 0),
    .signal (.poller 0), .await (.poller 0)]

/-- When the owner has returned, the second poller still runs and will not be told to stop. -/
theorem bookkeeping_overtaking : ∃ r, run overtaking = .ok r ∧ r.calls = [] ∧
    r.isRunning 1 = true ∧ r.isSignalled 1 = false ∧ ¬ r.Kept 1 ∧ Overtaken overtaking 1 := by
  obtain ⟨r, hrun, hcalls, hlisted, hrunning, hunsignalled⟩ : ∃ r, run overtaking = .ok r ∧
      r.calls = [] ∧ r.listed = [] ∧ r.isRunning 1 = true ∧ r.isSignalled 1 = false :=
    ⟨_, rfl, rfl, rfl, rfl, rfl⟩
  have hkept : ¬ r.Kept 1 := by
    rintro (hin | ⟨caller, toSignal, toAwait, hcall, -⟩)
    · simp [hlisted] at hin
    · simp [callOf, hcalls] at hcall
  have hkeeps := (bookkeeping overtaking r hrun).1 1 hrunning hunsignalled
  have hover : Overtaken overtaking 1 := Classical.byContradiction fun hnot => hkept (hkeeps.2 hnot)
  exact ⟨r, hrun, hcalls, hrunning, hunsignalled, hkept, hover⟩

/-- It is not so that each poller that runs untold is in the list or still to be told, that none
made before a call to stop runs on untold when that call returns, or that no poller is awaited
before it was started: each of these fails in one of the two rows of steps. -/
theorem pollers_escape :
    (¬ ∀ xs r, run xs = .ok r → ∀ id, r.isRunning id = true → r.isSignalled id = false →
      r.Kept id) ∧
    (¬ ∀ front caller mid s r, run front = .ok s →
      run (front ++ .takeOver caller :: mid ++ [.return caller]) = .ok r →
      ∀ id, id < s.pollers.length → r.isRunning id = true → r.isSignalled id = true) ∧
    ¬ ∀ xs r, run xs = .ok r → ∀ caller, r.step (.await caller) ≠ .error .notStarted := by
  refine ⟨fun h => ?_, fun h => ?_, fun h => ?_⟩
  · rcases h overtaking _ rfl 1 rfl rfl with hin | ⟨caller, toSignal, toAwait, hcall, -⟩
    · cases hin
    · cases hcall
  · exact absurd (h (overtaking.take 6) .owner ((overtaking.drop 7).dropLast) _ _ rfl rfl 1
      (by decide) rfl) (by decide)
  · exact h stoppingEarly _ rfl (.poller 0) rfl

end SecondFactor.Client.Registry
