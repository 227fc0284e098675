import SecondFactor.Proofs.Flow.Counting
import SecondFactor.Proofs.Terminal.Waits

/-!
# How a login ends

The results of the beginning and of the rounds stand in a row. The first of them that is a fault or
ends the flow decides the login, and nothing is done after it; without one, the login stops when the
submissions are used up. A fault comes from what is typed, from the secret, from the flow, or from a
machine that cannot print or wait. The notes of a login are its own, so it never finds them without
a counter.
-/
namespace SecondFactor

/-- No passcode is refused for the sake of the session. -/
theorem Passcode.category_of_generate {secret : String} {now : Time} {f : Fault}
    (h : generate secret now = .error f) : f.category ≠ .session := by
  unfold generate at h
  split at h
  · cases h
    simp [Fault.category]
  · split at h
    · next cause _ =>
      cases h
      cases cause <;> simp [Fault.category]
    · split at h
      · cases h
        simp [Fault.category]
      · cases h

namespace Terminal

open SecondFactor.Flow (Visit CountsWithin)

/-- What decides a login: a fault, or a result that ends the flow. -/
def ending? : Except Fault Flow.Result → Option (Except Fault Flow.Outcome)
  | .error f => some (.error f)
  | .ok r => if r.outcome.isTerminal then some (.ok r.outcome) else none

/-- What a login gives by what decided it: no outcome where nothing did. -/
def settle : Option (Except Fault Flow.Outcome) → Except Fault (Option Flow.Outcome)
  | none => .ok none
  | some (.ok outcome) => .ok (some outcome)
  | some (.error f) => .error f

theorem ending?_eq_none_iff {e : Except Fault Flow.Result} :
    ending? e = none ↔ ∃ r page, e = .ok r ∧ r.page? = some page := by
  cases e with
  | error f => simp [ending?]
  | ok r =>
    cases r <;>
      simp [ending?, Flow.Result.outcome, Flow.Outcome.isTerminal, Flow.Result.page?]

theorem ending?_of_page {r : Flow.Result} {page : Presentation} (h : r.page? = some page) :
    ending? (.ok r) = none :=
  ending?_eq_none_iff.2 ⟨r, page, rfl, h⟩

theorem ending?_of_over {r : Flow.Result} (h : r.page? = none) :
    ending? (.ok r) = some (.ok r.outcome) := by
  cases r <;> first | rfl | cases h

theorem conclude_result (o : Options) (made : Nat) (last : Except Fault Flow.Result) (t : State) :
    (conclude o made last t).1 = settle (ending? last) := by
  cases last with
  | error f => rfl
  | ok r =>
    cases hpage : r.page? with
    | none => rw [conclude_over o made hpage, ending?_of_over hpage, settle]
    | some page => rw [conclude_exhausted o made hpage, ending?_of_page hpage, settle]

variable {o : Options} {first last : Except Fault Flow.Result} {s t : State} {rounds : List Round}
  {x : Round}

namespace Leads

/-- Of all the results only the last one can decide. -/
theorem findSome?_ending (h : Leads o first s rounds last t) :
    (first :: rounds.map (Round.result o)).findSome? ending? = ending? last := by
  induction h with
  | nil => simp
  | @cons r page s t x rest last shows round later ih =>
    rw [List.findSome?_cons, ending?_of_page shows]
    exact ih

/-- A round that decides is the last one. -/
theorem last_of_ending (h : Leads o first s rounds last t) (hx : x ∈ rounds)
    (ends : ending? (x.result o) ≠ none) : last = x.result o ∧ t = x.left o := by
  induction h with
  | nil => cases hx
  | @cons r page s t y rest last shows round later ih =>
    rcases List.mem_cons.1 hx with rfl | hx
    · generalize hresult : x.result o = result at later ends
      cases later with
      | nil => exact ⟨rfl, rfl⟩
      | cons shows' => exact absurd (ending?_of_page shows') ends
    · exact ih hx

/-- The last result is that of the beginning or of a round. -/
theorem last_mem (h : Leads o first s rounds last t) :
    last = first ∧ rounds = [] ∨ ∃ x ∈ rounds, last = x.result o := by
  induction h with
  | nil => exact .inl ⟨rfl, rfl⟩
  | @cons r page s t y rest last shows round later ih =>
    rcases ih with ⟨hlast, -⟩ | ⟨x, hx, hlast⟩
    · exact .inr ⟨y, List.mem_cons_self, hlast⟩
    · exact .inr ⟨x, List.mem_cons_of_mem _ hx, hlast⟩

/-- In every round the counter in the notes is one of the schedule. -/
theorem counts (h : Leads o (opening o s).1 (opening o s).2 rounds last t) :
    ∀ x ∈ rounds, CountsWithin [o.settings.schedule] x.found.flow.notes := by
  refine h.always (P := fun _ flow => CountsWithin [o.settings.schedule] flow.notes) ?_ ?_
  · intro r page hr hpage
    obtain ⟨-, hshows⟩ := opening_shows hr hpage
    have hcounts : (o.beginning s).Counts s.flow.notes 0 := Visit.counts_of_shows hshows
    exact ⟨0, hcounts.counter, _, List.mem_cons_self, Nat.succ_pos _⟩
  · intro x r page before hr hpage
    obtain ⟨fields, reason, hfields, -, -, -⟩ := Round.rejected hr hpage
    obtain ⟨next, hcounts, hbelow⟩ :=
      Visit.exists_counts (v := x.visit o fields) List.mem_cons_self before
    rw [← Round.after_visit hfields]
    exact ⟨next, hcounts.counter, hbelow⟩

end Leads

namespace Round

/-- How a round fails by itself. -/
inductive Fails (o : Options) (x : Round) : Fault → Prop
  /-- Nothing more is typed. -/
  | unanswered (reads : Reads o x.page) (none : x.found.answers = []) : Fails o x .noAnswerLeft
  /-- No passcode can be made at the time that the clock shows. -/
  | unmade {secret : String} {f : Fault} (given : Text.given? o.secret = some secret)
      (fails : Passcode.generate secret (o.machine.clock x.found.readings) = .error f) :
      Fails o x f
  /-- The flow fails on the submission. -/
  | unsubmitted {fields : Fields} {f : Fault} (answer : x.fields o = .ok fields)
      (fails : (x.submission o fields).1 = .error f) : Fails o x f

/-- How the machine lets a round down. -/
inductive LetDown (o : Options) (x : Round) : Fault → Prop
  /-- The page is taken for faulty markup. -/
  | unprinted {reason : String}
      (bad : o.machine.markupError? (pagePanel x.page x.failure) = some reason) :
      LetDown o x (.badMarkup reason)
  /-- So is the remark on a passcode that was made. -/
  | unremarked {reason : String} (given : (Text.given? o.secret).isSome = true)
      (handed : .info codeRemark ∈ (x.answered o).shown)
      (bad : o.machine.markupError? (infoLine codeRemark) = some reason) :
      LetDown o x (.badMarkup reason)
  /-- The page is for the device, nobody switched or cancelled, and its time is too long to wait. -/
  | unpaused {text : String} (push : x.page.tokenType = .push)
      (head : x.found.answers.head? = some text)
      (word : typedWord text ∉ [TokenType.otp.name, cancelWord])
      (tooLong : o.machine.timer.takes x.page.pollingInterval = false) :
      LetDown o x .waitTooLong

theorem fails_or_letDown {f : Fault} (h : x.result o = .error f) : x.Fails o f ∨ x.LetDown o f := by
  cases hfields : x.fields o with
  | ok fields =>
    rw [result_of_fields hfields] at h
    exact .inl (.unsubmitted hfields h)
  | error g =>
    have hfault : g = f := by simpa [result, hfields, bind, Except.bind] using h
    have hanswers := x.answers o
    rw [hfields, hfault] at hanswers
    generalize hleft : x.answered o = left at hanswers
    cases hanswers with
    | unprinted bad => exact .inr (.unprinted bad)
    | unanswered reads none => exact .inl (.unanswered reads none)
    | unpaused push answers word tooLong =>
      exact .inr (.unpaused push (by rw [answers]; rfl) word tooLong)
    | unmade otp given fails => exact .inl (.unmade given fails)
    | unremarked otp given generated bad =>
      have handed : .info codeRemark ∈ (x.answered o).shown := by
        rw [hleft]
        exact List.mem_append_right _ List.mem_cons_self
      exact .inr (.unremarked (by rw [given]; rfl) handed bad)

theorem category_of_fails (h : CountsWithin [o.settings.schedule] x.found.flow.notes) {f : Fault}
    (failed : x.result o = .error f) : f.category ≠ .session := by
  rcases fails_or_letDown failed with hfails | hletDown
  · cases hfails with
    | unanswered reads none => simp [Fault.category]
    | unmade given fails => exact Passcode.category_of_generate fails
    | @unsubmitted fields _ hfields fails =>
      have hvisit := (result_visit hfields).trans failed
      exact (Visit.fault_of_resume (v := x.visit o fields) rfl h hvisit).1
  · cases hletDown <;> simp [Fault.category]

/-- Whoever types the word that cancels is out, and nothing is sent. -/
theorem cancels (printed : o.machine.markupError? (pagePanel x.page x.failure) = none)
    (reads : Reads o x.page) {text : String} (head : x.found.answers.head? = some text)
    (word : typedWord text = cancelWord) :
    x.result o = .ok .cancelled ∧
      (x.left o).flow.conversation.requests = x.found.flow.conversation.requests := by
  have hfields : x.fields o = .ok (cancelled x.page) :=
    (x.answers o).cancels printed reads head word
  have hcancel : ((cancelled x.page).lookup Page.cancel).isSome = true := rfl
  have hcomes := Flow.resume_cancelled o.settings o.user hcancel (s := (x.answered o).flow)
  constructor
  · rw [result_of_fields hfields]
    exact hcomes.result
  · obtain ⟨es, hflow⟩ := (x.answers o).flow
    have hsent : (x.submission o (cancelled x.page)).2.conversation.requests =
        (x.answered o).flow.conversation.requests ++ [] := hcomes.traffic.requests
    rw [left_of_fields hfields]
    change (x.submission o (cancelled x.page)).2.conversation.requests = _
    rw [hsent, List.append_nil, hflow]
    rfl

end Round

/-! ## The course of a login -/

/-- All there is to say about a login that starts at `s`, goes through these rounds, gives this
result and leaves the state `t`. -/
structure Course (o : Options) (maxAttempts : Int) (s : State) (rounds : List Round)
    (result : Except Fault (Option Flow.Outcome)) (t : State) : Prop where
  /-- The beginning and the rounds follow one another, and nothing else is done but to log. -/
  linked : ∃ last left, Leads o (opening o s).1 (opening o s).2 rounds last left ∧
    ∃ es, t = { left with
      flow := { left.flow with conversation := left.flow.conversation.log es } }
  /-- Each round submits at most once. -/
  within : (rounds.length : Int) ≤ max 0 maxAttempts
  /-- There is no outcome exactly when all submissions were made and none got through. -/
  exhausted : result = .ok none ↔
    (∃ page, (opening o s).1 = .ok (.challenge page)) ∧
      (rounds.length : Int) = max 0 maxAttempts ∧
      ∀ x ∈ rounds, ∃ page reason, x.result o = .ok (.failureChallenge page reason)
  /-- The first fault and the first result that ends the flow are passed on. -/
  decided : result =
    settle (((opening o s).1 :: rounds.map (Round.result o)).findSome? ending?)
  faults : ∀ x ∈ rounds, ∀ f, x.result o = .error f → x.Fails o f ∨ x.LetDown o f
  /-- A round hands its page over to be printed, and what it hands over stays handed over. -/
  shown : ∀ x ∈ rounds,
    .page x.page x.failure ∈ t.shown ∧ (x.answered o).shown <+: t.shown
  /-- A page waits for the entry of the schedule that its number leads to. -/
  waits : ∀ k x, rounds[k]? = some x → x.page.pollingInterval = o.settings.schedule.interval k
  /-- Where the flow goes on there is a page. -/
  pages : ∀ r, .ok r ∈ (opening o s).1 :: rounds.map (Round.result o) →
    r.outcome.isTerminal = false → ∃ page, r.page? = some page
  session : ∀ f, result = .error f → f.category ≠ .session
  /-- A round sleeps before it asks whether the device has confirmed, for as long as its page
  says. -/
  sleeps : ∀ x ∈ rounds, ∀ fields, x.fields o = .ok fields → (x.answered o).sleeps =
    x.found.sleeps ++ if Checks fields then [x.page.pollingInterval] else []
  /-- It asks when a page for the device is submitted and neither switched nor cancelled. -/
  checks : ∀ x ∈ rounds, ∀ fields, x.fields o = .ok fields → (Checks fields ↔
    x.page.tokenType = .push ∧ ∃ text, x.found.answers.head? = some text ∧
      Text.lower (Text.trim text) ∉ ["otp", "cancel"])
  /-- It never sleeps otherwise. -/
  slept : t.sleeps = s.sleeps ++ rounds.flatMap fun x =>
    match x.fields o with
    | .ok fields => if Checks fields then [x.page.pollingInterval] else []
    | .error _ => []
  cancels : ∀ x ∈ rounds, o.machine.markupError? (pagePanel x.page x.failure) = none →
    Reads o x.page → ∀ text, x.found.answers.head? = some text →
    Text.lower (Text.trim text) = "cancel" →
    result = .ok (some .cancelled) ∧
      t.flow.conversation.requests = x.found.flow.conversation.requests

theorem Goes.length_eq {left : Nat} (h : Goes o left first s rounds last t)
    (undecided : ending? last = none) : rounds.length = left := by
  obtain ⟨r, page, hr, hpage⟩ := ending?_eq_none_iff.1 undecided
  exact h.exhausts r page hr hpage

/-- Nothing decided a login exactly when it went through rejected submissions only. -/
theorem Leads.ending?_eq_none_iff (h : Leads o (opening o s).1 (opening o s).2 rounds last t) :
    ending? last = none ↔ (∃ page, (opening o s).1 = .ok (.challenge page)) ∧
      ∀ x ∈ rounds, ∃ page reason, x.result o = .ok (.failureChallenge page reason) := by
  rw [← h.findSome?_ending, List.findSome?_eq_none_iff]
  constructor
  · intro hall
    constructor
    · obtain ⟨r, page, hr, hpage⟩ :=
        Terminal.ending?_eq_none_iff.1 (hall _ List.mem_cons_self)
      obtain ⟨rfl, -⟩ := opening_shows hr hpage
      exact ⟨page, hr⟩
    · intro x hx
      have hmem : x.result o ∈ (opening o s).1 :: rounds.map (Round.result o) :=
        List.mem_cons_of_mem _ (List.mem_map_of_mem hx)
      obtain ⟨r, page, hr, hpage⟩ := Terminal.ending?_eq_none_iff.1 (hall _ hmem)
      obtain ⟨fields, reason, -, -, rfl, -⟩ := Round.rejected hr hpage
      exact ⟨page, reason, hr⟩
  · rintro ⟨⟨page, hfirst⟩, hrounds⟩ e he
    rcases List.mem_cons.1 he with rfl | he
    · rw [hfirst]
      exact ending?_of_page rfl
    · obtain ⟨x, hx, rfl⟩ := List.mem_map.1 he
      obtain ⟨page, reason, hresult⟩ := hrounds x hx
      rw [hresult]
      exact ending?_of_page rfl

theorem session_of_leads (h : Leads o (opening o s).1 (opening o s).2 rounds last t) {f : Fault}
    (failed : last = .error f) : f.category ≠ .session := by
  rcases h.last_mem with ⟨hfirst, -⟩ | ⟨x, hx, hlast⟩
  · have hbegin : ((Flow.begin o.settings o.user).runFrom s.flow).1 = .error f :=
      hfirst.symm.trans failed
    rcases Flow.begin_fails hbegin with h | h | h | ⟨kind, h⟩ <;> simp [h]
  · exact Round.category_of_fails (h.counts x hx) (hlast.symm.trans failed)

theorem settle_eq_none_iff {e : Option (Except Fault Flow.Outcome)} :
    settle e = .ok none ↔ e = none := by
  rcases e with _ | _ | _ <;> simp [settle]

theorem settle_eq_error_iff {f : Fault} : settle (ending? last) = .error f ↔ last = .error f := by
  cases last with
  | error g => simp [ending?, settle]
  | ok r => cases r <;> simp [ending?, settle, Flow.Result.outcome, Flow.Outcome.isTerminal]

/-- A machine that does all that is asked of it: what is handed over is not faulty markup, and no
entry of the schedule is too long. -/
structure Machine.Serves (m : Machine) (schedule : Schedule) (printed : List Printed) : Prop where
  prints : ∀ p ∈ printed, m.markupError? p.item = none
  waits : ∀ seconds ∈ schedule.toList, m.timer.takes seconds = true

/-- Where the machine serves it, a login fails only by itself. -/
theorem Course.fails {maxAttempts : Int} {result : Except Fault (Option Flow.Outcome)}
    (h : Course o maxAttempts s rounds result t)
    (serves : o.machine.Serves o.settings.schedule t.printed) :
    ∀ x ∈ rounds, ∀ f, x.result o = .error f → x.Fails o f := by
  intro x hx f failed
  obtain ⟨hpage, hshown⟩ := h.shown x hx
  have hprints (y : Showing) (hy : y ∈ t.shown) : o.machine.markupError? y.item = none :=
    serves.prints ⟨.status, y.item⟩ (List.mem_map_of_mem hy)
  refine (h.faults x hx f failed).resolve_right fun hletDown => ?_
  cases hletDown with
  | unprinted bad =>
    have hgood : o.machine.markupError? (pagePanel x.page x.failure) = none := hprints _ hpage
    simp [hgood] at bad
  | unremarked given handed bad =>
    have hgood : o.machine.markupError? (infoLine codeRemark) = none :=
      hprints _ (hshown.subset handed)
    simp [hgood] at bad
  | unpaused push head word tooLong =>
    obtain ⟨k, hk⟩ := List.mem_iff_getElem?.1 hx
    have htakes := serves.waits _ (o.settings.schedule.interval_mem k)
    rw [← h.waits k x hk, tooLong] at htakes
    cases htakes

/-- Every login takes its course. -/
theorem login_course (o : Options) (maxAttempts : Int) (s : State) :
    ∃ rounds, Course o maxAttempts s rounds ((login o maxAttempts).runFrom s).1
      ((login o maxAttempts).runFrom s).2 := by
  obtain ⟨rounds, last, left, hgoes, hrun⟩ := login_goes o maxAttempts s
  have hleads := hgoes.leads
  have hresult := conclude_result o rounds.length last left
  obtain ⟨es, hstate⟩ := conclude_state o rounds.length last left
  have hbudget : (maxAttempts.toNat : Int) = max 0 maxAttempts := by omega
  rw [hrun, hresult, hstate]
  refine ⟨rounds,
    { linked := ⟨last, left, hleads, es, rfl⟩
      within := ?_
      exhausted := ?_
      decided := by rw [hleads.findSome?_ending]
      faults := fun x _ f => Round.fails_or_letDown
      shown := hleads.shown
      waits := hleads.waits
      pages := ?_
      session := fun f hf => session_of_leads hleads (settle_eq_error_iff.1 hf)
      sleeps := ?_
      checks := ?_
      slept := ?_
      cancels := ?_ }⟩
  · have hwithin := hgoes.within
    omega
  · rw [settle_eq_none_iff]
    constructor
    · intro hnone
      obtain ⟨hfirst, hrounds⟩ := hleads.ending?_eq_none_iff.1 hnone
      have hlength := hgoes.length_eq hnone
      exact ⟨hfirst, by omega, hrounds⟩
    · rintro ⟨hfirst, -, hrounds⟩
      exact hleads.ending?_eq_none_iff.2 ⟨hfirst, hrounds⟩
  · intro r _ hopen
    have hsome : r.page?.isSome = true := by rw [r.isSome_page?, hopen]; rfl
    exact Option.isSome_iff_exists.1 hsome
  · intro x _ fields hfields
    rw [(x.answers o).sleeps, hfields]
    rfl
  · intro x _ fields hfields
    have hanswers := x.answers o
    rw [hfields] at hanswers
    exact hanswers.checks_iff
  · have hslept := hleads.sleeps
    have hstart : (opening o s).2.sleeps = s.sleeps := rfl
    rw [hslept, hstart]
    refine congrArg _ (congrArg (List.flatMap · rounds) (funext fun x => ?_))
    cases x.fields o <;> rfl
  · intro x hx printed reads text head word
    obtain ⟨hcancelled, hrequests⟩ := Round.cancels printed reads head word
    have hends : ending? (x.result o) ≠ none := by
      rw [hcancelled]
      simp [ending?, Flow.Result.outcome, Flow.Outcome.isTerminal]
    obtain ⟨rfl, rfl⟩ := hleads.last_of_ending hx hends
    exact ⟨by rw [hcancelled]; rfl, hrequests⟩

end Terminal

end SecondFactor
