import SecondFactor.Proofs.Flow.Sessions
import SecondFactor.Proofs.Terminal.Answers

/-!
# The rounds of a login

A login goes through rounds: the page of the last result is handed over to be printed, answered and
submitted, and the result of the submission decides whether there is another round. `Leads` says
which rounds follow from a result, `login_goes` that a login is made of nothing else.
-/
namespace SecondFactor.Terminal

/-- The state of a login once the page of a result is handed over. -/
def State.showing (s : State) (r : Flow.Result) (page : Presentation) : State :=
  { s with shown := s.shown ++ [.page page (r.rejection?.map Flow.Rejection.message)] }

/-- One round of a login: a page, and the state of the login when the page was just handed over. -/
structure Round where
  page : Presentation
  /-- What the page says about the last submission. -/
  failure : Option String
  found : State

/-- The round that starts with the page of a result. -/
def State.round (s : State) (r : Flow.Result) (page : Presentation) : Round :=
  ⟨page, r.rejection?.map Flow.Rejection.message, s.showing r page⟩

namespace Round

variable (o : Options) (x : Round)

/-- The fields that are submitted, or the reason why there are none. -/
def fields : Except Fault Fields := ((turn o x.page x.failure).runFrom x.found).1

/-- The state of the login when the page was just answered. -/
def answered : State := ((turn o x.page x.failure).runFrom x.found).2

/-- What a submission comes to. -/
def submission (fields : Fields) : Except Fault Flow.Result × Flow.State :=
  (Flow.resume o.settings o.user fields).runFrom (x.answered o).flow

/-- What the round comes to: the result of its submission, if one is made. -/
def result : Except Fault Flow.Result := x.fields o >>= fun fields => (x.submission o fields).1

/-- The state of the login after the round. -/
def left : State :=
  match x.fields o with
  | .error _ => x.answered o
  | .ok fields => { x.answered o with flow := (x.submission o fields).2 }

theorem answers : Answered o x.page x.failure x.found (x.fields o) (x.answered o) :=
  answered_turn o x.page x.failure x.found

variable {o : Options} {x : Round}

theorem result_eq_ok_iff {r : Flow.Result} : x.result o = .ok r ↔
    ∃ fields, x.fields o = .ok fields ∧ (x.submission o fields).1 = .ok r := by
  unfold result
  cases x.fields o with
  | error f => simp [bind, Except.bind]
  | ok fields => simp [bind, Except.bind]

theorem result_of_fields {fields : Fields} (h : x.fields o = .ok fields) :
    x.result o = (x.submission o fields).1 := by
  simp [result, h, bind, Except.bind]

theorem left_of_fields {fields : Fields} (h : x.fields o = .ok fields) :
    x.left o = { x.answered o with flow := (x.submission o fields).2 } := by
  rw [left, h]

/-- A submission neither sleeps nor shows anything. -/
theorem sleeps_left : (x.left o).sleeps = (x.answered o).sleeps := by
  unfold left
  cases x.fields o <;> rfl

theorem shown_left : (x.left o).shown = (x.answered o).shown := by
  unfold left
  cases x.fields o <;> rfl

end Round

/-- From a result, reached in a state, a login goes through these rounds to another result. Each
round shows the page of the result before it and starts from the state that was left. -/
inductive Leads (o : Options) :
    Except Fault Flow.Result → State → List Round → Except Fault Flow.Result → State → Prop
  | nil {first : Except Fault Flow.Result} {s : State} : Leads o first s [] first s
  | cons {r : Flow.Result} {page : Presentation} {s t : State} {x : Round} {rest : List Round}
      {last : Except Fault Flow.Result} (shows : r.page? = some page)
      (round : x = s.round r page)
      (later : Leads o (x.result o) (x.left o) rest last t) :
      Leads o (.ok r) s (x :: rest) last t

/-- How a login ends that stops at a result: a page that is not shown anymore ends it without an
outcome. -/
def conclude (o : Options) (made : Nat) (last : Except Fault Flow.Result) (t : State) :
    Except Fault (Option Flow.Outcome) × State :=
  match last with
  | .error f => (.error f, t)
  | .ok r =>
    match r.page? with
    | none => (.ok (some r.outcome), t)
    | some _ => (Dialog.log (.loginExhausted o.user.name made) >>= fun _ => pure none).runFrom t

theorem conclude_over (o : Options) (made : Nat) {r : Flow.Result} (h : r.page? = none)
    (t : State) : conclude o made (.ok r) t = (.ok (some r.outcome), t) := by
  simp [conclude, h]

theorem conclude_exhausted (o : Options) (made : Nat) {r : Flow.Result} {page : Presentation}
    (h : r.page? = some page) (t : State) :
    conclude o made (.ok r) t =
      (.ok none, { t with
        flow := { t.flow with
          conversation := t.flow.conversation.log [.loginExhausted o.user.name made] } }) := by
  simp only [conclude, h]
  rfl

/-- The end of a login does no more than to log. -/
theorem conclude_state (o : Options) (made : Nat) (last : Except Fault Flow.Result) (t : State) :
    ∃ es, (conclude o made last t).2 =
      { t with flow := { t.flow with conversation := t.flow.conversation.log es } } := by
  cases last with
  | error f => exact ⟨[], by simp [conclude]⟩
  | ok r =>
    cases hpage : r.page? with
    | none =>
      rw [conclude_over o made hpage]
      exact ⟨[], by simp⟩
    | some page =>
      rw [conclude_exhausted o made hpage]
      exact ⟨_, rfl⟩

/-- The rounds that a login goes through from a result, with at most `left` submissions. -/
structure Goes (o : Options) (left : Nat) (first : Except Fault Flow.Result) (s : State)
    (rounds : List Round) (last : Except Fault Flow.Result) (t : State) : Prop where
  leads : Leads o first s rounds last t
  within : rounds.length ≤ left
  /-- It stops at a page only if no submission is left. -/
  exhausts : ∀ r page, last = .ok r → r.page? = some page → rounds.length = left

variable {o : Options}

theorem Goes.nil_error {left : Nat} {f : Fault} {s : State} :
    Goes o left (.error f) s [] (.error f) s :=
  ⟨.nil, Nat.zero_le _, by simp⟩

theorem Goes.nil_over {left : Nat} {r : Flow.Result} {s : State} (h : r.page? = none) :
    Goes o left (.ok r) s [] (.ok r) s := by
  refine ⟨.nil, Nat.zero_le _, ?_⟩
  rintro _ page ⟨⟩ hpage
  rw [h] at hpage
  cases hpage

theorem Goes.nil_exhausted {first : Except Fault Flow.Result} {s : State} :
    Goes o 0 first s [] first s :=
  ⟨.nil, Nat.le_refl _, fun _ _ _ _ => rfl⟩

theorem Goes.cons {left : Nat} {r : Flow.Result} {page : Presentation} {s t : State}
    {rest : List Round} {last : Except Fault Flow.Result} {x : Round} (shows : r.page? = some page)
    (round : x = s.round r page)
    (later : Goes o left (x.result o) (x.left o) rest last t) :
    Goes o (left + 1) (.ok r) s (x :: rest) last t := by
  refine ⟨.cons shows round later.leads, Nat.succ_le_succ later.within, ?_⟩
  intro r' page' hr' hpage'
  rw [List.length_cons, later.exhausts r' page' hr' hpage']

/-- A login is over once a result shows no page. -/
theorem runFrom_converse_over (o : Options) (left made : Nat) {r : Flow.Result}
    (h : r.page? = none) (s : State) :
    (converse o left made r).runFrom s = (.ok (some r.outcome), s) := by
  cases r with
  | success => cases left <;> rfl
  | cancelled => cases left <;> rfl
  | challenge page => cases h
  | failureChallenge page reason => cases h

theorem converse_succ (o : Options) (left made : Nat) {r : Flow.Result} {page : Presentation}
    (h : r.page? = some page) :
    converse o (left + 1) made r = (do
      Dialog.display o.machine (.page page (r.rejection?.map Flow.Rejection.message))
      let fields ← answerPage o page
      let next ← Dialog.flow (Flow.resume o.settings o.user fields)
      converse o left (made + 1) next) := by
  cases r with
  | success => cases h
  | cancelled => cases h
  | challenge page =>
    cases h
    rfl
  | failureChallenge page reason =>
    cases h
    rfl

/-- One turn of the loop is one round. -/
theorem runFrom_converse_succ (o : Options) (left made : Nat) {r : Flow.Result}
    {page : Presentation} (h : r.page? = some page) {s : State} {x : Round}
    (round : x = s.round r page) :
    (converse o (left + 1) made r).runFrom s =
      match x.result o with
      | .error f => (.error f, x.left o)
      | .ok next => (converse o left (made + 1) next).runFrom (x.left o) := by
  have hturn : (Dialog.display o.machine (.page page (r.rejection?.map Flow.Rejection.message)) >>=
      fun _ => answerPage o page).runFrom s = (x.fields o, x.answered o) := by
    rw [round, Work.runFrom_bind, Dialog.runFrom_display]
    change _ = (turn o page (r.rejection?.map Flow.Rejection.message)).runFrom (s.showing r page)
    rw [turn, Work.runFrom_bind, Work.runFrom_ofExcept]
    rfl
  rw [converse_succ o left made h, ← bind_assoc, Work.runFrom_bind, hturn]
  simp only [Work.runFrom_bind]
  cases hfields : x.fields o with
  | error f => simp [Round.result, Round.left, hfields, bind, Except.bind]
  | ok fields =>
    have hsubmit : (Dialog.flow (Flow.resume o.settings o.user fields)).runFrom (x.answered o) =
        (x.result o, x.left o) := by
      rw [Round.result_of_fields hfields, Round.left_of_fields hfields]
      rfl
    simp only [hsubmit]
    cases x.result o <;> rfl

theorem converse_goes (o : Options) (left made : Nat) (r : Flow.Result) (s : State) :
    ∃ rounds last t, Goes o left (.ok r) s rounds last t ∧
      (converse o left made r).runFrom s = conclude o (made + rounds.length) last t := by
  -- A page without a submission left ends the induction, any other one takes a round.
  induction left generalizing made r s with
  | zero =>
    refine ⟨[], .ok r, s, .nil_exhausted, ?_⟩
    cases r <;> rfl
  | succ left ih =>
    cases hpage : r.page? with
    | none =>
      refine ⟨[], .ok r, s, .nil_over hpage, ?_⟩
      rw [runFrom_converse_over o (left + 1) made hpage, conclude_over o _ hpage]
    | some page =>
      obtain ⟨x, round⟩ : ∃ x : Round, x = s.round r page := ⟨_, rfl⟩
      rw [runFrom_converse_succ o left made hpage round]
      cases hresult : x.result o with
      | error f =>
        refine ⟨[x], .error f, x.left o, .cons hpage round ?_, rfl⟩
        rw [hresult]
        exact .nil_error
      | ok next =>
        obtain ⟨rest, last, t, hgoes, hrun⟩ := ih (made + 1) next (x.left o)
        refine ⟨x :: rest, last, t, .cons hpage round (hresult ▸ hgoes), ?_⟩
        have hcount : made + 1 + rest.length = made + (x :: rest).length := by
          rw [List.length_cons]
          omega
        rw [← hcount]
        exact hrun

/-- The start of a login: the flow may have done something before, but the notes are new. -/
def State.fresh (flow : Flow.State) (answers : List String) : State :=
  ⟨{ flow with notes := .empty }, answers, [], [], [], 0⟩

/-- The result of the beginning of a login, and the state in which it leaves the login. -/
def opening (o : Options) (s : State) : Except Fault Flow.Result × State :=
  (Dialog.flow (Flow.begin o.settings o.user)).runFrom s

theorem login_goes (o : Options) (maxAttempts : Int) (s : State) :
    ∃ rounds last t,
      Goes o maxAttempts.toNat (opening o s).1 (opening o s).2 rounds last t ∧
      (login o maxAttempts).runFrom s = conclude o rounds.length last t := by
  have hlogin : (login o maxAttempts).runFrom s =
      match opening o s with
      | (.ok r, t) => (converse o maxAttempts.toNat 0 r).runFrom t
      | (.error f, t) => (.error f, t) := by
    unfold login opening
    rw [Work.runFrom_bind]
    rcases (Dialog.flow (Flow.begin o.settings o.user)).runFrom s with ⟨f | r, t⟩ <;> rfl
  rw [hlogin]
  rcases opening o s with ⟨f | r, t⟩
  · exact ⟨[], .error f, t, .nil_error, rfl⟩
  · obtain ⟨rounds, last, u, hgoes, hrun⟩ := converse_goes o maxAttempts.toNat 0 r t
    rw [Nat.zero_add] at hrun
    exact ⟨rounds, last, u, hgoes, hrun⟩

/-! ## Rounds as visits of the flow -/

/-- The beginning of a login, as a visit. -/
def Options.beginning (o : Options) (s : State) : Flow.Visit where
  settings := o.settings
  user := o.user
  move := .begin
  conversation := s.flow.conversation
  client := s.flow.client
  builds := s.flow.builds

/-- Where the beginning leads to a page, it is the first one of a session. -/
theorem opening_shows {o : Options} {s : State} {r : Flow.Result} {page : Presentation}
    (h : (opening o s).1 = .ok r) (hpage : r.page? = some page) :
    r = .challenge page ∧ (o.beginning s).Shows s.flow.notes :=
  Flow.Visit.shows_of_page (v := o.beginning s) rfl h hpage

namespace Round

/-- The submission of a round, as a visit. -/
def visit (o : Options) (x : Round) (fields : Fields) : Flow.Visit where
  settings := o.settings
  user := o.user
  move := .resume fields
  conversation := (x.answered o).flow.conversation
  client := (x.answered o).flow.client
  builds := (x.answered o).flow.builds

/-- Nothing is written to the notes before the submission. -/
theorem notes_answered (o : Options) (x : Round) :
    (x.answered o).flow.notes = x.found.flow.notes := by
  obtain ⟨es, hflow⟩ := (x.answers o).flow
  rw [hflow]

variable {x : Round} {fields : Fields}

theorem result_visit (h : x.fields o = .ok fields) :
    (x.visit o fields).result x.found.flow.notes = x.result o := by
  rw [← notes_answered o, result_of_fields h]
  rfl

theorem after_visit (h : x.fields o = .ok fields) :
    (x.visit o fields).after x.found.flow.notes = (x.left o).flow.notes := by
  rw [← notes_answered o, left_of_fields h]
  rfl

/-- A round that leads to a page was rejected, so it was no cancellation. -/
theorem rejected {r : Flow.Result} {page : Presentation} (h : x.result o = .ok r)
    (hpage : r.page? = some page) :
    ∃ fields reason, x.fields o = .ok fields ∧ x.page.Echoed fields ∧
      r = .failureChallenge page reason ∧
      (x.visit o fields).result x.found.flow.notes = .ok (.failureChallenge page reason) := by
  obtain ⟨fields, hfields, -⟩ := result_eq_ok_iff.1 h
  have hvisit : (x.visit o fields).result x.found.flow.notes = .ok r :=
    (result_visit hfields).trans h
  have hends := Flow.Visit.ends rfl hvisit
  have hreason : ∃ reason, r = .failureChallenge page reason := by
    generalize (x.visit o fields).answer? x.found.flow.notes = answer at hends
    generalize (x.visit o fields).after x.found.flow.notes = left at hends
    cases hends with
    | cancelled => cases hpage
    | letIn loaded => cases hpage
    | rejected loaded =>
      cases hpage
      exact ⟨_, rfl⟩
  obtain ⟨reason, rfl⟩ := hreason
  refine ⟨fields, reason, hfields, ?_, rfl, hvisit⟩
  have hanswers := x.answers o
  rw [hfields] at hanswers
  refine hanswers.fields.resolve_left fun hcancelled => ?_
  have hcancel : (fields.lookup Page.cancel).isSome = true := by
    rw [hcancelled, lookup_cancel_cancelled]
    rfl
  have hresult : (x.submission o fields).1 = .ok .cancelled :=
    (Flow.resume_cancelled o.settings o.user hcancel).result
  rw [← result_of_fields hfields, h] at hresult
  cases hresult

end Round

/-! ## Along the rounds -/

namespace Leads

variable {first last : Except Fault Flow.Result} {s t : State} {rounds : List Round}

/-- What holds of the page and the state of the flow at the first round, and is handed on from each
round to the next one, holds at every round. -/
theorem along {P : Nat → Presentation → Flow.State → Prop} (h : Leads o first s rounds last t)
    (k : Nat) (start : ∀ r page, first = .ok r → r.page? = some page → P k page s.flow)
    (next : ∀ k (x : Round) (r : Flow.Result) page, P k x.page x.found.flow →
      x.result o = .ok r → r.page? = some page → P (k + 1) page (x.left o).flow) :
    ∀ i x, rounds[i]? = some x → P (k + i) x.page x.found.flow := by
  induction h generalizing k with
  | nil => simp
  | @cons r page s t x rest last shows round later ih =>
    have hhere : P k x.page x.found.flow := by
      rw [round]
      exact start r page rfl shows
    have hrest := ih (k + 1) (fun r' page' => next k x r' page' hhere)
    intro i y hi
    cases i with
    | zero =>
      cases hi
      exact hhere
    | succ i =>
      rw [← Nat.add_assoc, Nat.add_right_comm]
      exact hrest i y hi

/-- What holds at the first round and is handed on from each round to the next one holds at every
round, whatever its number. -/
theorem always {P : Presentation → Flow.State → Prop} (h : Leads o first s rounds last t)
    (start : ∀ r page, first = .ok r → r.page? = some page → P page s.flow)
    (next : ∀ (x : Round) (r : Flow.Result) page, P x.page x.found.flow →
      x.result o = .ok r → r.page? = some page → P page (x.left o).flow) :
    ∀ x ∈ rounds, P x.page x.found.flow := by
  intro x hx
  obtain ⟨i, hi⟩ := List.mem_iff_getElem?.1 hx
  exact h.along (P := fun _ => P) 0 start (fun _ => next) i x hi

/-- The pauses of all rounds, in their order. -/
theorem sleeps (h : Leads o first s rounds last t) :
    t.sleeps = s.sleeps ++ rounds.flatMap fun x =>
      ((x.fields o).toOption.map (pauses x.page)).getD [] := by
  induction h with
  | nil => simp
  | @cons r page s t x rest last shows round later ih =>
    have hfound : x.found.sleeps = s.sleeps := by
      rw [round]
      rfl
    rw [ih, Round.sleeps_left, (x.answers o).sleeps, hfound, List.flatMap_cons, List.append_assoc]

/-- Nothing that was handed over before is taken back. -/
theorem shown_prefix (h : Leads o first s rounds last t) : s.shown <+: t.shown := by
  induction h with
  | nil => exact List.prefix_refl _
  | @cons r page s t x rest last shows round later ih =>
    have hfound : s.shown <+: x.found.shown := by
      rw [round]
      exact List.prefix_append s.shown _
    rw [Round.shown_left] at ih
    exact (hfound.trans (x.answers o).shown).trans ih

/-- Each round hands over its page, and what it hands over stays handed over. -/
theorem shown (h : Leads o first s rounds last t) : ∀ x ∈ rounds,
    .page x.page x.failure ∈ t.shown ∧ (x.answered o).shown <+: t.shown := by
  induction h with
  | nil => simp
  | @cons r page s t x rest last shows round later ih =>
    intro y hy
    rcases List.mem_cons.1 hy with rfl | hy
    · have hlater := later.shown_prefix
      rw [Round.shown_left] at hlater
      have hfound : .page y.page y.failure ∈ y.found.shown := by
        rw [round]
        exact List.mem_append_right _ List.mem_cons_self
      exact ⟨((y.answers o).shown.trans hlater).subset hfound, hlater⟩
    · exact ih y hy

/-- The pages of all rounds are shown, in their order, and no others. -/
theorem pages (h : Leads o first s rounds last t) :
    t.shown.filterMap Showing.page? = s.shown.filterMap Showing.page? ++ rounds.map Round.page := by
  induction h with
  | nil => simp
  | @cons r page s t x rest last shows round later ih =>
    have hfound : x.found.shown.filterMap Showing.page? =
        s.shown.filterMap Showing.page? ++ [x.page] := by
      simp [round, State.round, State.showing, Showing.page?]
    rw [ih, Round.shown_left, (x.answers o).pages, hfound, List.map_cons, List.append_assoc]
    rfl

end Leads

end SecondFactor.Terminal
