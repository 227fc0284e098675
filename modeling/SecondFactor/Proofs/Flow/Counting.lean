import SecondFactor.Proofs.Flow.NoteEffects
import SecondFactor.Proofs.Flow.Sessions

/-!
# The counter of a session

A beginning that shows a page starts the count anew, whatever it finds. From then on the notes hold
the counter as a number in canonical form that is an index of one of the schedules so far, so it can
be loaded again; and a page that is shown waits for the entry of its own schedule at that index.
Visits that fail, let in or cancel keep this up, also when the next schedule is a shorter one.
-/
namespace SecondFactor.Flow

/-- The counter in the notes is an index of one of the schedules. -/
def CountsWithin (schedules : List Schedule) (notes : Notes) : Prop :=
  ∃ k, notes.get? Fault.counterNote = some (Decimal.ofNat k) ∧ ∃ s ∈ schedules, k < s.length

/-- After a visit the notes hold the counter `k`, and a page that it shows waits for the entry of
the schedule at `k`. -/
structure Visit.Counts (v : Visit) (notes : Notes) (k : Nat) : Prop where
  counter : (v.after notes).get? Fault.counterNote = some (Decimal.ofNat k)
  page : ∀ r page, v.result notes = .ok r → r.page? = some page →
    k < v.settings.schedule.length ∧
      v.settings.schedule.toList[k]? = some page.pollingInterval

variable {schedules : List Schedule} {notes : Notes}

theorem CountsWithin.congr {m : Notes} (h : CountsWithin schedules m) (same : m.SameAttempt notes) :
    CountsWithin schedules notes := by
  obtain ⟨k, hk, hbelow⟩ := h
  exact ⟨k, same.counter ▸ hk, hbelow⟩

/-- Such a counter cannot be loaded only where a schedule has more entries than can be counted. -/
theorem CountsWithin.fault_of_load (h : CountsWithin schedules notes) {f : Fault}
    (failed : Attempt.load notes = .error f) :
    f.category = .value ∧ ∃ s ∈ schedules, Decimal.tenTo Decimal.digitLimit < s.length := by
  obtain ⟨k, hk, s, hs, hbelow⟩ := h
  rw [Attempt.load_of_counterNote hk] at failed
  split at failed
  · cases failed
  · next hlarge =>
    cases failed
    exact ⟨rfl, s, hs, by omega⟩

/-! ## One visit -/

theorem Visit.counts_of_shows {v : Visit} (h : v.Shows notes) : v.Counts notes 0 := by
  refine ⟨?_, fun r page hresult hpage => ?_⟩
  · rw [Visit.after_of_shows h, Attempt.get?_save_counterNote]
    rfl
  · obtain ⟨rfl, -⟩ := Visit.shows_of_page h.1 hresult hpage
    rw [Visit.result, Visit.step_of_begin h.1] at hresult
    obtain ⟨batch, enrollmentQr, rfl⟩ := page_of_begin hresult
    have hpos : 0 < v.settings.schedule.length := Nat.succ_pos _
    exact ⟨hpos, Schedule.getElem?_toList hpos⟩

/-- A visit that leaves the notes as they are and shows no page keeps the count. -/
theorem Visit.counts_of_unchanged {v : Visit} {k : Nat}
    (hk : notes.get? Fault.counterNote = some (Decimal.ofNat k)) (hafter : v.after notes = notes)
    (hpage : ∀ r, v.result notes = .ok r → r.page? = none) : v.Counts notes k := by
  refine ⟨?_, fun r page hresult hshown => ?_⟩
  · rw [hafter]
    exact hk
  · rw [hpage r hresult] at hshown
    cases hshown

/-- A submission keeps the count or moves it to an index of its own schedule, the one for which a
page it shows waits. -/
theorem Ends.counts {settings : Settings} {fields : Fields} {found left : Notes}
    {answer : Option Response} {r : Result} (h : Ends settings fields found answer r left) {k : Nat}
    (hk : found.get? Fault.counterNote = some (Decimal.ofNat k)) :
    ∃ next, left.get? Fault.counterNote = some (Decimal.ofNat next) ∧
      (next = k ∨ next < settings.schedule.length) ∧
      ∀ page, r.page? = some page → next < settings.schedule.length ∧
        settings.schedule.toList[next]? = some page.pollingInterval := by
  cases h with
  | cancelled => exact ⟨k, hk, .inl rfl, fun page hpage => by cases hpage⟩
  | @letIn attempt _ loaded =>
    refine ⟨k, ?_, .inl rfl, fun page hpage => by cases hpage⟩
    cases answer with
    | none => exact hk
    | some a =>
      exact (holdAttempt_renewedNotes (Attempt.counter_of_load hk loaded) a found).counter
  | @rejected attempt _ loaded =>
    have hcounter : attempt.counter = k := Attempt.counter_of_load hk loaded
    have hpos : 0 < settings.schedule.length := Nat.succ_pos _
    have hbelow : min (k + 1) (settings.schedule.length - 1) < settings.schedule.length := by omega
    refine ⟨min (k + 1) (settings.schedule.length - 1),
      (holdAttempt_rejected loaded hcounter answer hpos).counter, .inr hbelow, fun page hpage => ?_⟩
    cases hpage
    refine ⟨hbelow, ?_⟩
    simp only [nextPage, counter_rejected hcounter answer hpos, Schedule.clamped_natCast]
    exact Schedule.getElem?_toList hbelow

/-- Whatever a visit comes to, it keeps the counter within the schedules. -/
theorem Visit.exists_counts {v : Visit} (hv : v.settings.schedule ∈ schedules)
    (h : CountsWithin schedules notes) :
    ∃ k, v.Counts notes k ∧ ∃ s ∈ schedules, k < s.length := by
  obtain ⟨k, hk, hwithin⟩ := h
  cases hmove : v.move with
  | begin =>
    by_cases hshows : v.Shows notes
    · exact ⟨0, Visit.counts_of_shows hshows, _, hv, Nat.succ_pos _⟩
    · refine ⟨k, Visit.counts_of_unchanged hk (Visit.after_of_begin hmove hshows) ?_, hwithin⟩
      intro r hresult
      cases hpage : r.page? with
      | none => rfl
      | some page => exact absurd (Visit.shows_of_page hmove hresult hpage).2 hshows
  | resume fields =>
    cases hresult : v.result notes with
    | error f =>
      refine ⟨k, Visit.counts_of_unchanged hk (Visit.after_of_failed hresult) ?_, hwithin⟩
      intro r hr
      rw [hresult] at hr
      cases hr
    | ok r =>
      obtain ⟨next, hcounter, hnext, hpage⟩ := (Visit.ends hmove hresult).counts hk
      refine ⟨next, ⟨hcounter, fun r' page hr' hshown => ?_⟩, ?_⟩
      · rw [hresult] at hr'
        cases hr'
        exact hpage page hshown
      · rcases hnext with rfl | hbelow
        · exact hwithin
        · exact ⟨_, hv, hbelow⟩

/-- Of the faults with which a submission can end, only one could concern such a counter. -/
theorem Visit.fault_of_resume {v : Visit} {fields : Fields} (hmove : v.move = .resume fields)
    (h : CountsWithin schedules notes) {f : Fault} (failed : v.result notes = .error f) :
    f.category ≠ .session ∧ (f.category = .value →
      ∃ s ∈ schedules, Decimal.tenTo Decimal.digitLimit < s.length) := by
  rw [Visit.result, Visit.step_of_resume hmove] at failed
  rcases (resume_fails failed).cause with hload | hother
  · obtain ⟨hvalue, hlong⟩ := h.fault_of_load hload
    exact ⟨by simp [hvalue], fun _ => hlong⟩
  · have hcategory : f.category ≠ .session ∧ f.category ≠ .value := by
      rcases hother with h | h | ⟨kind, h⟩ <;> simp [h]
    exact ⟨hcategory.1, fun hvalue => absurd hvalue hcategory.2⟩

/-! ## A session -/

/-- Every visit of a session finds the counter within the schedules and leaves it there. -/
theorem GoesOn.counts {later : List (Visit × Notes)} (h : GoesOn notes later)
    (hnotes : CountsWithin schedules notes)
    (hschedules : ∀ x ∈ later, x.1.settings.schedule ∈ schedules) :
    ∀ x ∈ later, CountsWithin schedules x.2 ∧
      ∃ k, x.1.Counts x.2 k ∧ ∃ s ∈ schedules, k < s.length := by
  -- What one visit leaves within the schedules is what the induction asks of the rest.
  induction h with
  | nil => simp
  | @cons left found v later same rest ih =>
    have hfound : CountsWithin schedules found := hnotes.congr same
    have hv : v.settings.schedule ∈ schedules := hschedules (v, found) List.mem_cons_self
    obtain ⟨k, hcounts, hbelow⟩ := Visit.exists_counts hv hfound
    have hrest := ih ⟨k, hcounts.counter, hbelow⟩ fun x hx =>
      hschedules x (List.mem_cons_of_mem _ hx)
    intro x hx
    rcases List.mem_cons.1 hx with rfl | hx
    · exact ⟨hfound, k, hcounts, hbelow⟩
    · exact hrest x hx

/-- The counter of a session that starts with a beginning that shows a page, on whatever notes. It
goes on with beginnings and submissions in any order, each with settings of its own. After every
visit the notes hold a canonical number, below the length of a schedule of the session, and a page
waits for just that entry of its schedule. No submission fails for the sake of the counter, unless
one of the schedules had more entries than numbers that can be written. -/
theorem counter_of_session {b : Visit} (hb : b.Shows notes) {later : List (Visit × Notes)}
    (h : GoesOn (b.after notes) later) :
    ∀ x ∈ (b, notes) :: later,
      (∃ k, x.1.Counts x.2 k ∧ ∃ y ∈ (b, notes) :: later, k < y.1.settings.schedule.length) ∧
      ∀ fields f, x.1.move = .resume fields → x.1.result x.2 = .error f →
        f.category ≠ .session ∧ (f.category = .value → ∃ y ∈ (b, notes) :: later,
          Decimal.tenTo Decimal.digitLimit < y.1.settings.schedule.length) := by
  let schedules := ((b, notes) :: later).map fun x => x.1.settings.schedule
  have hmem : ∀ x ∈ (b, notes) :: later, x.1.settings.schedule ∈ schedules := fun x hx =>
    List.mem_map_of_mem (f := fun x => x.1.settings.schedule) hx
  have hvisit : ∀ {P : Schedule → Prop}, (∃ s ∈ schedules, P s) →
      ∃ y ∈ (b, notes) :: later, P y.1.settings.schedule := by
    rintro P ⟨s, hs, hP⟩
    obtain ⟨y, hy, rfl⟩ := List.mem_map.1 hs
    exact ⟨y, hy, hP⟩
  have hstart : b.Counts notes 0 := Visit.counts_of_shows hb
  have hpos : ∃ s ∈ schedules, 0 < s.length :=
    ⟨_, hmem (b, notes) List.mem_cons_self, Nat.succ_pos _⟩
  have hlater := h.counts ⟨0, hstart.counter, hpos⟩ fun x hx => hmem x (List.mem_cons_of_mem _ hx)
  intro x hx
  rcases List.mem_cons.1 hx with rfl | hx
  · refine ⟨⟨0, hstart, hvisit hpos⟩, fun fields f hmove failed => ?_⟩
    obtain ⟨-, page, hpage⟩ := hb
    rw [hpage] at failed
    cases failed
  · obtain ⟨hfound, k, hcounts, hbelow⟩ := hlater x hx
    refine ⟨⟨k, hcounts, hvisit hbelow⟩, fun fields f hmove failed => ?_⟩
    obtain ⟨hsession, hvalue⟩ := Visit.fault_of_resume hmove hfound failed
    exact ⟨hsession, fun hcategory => hvisit (hvalue hcategory)⟩

/-- Notes of alice whose counter is no number. -/
def corrupted : Notes := Notes.empty.set Fault.counterNote "seven"

/-- A beginning of alice that triggers nothing. -/
def reopening : Visit :=
  { settings := Settings.ofUrl "https://mfa.example"
    user := ⟨"alice", []⟩
    move := .begin
    conversation := .ofReplies []
    client := none
    builds := 0 }

/-- A wrong passcode of alice, once the schedule was cut down to one entry. -/
def mistyped : Visit :=
  { settings := { Settings.ofUrl "https://mfa.example" with schedule := ⟨3, []⟩ }
    user := ⟨"alice", []⟩
    move := .resume []
    conversation := .ofReplies
      [.answer 200 (.ok (.object [("result", .object
        [("status", .bool true), ("value", .bool false)])]))]
    client := none
    builds := 0 }

theorem counter_of_session_mistyped :
    reopening.Shows corrupted ∧
    GoesOn (reopening.after corrupted) [(mistyped, reopening.after corrupted)] ∧
    ∃ r page k, mistyped.result (reopening.after corrupted) = .ok r ∧ r.page? = some page ∧
      (mistyped.after (reopening.after corrupted)).get? Fault.counterNote =
        some (Decimal.ofNat k) ∧
      [3][k]? = some page.pollingInterval := by
  have hshows : reopening.Shows corrupted := ⟨rfl, _, rfl⟩
  have hgoesOn : GoesOn (reopening.after corrupted) [(mistyped, reopening.after corrupted)] :=
    .cons (.refl _) .nil
  obtain ⟨⟨k, hcounts, -⟩, -⟩ := counter_of_session hshows hgoesOn
    (mistyped, reopening.after corrupted) (List.mem_cons_of_mem _ List.mem_cons_self)
  have hshown : ((mistyped.result (reopening.after corrupted)).toOption.bind
      Result.page?).isSome = true := by decide +kernel
  refine ⟨hshows, hgoesOn, ?_⟩
  cases hresult : mistyped.result (reopening.after corrupted) with
  | error f =>
    rw [hresult] at hshown
    cases hshown
  | ok r =>
    rw [hresult] at hshown
    obtain ⟨page, hpage⟩ := Option.isSome_iff_exists.1 hshown
    exact ⟨r, page, k, rfl, hpage, hcounts.counter, (hcounts.page r page hresult hpage).2⟩

end SecondFactor.Flow
