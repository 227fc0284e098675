import SecondFactor.Proofs.Client.Polling
import SecondFactor.Proofs.Flow.Counting

/-!
# The waits of a session and of a poller

A session waits where its pages do: the first page for the first entry of the schedule, and the page
after each rejected submission for the next entry, or for the last one when there is no next. The
counter in the notes, which is clamped when it is counted up, leads to the same entries as the
number of submissions. A background poller with the client of the same settings waits for them too.
-/
namespace SecondFactor

namespace Flow

/-- A page waits for entry `k` of a schedule, and the counter in the notes stands there. -/
structure WaitsAt (schedule : Schedule) (k : Nat) (page : Presentation) (notes : Notes) : Prop where
  page : page.pollingInterval = schedule.interval k
  counter : notes.get? Fault.counterNote = some (Decimal.ofNat (min k schedule.last))

theorem WaitsAt.congr {schedule : Schedule} {k : Nat} {page : Presentation} {left found : Notes}
    (h : WaitsAt schedule k page left) (same : left.SameAttempt found) :
    WaitsAt schedule k page found :=
  ⟨h.page, same.counter ▸ h.counter⟩

/-- A rejected submission moves on by one entry. -/
theorem Ends.waitsAt {settings : Settings} {fields : Fields} {found left : Notes}
    {answer : Option Response} {p q : Presentation} {reason : Option Rejection} {k : Nat}
    (h : Ends settings fields found answer (.failureChallenge q reason) left)
    (before : WaitsAt settings.schedule k p found) :
    WaitsAt settings.schedule (k + 1) q left := by
  cases h with
  | @rejected attempt _ loaded =>
    have hcounter : attempt.counter = (min k settings.schedule.last : Nat) :=
      Attempt.counter_of_load before.counter loaded
    have hpos : 0 < settings.schedule.length := Nat.succ_pos _
    have hnext : min (min k settings.schedule.last + 1) (settings.schedule.length - 1) =
        min (k + 1) settings.schedule.last := by
      simp only [Schedule.length, Schedule.last]
      omega
    constructor
    · simp only [nextPage, counter_rejected hcounter answer hpos, Schedule.clamped_natCast, hnext]
      exact settings.schedule.interval_min_last (k + 1)
    · rw [(holdAttempt_rejected loaded hcounter answer hpos).counter, hnext]

namespace Visit

variable {v : Visit} {notes : Notes}

theorem waitsAt_of_shows {page : Presentation} (hmove : v.move = .begin)
    (h : v.result notes = .ok (.challenge page)) :
    WaitsAt v.settings.schedule 0 page (v.after notes) := by
  have hcounts : v.Counts notes 0 := Visit.counts_of_shows ⟨hmove, page, h⟩
  rw [result, step_of_begin hmove] at h
  obtain ⟨batch, enrollmentQr, rfl⟩ := page_of_begin h
  exact ⟨rfl, hcounts.counter.trans (by rw [Nat.zero_min])⟩

theorem waitsAt_of_rejected {fields : Fields} {p q : Presentation} {reason : Option Rejection}
    {k : Nat} (hmove : v.move = .resume fields)
    (h : v.result notes = .ok (.failureChallenge q reason))
    (before : WaitsAt v.settings.schedule k p notes) :
    WaitsAt v.settings.schedule (k + 1) q (v.after notes) :=
  (Visit.ends hmove h).waitsAt before

/-- A submission that does not get through. -/
def IsRejected (v : Visit) (notes : Notes) : Prop :=
  (∃ fields, v.move = .resume fields) ∧
    ∃ page reason, v.result notes = .ok (.failureChallenge page reason)

end Visit

/-- After rejected submissions with the same settings, the page after the last of them waits for the
entry that their number leads to. -/
theorem GoesOn.waitsAt {settings : Settings} {left : Notes} {later : List (Visit × Notes)}
    {p : Presentation} {k : Nat} (h : GoesOn left later)
    (before : WaitsAt settings.schedule k p left)
    (hlater : ∀ x ∈ later, x.1.settings = settings ∧ x.1.IsRejected x.2) :
    ∀ i x, later[i]? = some x → ∃ page reason,
      x.1.result x.2 = .ok (.failureChallenge page reason) ∧
      page.pollingInterval = settings.schedule.interval (k + i + 1) := by
  -- The page that a visit shows is what the rest starts from, one entry further on.
  induction h generalizing k p with
  | nil => simp
  | @cons left found v later same rest ih =>
    obtain ⟨rfl, ⟨fields, hmove⟩, page, reason, hresult⟩ := hlater (v, found) List.mem_cons_self
    have hnext : WaitsAt v.settings.schedule (k + 1) page (v.after found) :=
      Visit.waitsAt_of_rejected hmove hresult (before.congr same)
    have hrest := ih hnext fun x hx => hlater x (List.mem_cons_of_mem _ hx)
    intro i x hi
    cases i with
    | zero =>
      cases hi
      exact ⟨page, reason, hresult, hnext.page⟩
    | succ i =>
      have hindex : k + 1 + i + 1 = k + (i + 1) + 1 := by omega
      rw [← hindex]
      exact hrest i x hi

end Flow

namespace Client

theorem schedule_of_ofSettings {settings : Settings} {c : Client}
    (h : Client.ofSettings settings = .ok c) : c.schedule = settings.schedule := by
  rw [ofSettings_eq] at h
  split at h
  · cases h
  · cases h
    rfl

/-- The waits of a poller that has waited `done` times are those of the schedule from there on,
whatever the transaction and the replies; one that is stopped was stopped at the last of them. -/
structure WaitsFrom (schedule : Schedule) (left done : Nat) (run : PollRun) : Prop where
  waits : ∀ k wait, run.waits[k]? = some wait → wait = schedule.interval (done + k)
  stopped : run.ending = .stopped → run.waits.length = left + 1

theorem WaitsFrom.after {schedule : Schedule} {left done : Nat} {run : PollRun}
    (h : WaitsFrom schedule left (done + 1) run) :
    WaitsFrom schedule (left + 1) done (run.after (schedule.interval done)) := by
  constructor
  · intro k wait hk
    cases k with
    | zero => exact (Option.some.inj hk).symm
    | succ k =>
      have hindex : done + 1 + k = done + (k + 1) := by omega
      rw [← hindex]
      exact h.waits k wait hk
  · intro hstopped
    exact congrArg (· + 1) (h.stopped hstopped)

theorem WaitsFrom.single {schedule : Schedule} {left done : Nat} {ending : PollEnd}
    (h : ending = .stopped → left = 0) :
    WaitsFrom schedule left done ⟨[schedule.interval done], ending⟩ := by
  constructor
  · intro k wait hk
    cases k with
    | zero => exact (Option.some.inj hk).symm
    | succ k => cases hk
  · intro hstopped
    rw [h hstopped]
    rfl

theorem pollLoop_waitsFrom (c : Client) (timer : Timer) (t : Option String) (username : String)
    (signalled : Bool) (left done : Nat) (v : Conversation) :
    WaitsFrom c.schedule left done ((pollLoop c timer t username signalled left done).run v).1 := by
  induction left generalizing done v with
  | zero => exact .single fun _ => rfl
  | succ left ih =>
    cases htakes : timer.takes (c.schedule.interval done) with
    | false =>
      rw [run_pollLoop_tooLong c t username signalled left htakes]
      exact ⟨by simp, by simp⟩
    | true =>
      rw [run_pollLoop_succ c t username signalled left htakes]
      rcases (pollOnce c t username).runFrom v with ⟨f | _ | r, w⟩
      · by_cases hserver : f.isServer = true
        · simp only [hserver, if_true]
          exact (ih (done + 1) _).after
        · simp only [hserver]
          exact .single (by simp)
      · exact (ih (done + 1) w).after
      · cases signalled with
        | true => exact .single (by simp)
        | false => exact .single (by simp)

end Client

end SecondFactor
