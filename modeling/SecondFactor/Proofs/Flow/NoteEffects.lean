import SecondFactor.Proofs.Flow.Endings
import SecondFactor.Proofs.Settings.Fields

/-!
# What the steps of the flow do to the notes

A step either fails and leaves every note as it was, or does to the two notes of the attempt what
its end asks for. Past the counter and the transaction it neither reads nor writes a note: whatever
else the notes hold, it comes to the same, says the same and sends the same.
-/
namespace SecondFactor

/-- The notes hold an attempt: a counter in canonical form, and a transaction if there is one. -/
structure Notes.HoldAttempt (notes : Notes) (counter : Nat) (transaction : Option String) :
    Prop where
  counter : notes.get? Fault.counterNote = some (Decimal.ofNat counter)
  transaction : notes.get? Attempt.transactionNote = transaction

namespace Flow

/-! ## Failures -/

/-- Whatever fails, and wherever it does, the notes are as they were. What a step writes once it
cannot fail any more can be written: the counters that it counts up from and to are numbers, and
short enough, unless a schedule has more entries than such a number counts. -/
theorem failure_keeps_notes (settings : Settings) (user : User) (s : State) :
    (∀ f, ((begin settings user).runFrom s).1 = .error f →
      ((begin settings user).runFrom s).2.notes = s.notes) ∧
    (∀ fields f, ((resume settings user fields).runFrom s).1 = .error f →
      ((resume settings user fields).runFrom s).2.notes = s.notes) ∧
    (∀ transactionId, (Attempt.fresh transactionId).Writable) ∧
    ∀ attempt answer, Attempt.load s.notes = .ok attempt →
      (renewed attempt answer).Writable ∧
      (settings.schedule.length ≤ Decimal.tenTo Decimal.digitLimit →
        ((renewed attempt answer).advance settings.schedule.length).Writable) := by
  refine ⟨fun f => notes_of_begin_failed, fun fields f h => (resume_fails h).notes,
    Attempt.writable_fresh, ?_⟩
  intro attempt answer loaded
  have hrenewed : (renewed attempt answer).Writable := by
    obtain ⟨k, hcounter, hk⟩ := Attempt.writable_of_load loaded
    exact ⟨k, (counter_renewed attempt answer).trans hcounter, hk⟩
  exact ⟨hrenewed, fun hlength => hrenewed.advance (Nat.succ_pos _) hlength⟩

/-- Alice's passcode does not reach the server. -/
def unreachableServer : State :=
  .start ((Notes.empty.set Fault.counterNote "0").set Attempt.transactionNote "first")
    [.lost .connection "refused"]

theorem failure_keeps_notes_unreachableServer :
    ((begin { Settings.ofUrl "https://mfa.example" with triggerChallenge := true }
        ⟨"alice", []⟩).runFrom unreachableServer).1 = .error .noServiceAccount ∧
    ((begin { Settings.ofUrl "https://mfa.example" with triggerChallenge := true }
        ⟨"alice", []⟩).runFrom unreachableServer).2.notes = unreachableServer.notes ∧
    ((resume (Settings.ofUrl "https://mfa.example") ⟨"alice", []⟩ []).runFrom
        unreachableServer).1 = .error (.unreachable .validateCheck .connection "refused") ∧
    ((resume (Settings.ofUrl "https://mfa.example") ⟨"alice", []⟩ []).runFrom
        unreachableServer).2.notes = unreachableServer.notes ∧
    Attempt.load unreachableServer.notes = .ok ⟨some "first", 0⟩ ∧
    ((⟨some "first", 0⟩ : Attempt).advance 6).Writable := by
  have hshort : 6 ≤ Decimal.tenTo Decimal.digitLimit :=
    Nat.le_trans (show 6 ≤ Decimal.tenTo 1 by decide) (Decimal.tenTo_le_tenTo (by decide))
  obtain ⟨-, hresume, -, hload⟩ := failure_keeps_notes (Settings.ofUrl "https://mfa.example")
    ⟨"alice", []⟩ unreachableServer
  exact ⟨rfl, (failure_keeps_notes _ _ _).1 _ rfl, rfl, hresume [] _ rfl, rfl,
    (hload _ none rfl).2 hshort⟩

/-! ## Notes that are not read -/

/-- A change of the notes that concerns an attempt only: it leaves the other notes alone, and what
it makes of the attempt's notes depends on these alone. -/
structure AttemptEdit (edit : Notes → Notes) : Prop where
  others : ∀ notes key, key ≠ Fault.counterNote → key ≠ Attempt.transactionNote →
    (edit notes).get? key = notes.get? key
  congr : ∀ m n : Notes, m.SameAttempt n → (edit m).SameAttempt (edit n)

namespace AttemptEdit

theorem id : AttemptEdit fun notes => notes := ⟨fun _ _ _ _ => rfl, fun _ _ h => h⟩

theorem comp {edit edit' : Notes → Notes} (h : AttemptEdit edit) (h' : AttemptEdit edit') :
    AttemptEdit fun notes => edit' (edit notes) := by
  refine ⟨fun notes key hcounter htransaction => ?_, fun m n hmn => h'.congr _ _ (h.congr m n hmn)⟩
  rw [h'.others _ key hcounter htransaction, h.others notes key hcounter htransaction]

theorem save (a : Attempt) : AttemptEdit a.save := by
  refine ⟨fun notes key hcounter htransaction => a.get?_save_of_ne notes hcounter htransaction,
    fun m n hmn => ⟨?_, ?_⟩⟩
  · rw [a.get?_save_counterNote, a.get?_save_counterNote]
  · rw [a.get?_save_transactionNote, a.get?_save_transactionNote, hmn.transaction]

theorem forget : AttemptEdit fun notes => notes.remove Attempt.transactionNote := by
  refine ⟨fun notes key _ htransaction => by simp [htransaction], fun m n hmn => ⟨?_, ?_⟩⟩
  · simp [Attempt.transactionNote_ne_counterNote.symm, hmn.counter]
  · simp

end AttemptEdit

/-- Work that does not look at the notes: whatever they are, it comes to the same and leaves the
same, but for a change of the attempt's notes. -/
def Blind {α : Type} (x : Step α) : Prop :=
  ∀ s : State, ∃ edit, AttemptEdit edit ∧ ∀ notes,
    x.runFrom { s with notes } = ((x.runFrom s).1, { (x.runFrom s).2 with notes := edit notes })

namespace Blind

variable {α β : Type}

theorem pure (a : α) : Blind (Pure.pure a) := fun _ => ⟨_, .id, fun _ => rfl⟩

theorem throw (f : Fault) : Blind (MonadExcept.throw f : Step α) := fun _ => ⟨_, .id, fun _ => rfl⟩

theorem exchange (x : Exchange α) : Blind (Step.exchange x) := fun _ => ⟨_, .id, fun _ => rfl⟩

theorem log (e : Log.Event) : Blind (Step.log e) := exchange _

theorem updateNotes {edit : Notes → Notes} (h : AttemptEdit edit) :
    Blind (Step.updateNotes edit) := fun _ => ⟨edit, h, fun _ => rfl⟩

theorem client (settings : Settings) : Blind (Step.client settings) := by
  rintro ⟨found, conversation, client, builds⟩
  refine ⟨_, .id, fun notes => ?_⟩
  rw [Step.runFrom_client, Step.runFrom_client]
  cases client <;> rfl

/-- The changes that blind work makes one after the other are one change. -/
theorem bind {x : Step α} {post : α → Step β} (hx : Blind x) (hpost : ∀ a, Blind (post a)) :
    Blind (x >>= post) := by
  intro s
  obtain ⟨edit, hedit, hrun⟩ := hx s
  rcases hfirst : x.runFrom s with ⟨f | a, t⟩
  · refine ⟨edit, hedit, fun notes => ?_⟩
    rw [Work.runFrom_bind, Work.runFrom_bind, hrun, hfirst]
  · obtain ⟨edit', hedit', hrun'⟩ := hpost a t
    refine ⟨_, hedit.comp hedit', fun notes => ?_⟩
    rw [Work.runFrom_bind, Work.runFrom_bind, hrun, hfirst]
    exact hrun' (edit notes)

theorem ite {x y : Step α} (b : Bool) (hx : Blind x) (hy : Blind y) :
    Blind (if b then x else y) := by
  cases b
  · exact hy
  · exact hx

end Blind

theorem blind_pushAccepted (settings : Settings) (user : User) (attempt : Attempt) :
    Blind (pushAccepted settings user attempt) := by
  unfold pushAccepted
  cases Text.given? attempt.transactionId with
  | none => exact (Blind.log _).bind fun _ => .pure false
  | some transaction =>
    refine (Blind.client settings).bind fun c => (Blind.exchange _).bind fun resolved =>
      (Blind.log _).bind fun _ => .ite resolved ?_ (.pure false)
    exact (Blind.exchange _).bind fun r => .pure r.success

theorem blind_adopt (attempt : Attempt) (r : Response) : Blind (adopt attempt r) := by
  unfold adopt
  refine (Blind.updateNotes (.save _)).bind fun _ => ?_
  exact .ite _ ((Blind.updateNotes .forget).bind fun _ => .pure _) (.pure _)

theorem blind_retry (settings : Settings) (user : User) (form : Submission) (attempt : Attempt)
    (answer : Option Response) : Blind (retry settings user form attempt answer) :=
  (Blind.updateNotes (.save _)).bind fun _ => (Blind.log _).bind fun _ => .pure _

theorem blind_resumePush (settings : Settings) (user : User) (form : Submission)
    (attempt : Attempt) : Blind (resumePush settings user form attempt) := by
  unfold resumePush
  refine (blind_pushAccepted settings user attempt).bind fun accepted => ?_
  exact .ite accepted ((Blind.log _).bind fun _ => .pure _)
    (blind_retry settings user form attempt none)

theorem blind_resumeOtp (settings : Settings) (user : User) (form : Submission)
    (attempt : Attempt) : Blind (resumeOtp settings user form attempt) := by
  unfold resumeOtp
  refine (Blind.client settings).bind fun c => (Blind.exchange _).bind fun r =>
    (Blind.log _).bind fun _ => ?_
  have hend : ∀ next answer, Blind (if r.success then do
        Step.log (.flowSucceeded user.name .otp)
        return .success
      else retry settings user form next answer) := fun next answer =>
    .ite r.success ((Blind.log _).bind fun _ => .pure _)
      (blind_retry settings user form next answer)
  exact .ite r.hasChallenges ((blind_adopt attempt r).bind fun next => hend next _)
    ((Blind.pure attempt).bind fun next => hend next _)

/-- What runs like blind work, on all stores with the same attempt, is a change of that attempt. -/
theorem edits_of_blind {α : Type} {x y : Step α} {s : State} (h : Blind x)
    (hrun : ∀ notes, s.notes.SameAttempt notes →
      y.runFrom { s with notes } = x.runFrom { s with notes }) :
    ∃ edit, AttemptEdit edit ∧ ∀ notes, s.notes.SameAttempt notes →
      y.runFrom { s with notes } =
        ((y.runFrom s).1, { (y.runFrom s).2 with notes := edit notes }) := by
  obtain ⟨edit, hedit, hblind⟩ := h s
  have hhere : y.runFrom s = x.runFrom s := hrun s.notes (.refl s.notes)
  refine ⟨edit, hedit, fun notes hsame => ?_⟩
  rw [hrun notes hsame, hhere, hblind notes]

/-- A submission looks at the notes once, to load the attempt. -/
theorem resume_edits (settings : Settings) (user : User) (fields : Fields) (s : State) :
    ∃ edit, AttemptEdit edit ∧ ∀ notes, s.notes.SameAttempt notes →
      (resume settings user fields).runFrom { s with notes } =
        (((resume settings user fields).runFrom s).1,
          { ((resume settings user fields).runFrom s).2 with notes := edit notes }) := by
  have hloads : ∀ notes, s.notes.SameAttempt notes →
      Attempt.load notes = Attempt.load s.notes := fun notes hsame =>
    (Attempt.load_congr hsame).symm
  cases hcancel : fields.lookup Page.cancel with
  | some value =>
    have hblind : Blind (do Step.log (.flowCancelled user.name); return Result.cancelled) :=
      (Blind.log _).bind fun _ => .pure _
    refine edits_of_blind hblind fun notes _ => ?_
    unfold resume
    rw [if_pos (by simp [Submission.ofFields, hcancel])]
  | none =>
    cases hload : Attempt.load s.notes with
    | error f =>
      refine edits_of_blind (Blind.throw f) fun notes hsame => ?_
      unfold resume
      rw [if_neg (by simp [Submission.ofFields, hcancel]), Work.runFrom_bind, Step.runFrom_attempt,
        hloads notes hsame, hload]
      rfl
    | ok attempt =>
      have hrun := fun (notes : Notes) (hsame : s.notes.SameAttempt notes) =>
        runFrom_resume settings user (s := { s with notes }) hcancel
          ((hloads notes hsame).trans hload)
      cases htype : TokenType.ofText (fields.first Page.tokenType) with
      | push =>
        simp only [htype] at hrun
        exact edits_of_blind (blind_resumePush settings user (.ofFields fields) attempt) hrun
      | otp =>
        simp only [htype] at hrun
        exact edits_of_blind (blind_resumeOtp settings user (.ofFields fields) attempt) hrun

/-! ## The effect of a submission -/

/-- New challenges are kept with the counter as it was. -/
theorem holdAttempt_renewedNotes {attempt : Attempt} {c : Nat} (h : attempt.counter = c)
    (a : Response) (notes : Notes) :
    (renewedNotes attempt (some a) notes).HoldAttempt c (Text.given? (some a.transactionId)) := by
  refine ⟨?_, get?_renewedNotes_transactionNote attempt (some a) notes⟩
  rw [show renewedNotes attempt (some a) notes = adoptedNotes attempt a notes from rfl,
    get?_adoptedNotes_counterNote, h]
  rfl

/-- A rejected submission leaves the count that goes on, and the transaction that goes on. -/
theorem holdAttempt_rejected {attempt : Attempt} {c : Nat} {notes : Notes}
    (loaded : Attempt.load notes = .ok attempt) (h : attempt.counter = c)
    (answer : Option Response) {length : Nat} (hpos : 0 < length) :
    (((renewed attempt answer).advance length).save
        (renewedNotes attempt answer notes)).HoldAttempt (min (c + 1) (length - 1))
      (transactionAfter answer notes) := by
  refine ⟨?_, get?_rejected_transactionNote loaded answer length⟩
  rw [Attempt.get?_save_counterNote, counter_rejected h answer hpos]
  rfl

/-- What a submission that does not fail does to the notes, where the counter loads as `c`. A
cancelled one, and one that is let in without new challenges, leaves all notes as they are. New
challenges bring their own transaction or remove the one that was there; let in with them, the
counter is written once more, and rejected, it is counted up to the last index of the schedule.
No other note is written, and no other note is read: stores with the same attempt in them have the
same result, and all that is left is the same but for those other notes. -/
theorem resume_effect (settings : Settings) (user : User) (fields : Fields) (s : State) {c : Nat}
    {r : Result} (loaded : (Attempt.load s.notes).map Attempt.counter = .ok (c : Int))
    (returned : ((resume settings user fields).runFrom s).1 = .ok r) :
    let left := ((resume settings user fields).runFrom s).2
    let answer := renewing fields (s.conversation.dialogue left.conversation)
    (match r, answer with
      | .cancelled, _ => left.notes = s.notes
      | .success, none => left.notes = s.notes
      | .success, some a => left.notes.HoldAttempt c (Text.given? (some a.transactionId))
      | .failureChallenge _ _, none =>
        left.notes.HoldAttempt (min (c + 1) (settings.schedule.length - 1))
          (s.notes.get? Attempt.transactionNote)
      | .failureChallenge _ _, some a =>
        left.notes.HoldAttempt (min (c + 1) (settings.schedule.length - 1))
          (Text.given? (some a.transactionId))
      | .challenge _, _ => False) ∧
    (∀ key, key ≠ Fault.counterNote → key ≠ Attempt.transactionNote →
      left.notes.get? key = s.notes.get? key) ∧
    ∀ notes, s.notes.SameAttempt notes →
      let other := (resume settings user fields).runFrom { s with notes }
      other.1 = .ok r ∧ { other.2 with notes := left.notes } = left ∧
        left.notes.SameAttempt other.2.notes := by
  intro left answer
  obtain ⟨edit, hedit, hrun⟩ := resume_edits settings user fields s
  have hleft : left.notes = edit s.notes :=
    congrArg (·.2.notes) (hrun s.notes (.refl s.notes))
  refine ⟨?_, ?_, ?_⟩
  · have hends : Ends settings fields s.notes answer r left.notes := resume_ends returned
    generalize answer = answer at hends
    generalize left.notes = notes at hends
    cases hends with
    | cancelled => rfl
    | letIn loaded' =>
      cases answer with
      | none => rfl
      | some a => exact holdAttempt_renewedNotes (by simpa [loaded', Except.map] using loaded) a _
    | rejected loaded' =>
      have hrejected := holdAttempt_rejected loaded'
        (show _ = (c : Int) by simpa [loaded', Except.map] using loaded) answer
        (show 0 < settings.schedule.length from Nat.succ_pos _)
      cases answer with
      | none => exact hrejected
      | some a => exact hrejected
  · intro key hcounter htransaction
    rw [hleft]
    exact hedit.others s.notes key hcounter htransaction
  · intro notes hsame
    simp only [hrun notes hsame]
    refine ⟨returned, rfl, ?_⟩
    rw [hleft]
    exact hedit.congr s.notes notes hsame

/-- Alice waits with a transaction of hers, and the server rejects her passcode with a new challenge
that has none. -/
def rejectedWithChallenge : State :=
  .start ((Notes.empty.set Fault.counterNote "0").set Attempt.transactionNote "first")
    [.answer 200 (.ok (.object
      [("result", .object [("status", .bool true), ("value", .bool false)]),
        ("detail", .object [("multi_challenge", .list [.object [("type", .text "hotp")]])])]))]

theorem resume_effect_rejectedWithChallenge :
    (Attempt.load rejectedWithChallenge.notes).map Attempt.counter = .ok (0 : Nat) ∧
    ∃ page, ((resume (Settings.ofUrl "https://mfa.example") ⟨"alice", []⟩ []).runFrom
        rejectedWithChallenge).1 = .ok (.failureChallenge page none) ∧
      ((resume (Settings.ofUrl "https://mfa.example") ⟨"alice", []⟩ []).runFrom
        rejectedWithChallenge).2.notes.HoldAttempt 1 none := by
  refine ⟨rfl, _, rfl, ?_⟩
  exact (resume_effect (Settings.ofUrl "https://mfa.example") ⟨"alice", []⟩ []
    rejectedWithChallenge (c := 0) rfl rfl).1

end Flow

end SecondFactor
