import SecondFactor.Proofs.Decimal
import SecondFactor.Session

/-!
# Attempts that are loaded, and attempts that were saved

An attempt loads from any notes whose counter is a numeral that is short enough. What was saved is
such a numeral, so it comes back, with its own transaction or else the one that was there before.
A numeral that is too long is not told apart from a good one until it is converted, and then the
failure is not the one for notes that cannot be used.
-/
namespace SecondFactor

/-!
## What loading reads

Loading reads two notes and nothing else. A counter in canonical form loads unless it is too long,
and a counter that was loaded can always be written again.
-/

/-- Two stores with the same attempt in them: they agree on the two notes that an attempt has. -/
structure Notes.SameAttempt (m n : Notes) : Prop where
  counter : m.get? Fault.counterNote = n.get? Fault.counterNote
  transaction : m.get? Attempt.transactionNote = n.get? Attempt.transactionNote

theorem Notes.SameAttempt.refl (notes : Notes) : notes.SameAttempt notes := ⟨rfl, rfl⟩

namespace Attempt

theorem load_congr {m n : Notes} (h : m.SameAttempt n) : load m = load n := by
  unfold load
  rw [h.counter, h.transaction]

/-- A canonical counter loads as its number as long as its text can be read. -/
theorem load_of_counterNote {notes : Notes} {k : Nat}
    (h : notes.get? Fault.counterNote = some (Decimal.ofNat k)) :
    load notes =
      if k < Decimal.tenTo Decimal.digitLimit then
        .ok ⟨Text.given? (notes.get? transactionNote), k⟩
      else .error (.counterTooLong (Decimal.ofNat k).length) := by
  have hlimit : (Decimal.ofNat k).length ≤ Decimal.digitLimit ↔
      k < Decimal.tenTo Decimal.digitLimit := Decimal.length_ofNat_le_iff (by decide)
  unfold load readCounter
  simp only [h, Decimal.read?_ofNat]
  by_cases hk : k < Decimal.tenTo Decimal.digitLimit
  · have hfits : ¬ Decimal.digitLimit < (Decimal.ofNat k).length := by
      have := hlimit.2 hk
      omega
    rw [if_neg hfits, if_pos hk]
    rfl
  · have hlong : Decimal.digitLimit < (Decimal.ofNat k).length := by
      have := mt hlimit.1 hk
      omega
    rw [if_pos hlong, if_neg hk]
    rfl

theorem counter_of_load {notes : Notes} {a : Attempt} {k : Nat}
    (h : notes.get? Fault.counterNote = some (Decimal.ofNat k)) (loaded : load notes = .ok a) :
    a.counter = k := by
  rw [load_of_counterNote h] at loaded
  split at loaded <;> cases loaded
  rfl

/-- An attempt whose counter is a number that is short enough to be written. -/
def Writable (a : Attempt) : Prop :=
  ∃ k : Nat, a.counter = k ∧ k < Decimal.tenTo Decimal.digitLimit

theorem writable_fresh (transactionId : Option String) : (fresh transactionId).Writable :=
  ⟨0, rfl, Decimal.tenTo_pos _⟩

theorem writable_of_load {notes : Notes} {a : Attempt} (h : load notes = .ok a) : a.Writable := by
  unfold load at h
  cases hnote : notes.get? Fault.counterNote with
  | none => simp [hnote] at h
  | some note =>
    cases hread : readCounter note with
    | error f => simp [hnote, hread, bind, Except.bind] at h
    | ok n =>
      have hcounter : a.counter = n := by
        simp only [hnote, hread, bind, Except.bind, pure, Except.pure, Except.ok.injEq] at h
        rw [← h]
      refine ⟨n, hcounter, ?_⟩
      unfold readCounter at hread
      split at hread
      · cases hread
      · next m hm =>
        split at hread
        · cases hread
        · next hfits =>
          cases hread
          exact Nat.lt_of_lt_of_le (Decimal.lt_of_read? hm)
            (Decimal.tenTo_le_tenTo (Nat.le_of_not_lt hfits))

/-- One more submission is counted up to the last index of the schedule. -/
theorem counter_advance {a : Attempt} {k : Nat} (h : a.counter = k) {length : Nat}
    (hpos : 0 < length) : (a.advance length).counter = (min (k + 1) (length - 1) : Nat) := by
  simp only [advance, h]
  omega

/-- Counting one more keeps a counter writable under any schedule whose length can be written. -/
theorem Writable.advance {a : Attempt} (h : a.Writable) {length : Nat} (hpos : 0 < length)
    (hlength : length ≤ Decimal.tenTo Decimal.digitLimit) : (a.advance length).Writable := by
  obtain ⟨k, hk, -⟩ := h
  exact ⟨min (k + 1) (length - 1), counter_advance hk hpos, by omega⟩

/-!
## What saving writes

Saving writes the counter, writes the transaction if there is one, and touches no other note. A
transaction that is already there stays where the attempt has none, so whoever starts something new
has to remove it.
-/

theorem transactionNote_ne_counterNote : transactionNote ≠ Fault.counterNote := by decide

/-- Without a transaction of its own an attempt leaves the one in the notes as it is. -/
theorem get?_save_transactionNote (a : Attempt) (notes : Notes) :
    (a.save notes).get? transactionNote =
      (Text.given? a.transactionId).or (notes.get? transactionNote) := by
  unfold save
  cases Text.given? a.transactionId <;> simp [transactionNote_ne_counterNote]

theorem get?_save_counterNote (a : Attempt) (notes : Notes) :
    (a.save notes).get? Fault.counterNote = some (Decimal.ofInt a.counter) := by
  unfold save
  cases Text.given? a.transactionId <;> simp [transactionNote_ne_counterNote.symm]

theorem get?_save_of_ne (a : Attempt) (notes : Notes) {key : String}
    (hcounter : key ≠ Fault.counterNote) (htransaction : key ≠ transactionNote) :
    (a.save notes).get? key = notes.get? key := by
  unfold save
  cases Text.given? a.transactionId <;> simp [hcounter, htransaction]

/-- A loaded attempt continues the transaction in the notes, unless that is empty. -/
theorem transactionId_of_load {notes : Notes} {a : Attempt} (h : load notes = .ok a) :
    a.transactionId = Text.given? (notes.get? transactionNote) := by
  unfold load at h
  cases hnote : notes.get? Fault.counterNote with
  | none => simp [hnote] at h
  | some note =>
    cases hread : readCounter note with
    | error f => simp [hnote, hread, bind, Except.bind] at h
    | ok n =>
      simp only [hnote, hread, bind, Except.bind, pure, Except.pure, Except.ok.injEq] at h
      rw [← h]

/-- What is loaded is saved without a change to the transaction. -/
theorem get?_save_of_load {notes : Notes} {a : Attempt} (h : load notes = .ok a) (length : Int) :
    ((a.advance length).save notes).get? transactionNote = notes.get? transactionNote := by
  rw [get?_save_transactionNote, show (a.advance length).transactionId = a.transactionId from rfl,
    transactionId_of_load h, Text.given?_given?]
  cases hgiven : Text.given? (notes.get? transactionNote) with
  | none => rfl
  | some t => exact (Text.given?_eq_some_iff.1 hgiven).1.symm

/-! ## Loading -/

/-- All that loading from notes can come to. -/
inductive Loads (notes : Notes) : Except Fault Attempt → Prop
  | missing (h : notes.get? Fault.counterNote = none) : Loads notes (.error .counterMissing)
  | garbled {note : String} (h : notes.get? Fault.counterNote = some note)
      (bad : ¬ Decimal.IsNumeral note) : Loads notes (.error (.counterUnreadable note))
  | tooLong {note : String} (h : notes.get? Fault.counterNote = some note)
      (numeral : Decimal.IsNumeral note) (long : Decimal.digitLimit < note.length) :
      Loads notes (.error (.counterTooLong note.length))
  | loaded {note : String} (h : notes.get? Fault.counterNote = some note)
      (numeral : Decimal.IsNumeral note) (short : note.length ≤ Decimal.digitLimit) :
      Loads notes
        (.ok ⟨Text.given? (notes.get? transactionNote), Decimal.numeralValue note⟩)

theorem loads (notes : Notes) : Loads notes (load notes) := by
  unfold load
  cases hnote : notes.get? Fault.counterNote with
  | none => exact .missing hnote
  | some note =>
    cases hread : Decimal.read? note with
    | none =>
      simp only [readCounter, hread]
      exact .garbled hnote (Decimal.read?_eq_none_iff.1 hread)
    | some n =>
      obtain ⟨hnumeral, rfl⟩ := Decimal.read?_eq_some_iff.1 hread
      simp only [readCounter, hread]
      by_cases hlong : Decimal.digitLimit < note.length
      · rw [if_pos hlong]
        exact .tooLong hnote hnumeral hlong
      · rw [if_neg hlong]
        exact .loaded hnote hnumeral (Nat.le_of_not_lt hlong)

/-- What loading comes to, whatever the notes hold. An attempt comes back exactly for a numeral
that is not too long, with the number that it stands for. Notes without a numeral are unusable, and
reported as such; a numeral that is too long is reported as a value that cannot be converted. -/
theorem load_outcome (notes : Notes) :
    (∀ a, load notes = .ok a ↔
      ∃ note, notes.get? Fault.counterNote = some note ∧ Decimal.IsNumeral note ∧
        note.length ≤ Decimal.digitLimit ∧ a.counter = Decimal.numeralValue note ∧
        a.transactionId = Text.given? (notes.get? transactionNote)) ∧
    ((∃ f, load notes = .error f ∧ f.category = .session) ↔
      ¬ ∃ note, notes.get? Fault.counterNote = some note ∧ Decimal.IsNumeral note) ∧
    ((∃ f, load notes = .error f ∧ f.category = .value) ↔
      ∃ note, notes.get? Fault.counterNote = some note ∧ Decimal.IsNumeral note ∧
        Decimal.digitLimit < note.length) := by
  generalize hload : load notes = result
  have hloads := loads notes
  rw [hload] at hloads
  cases hloads with
  | missing h => simp [h, Fault.category]
  | @garbled note h bad => simp [h, bad, Fault.category]
  | @tooLong note h numeral long =>
    have hlong : ¬ note.length ≤ Decimal.digitLimit := Nat.not_le.2 long
    simp [h, numeral, long, hlong, Fault.category]
  | @loaded note h numeral short =>
    have hshort : ¬ Decimal.digitLimit < note.length := Nat.not_lt.2 short
    refine ⟨fun a => ?_, by simp [h, numeral], by simp [h, hshort]⟩
    obtain ⟨transactionId, counter⟩ := a
    simp [h, numeral, short, eq_comm, and_comm]

/-- A counter of one digit more than can be converted. -/
def longCounter : Notes :=
  Notes.empty.set Fault.counterNote
    (String.ofList (List.replicate Decimal.digitLimit '0' ++ ['7']))

/-- A counter of decimal digits need not load, and where it does not, the notes are not reported as
unusable. -/
theorem long_counter_escapes :
    ¬ ∀ notes : Notes,
      (∀ note, notes.get? Fault.counterNote = some note → Decimal.IsNumeral note →
        ∃ a, load notes = .ok a ∧ a.counter = Decimal.numeralValue note) ∧
      ∀ f, load notes = .error f → f.category = .session := by
  intro h
  have hnumeral : Decimal.IsNumeral
      (String.ofList (List.replicate Decimal.digitLimit '0' ++ ['7'])) := by
    refine ⟨fun hempty => ?_, fun c hc => ?_⟩
    · have hlist := congrArg String.toList hempty
      simp at hlist
    · rw [String.toList_ofList] at hc
      rcases List.mem_append.1 hc with hc | hc
      · rw [(List.mem_replicate.1 hc).2]
        decide
      · rw [List.mem_singleton.1 hc]
        decide
  obtain ⟨a, hload, -⟩ := (h longCounter).1 _ (by simp [longCounter]) hnumeral
  have hloads := loads longCounter
  rw [hload] at hloads
  cases hloads with
  | @loaded note hnote numeral short =>
    have hnote' : String.ofList (List.replicate Decimal.digitLimit '0' ++ ['7']) = note := by
      simpa [longCounter] using hnote
    rw [← hnote', String.length_ofList, List.length_append, List.length_replicate] at short
    exact absurd short (by simp)

/-! ## Saving and loading -/

/-- The notes that saving writes. -/
def written (a : Attempt) : List (String × String) :=
  (Fault.counterNote, Decimal.ofInt a.counter) ::
    ((Text.given? a.transactionId).map fun t => (transactionNote, t)).toList

theorem save_eq_foldl (a : Attempt) (notes : Notes) :
    a.save notes = a.written.foldl (fun notes note => notes.set note.1 note.2) notes := by
  unfold save written
  cases Text.given? a.transactionId <;> rfl

theorem not_mem_written_empty (a : Attempt) : (transactionNote, "") ∉ a.written := by
  have hne := transactionNote_ne_counterNote
  unfold written
  cases hgiven : Text.given? a.transactionId with
  | none => simp [hne]
  | some t => simp [hne, (Text.given?_eq_some_iff.1 hgiven).2.symm]

theorem given?_or (o o' : Option String) :
    Text.given? ((Text.given? o).or o') = (Text.given? o).or (Text.given? o') := by
  cases hgiven : Text.given? o with
  | none => rfl
  | some t =>
    rw [Option.some_or, Option.some_or, ← hgiven, Text.given?_given?]

/-- An attempt whose counter is short enough to be read comes back as it was saved, but for a
transaction that it does not name: then it continues the one in the notes. Its counter stands there
in ordinary notation, the other notes stay as they are, and no empty transaction is written. -/
theorem load_save (notes : Notes) (a : Attempt) {c : Nat} (hcounter : a.counter = c)
    (hshort : c < Decimal.tenTo Decimal.digitLimit) :
    (a.save notes).get? Fault.counterNote = some (Nat.repr c) ∧
    load (a.save notes) = .ok
      ⟨(Text.given? a.transactionId).or (Text.given? (notes.get? transactionNote)), c⟩ ∧
    (∀ key, key ≠ Fault.counterNote → key ≠ transactionNote →
      (a.save notes).get? key = notes.get? key) ∧
    ∃ written : List (String × String), (transactionNote, "") ∉ written ∧
      a.save notes = written.foldl (fun notes note => notes.set note.1 note.2) notes := by
  have hnote : (a.save notes).get? Fault.counterNote = some (Decimal.ofNat c) := by
    rw [get?_save_counterNote, hcounter]
    rfl
  refine ⟨?_, ?_, fun key => get?_save_of_ne a notes,
    a.written, a.not_mem_written_empty, a.save_eq_foldl notes⟩
  · rw [hnote, Decimal.ofNat_eq_repr]
  · rw [load_of_counterNote hnote, if_pos hshort, get?_save_transactionNote, given?_or]

/-- Notes with a transaction and with another note that is not the attempt's. -/
def busyNotes : Notes := ⟨[(transactionNote, "tx1"), ("theme", "dark")]⟩

/-- An attempt whose transaction is empty continues the one that was there. -/
theorem load_save_continued :
    let a : Attempt := ⟨some "", 12⟩
    a.counter = (12 : Nat) ∧ 12 < Decimal.tenTo Decimal.digitLimit ∧
      (a.save busyNotes).get? Fault.counterNote = some "12" ∧
      load (a.save busyNotes) = .ok ⟨some "tx1", 12⟩ ∧
      (a.save busyNotes).get? "theme" = some "dark" := by
  intro a
  have hshort : 12 < Decimal.tenTo Decimal.digitLimit :=
    Nat.lt_of_lt_of_le (by decide) (Decimal.tenTo_le_tenTo (show 2 ≤ Decimal.digitLimit by decide))
  obtain ⟨hnote, hload, hother, -⟩ := load_save busyNotes a (c := 12) rfl hshort
  exact ⟨rfl, hshort, hnote, hload, hother "theme" (by decide) (by decide)⟩

end Attempt

end SecondFactor
