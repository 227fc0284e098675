import SecondFactor.Json.Reader

/-!
# The outermost value of a JSON text

A text that opens with a square bracket is a list or no JSON at all. While such a text is read, the
first value that was opened is a list: no step of the machine closes it as anything else, and none
goes on behind it.
-/
namespace SecondFactor.Json

/-- The first of the open lists and objects, which stands last, is a list. -/
def ListOutermost (frames : List Frame) : Prop := ∃ items, frames.getLast? = some (.list items)

theorem listOutermost_cons {frame : Frame} {frames : List Frame} :
    ListOutermost (frame :: frames) ↔
      (frames = [] ∧ ∃ items, frame = .list items) ∨ ListOutermost frames := by
  cases frames with
  | nil => simp [ListOutermost]
  | cons next rest => simp [ListOutermost, List.getLast?_cons]

/-- Whatever is read is a list, or stands in one. -/
def State.InList : State → Prop
  | .value frames | .firstKey frames | .key _ frames | .colon _ _ frames => ListOutermost frames
  | .firstItem frames => frames = [] ∨ ListOutermost frames
  | .done j frames => (frames = [] ∧ ∃ items, j = .list items) ∨ ListOutermost frames

variable {depth : Nat} {frames : List Frame} {st st' : State} {t : Token}

theorem inList_openContainer {inner : Container} (h : ListOutermost frames)
    (hopen : openContainer depth frames inner = .ok st') : st'.InList := by
  unfold openContainer at hopen
  split at hopen
  · cases hopen
  · cases inner with
    | list =>
      cases hopen
      exact .inr h
    | object =>
      cases hopen
      exact h

theorem inList_startValue (h : ListOutermost frames)
    (hstart : startValue depth frames t = .ok st') : st'.InList := by
  cases t with
  | value j =>
    cases hstart
    exact .inr h
  | openList => exact inList_openContainer h hstart
  | openObject => exact inList_openContainer h hstart
  | _ => cases hstart

theorem step_firstItem (h : t ≠ .closeList) :
    (State.firstItem frames).step depth t = startValue depth (.list [] :: frames) t := by
  cases t with
  | closeList => exact absurd rfl h
  | _ => rfl

/-- Behind a value that stands in another one comes the next one, or the outer one ends. -/
theorem inList_behind {j : Json} {frame : Frame} (h : ListOutermost (frame :: frames))
    (hstep : (State.done j (frame :: frames)).step depth t = .ok st') : st'.InList := by
  have hbelow := listOutermost_cons.1 h
  cases frame with
  | list items =>
    cases t with
    | comma =>
      cases hstep
      exact listOutermost_cons.2 (hbelow.imp_left fun hnil => ⟨hnil.1, _, rfl⟩)
    | closeList =>
      cases hstep
      exact hbelow.imp_left fun hnil => ⟨hnil.1, _, rfl⟩
    | _ => cases hstep
  | object entries key =>
    have houter : ListOutermost frames := hbelow.resolve_left fun hnil => by simp at hnil
    cases t with
    | comma =>
      cases hstep
      exact houter
    | closeObject =>
      cases hstep
      exact .inr houter
    | _ => cases hstep

theorem State.InList.step (h : st.InList) (hstep : st.step depth t = .ok st') : st'.InList := by
  cases st with
  | value frames => exact inList_startValue h hstep
  | firstItem frames =>
    by_cases hclose : t = .closeList
    · subst hclose
      cases hstep
      exact h.imp_left fun hnil => ⟨hnil, [], rfl⟩
    · rw [step_firstItem hclose] at hstep
      exact inList_startValue (listOutermost_cons.2 (h.imp_left fun hnil => ⟨hnil, [], rfl⟩)) hstep
  | firstKey frames =>
    cases t with
    | closeObject =>
      cases hstep
      exact .inr h
    | value j =>
      cases j with
      | text key =>
        cases hstep
        exact h
      | _ => cases hstep
    | _ => cases hstep
  | key done frames =>
    cases t with
    | value j =>
      cases j with
      | text key =>
        cases hstep
        exact h
      | _ => cases hstep
    | _ => cases hstep
  | colon done key frames =>
    cases t with
    | colon =>
      cases hstep
      exact listOutermost_cons.2 (.inr h)
    | _ => cases hstep
  | done j frames =>
    cases frames with
    | nil => cases t <;> cases hstep
    | cons frame frames =>
      exact inList_behind (h.resolve_left fun hnil => by cases hnil.1) hstep

theorem State.InList.run (h : st.InList) {tokens : List Token}
    (hrun : tokens.foldlM (State.step depth) st = .ok st') : st'.InList := by
  induction tokens generalizing st with
  | nil =>
    cases hrun
    exact h
  | cons t tokens ih =>
    rw [List.foldlM_cons] at hrun
    cases hstep : st.step depth t with
    | error e =>
      rw [hstep] at hrun
      cases hrun
    | ok next =>
      rw [hstep] at hrun
      exact ih (h.step hstep) hrun

theorem foldlM_of_read {s : String} {j : Json} (h : read depth s = .ok j) :
    (scan .between s.toList).foldlM (State.step depth) (.value []) = .ok (.done j []) := by
  unfold read at h
  split at h
  · next hrun =>
    cases h
    exact hrun
  · cases h
  · cases h

/-- A JSON text that opens with a square bracket is a list. -/
theorem list_of_read {s : String} {j : Json} (hopen : s.toList.head? = some '[')
    (hread : read depth s = .ok j) : ∃ items, j = .list items := by
  obtain ⟨rest, hs⟩ := List.head?_eq_some_iff.1 hopen
  have hscan : scan .between s.toList = .openList :: scan .between rest := by
    rw [hs]
    rfl
  have hrun := foldlM_of_read hread
  rw [hscan, List.foldlM_cons] at hrun
  have hopened : (State.firstItem []).InList := .inl rfl
  rw [step_value_openList] at hrun
  split at hrun
  · cases hrun
  · have hlist : (State.done j []).InList := hopened.run hrun
    exact (hlist.resolve_right fun ⟨items, hnil⟩ => by cases hnil).2

end SecondFactor.Json
