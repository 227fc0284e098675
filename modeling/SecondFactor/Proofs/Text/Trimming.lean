import Mathlib.Data.List.DropRight
import SecondFactor.Text

/-!
# What trimming leaves

Characters of a class are taken off both ends of a text. Main statements: what is left has none of
them at its ends and, with characters of the class around it, makes up the whole; and no other text
does.
-/
namespace SecondFactor.Text

variable {p : Char → Bool} {cs core : List Char}

/-- Neither the first nor the last character of a text is of a class. -/
structure FreeEnds (p : Char → Bool) (cs : List Char) : Prop where
  first : ∀ c, cs.head? = some c → p c = false
  last : ∀ c, cs.getLast? = some c → p c = false

theorem FreeEnds.of_forall (h : ∀ c ∈ cs, p c = false) : FreeEnds p cs where
  first c hc := h c (List.mem_of_head? hc)
  last c hc := h c (List.mem_of_getLast? hc)

theorem FreeEnds.append {a b : List Char} (ha : FreeEnds p a) (hb : FreeEnds p b) :
    FreeEnds p (a ++ b) where
  first c h := by
    rw [List.head?_append, Option.or_eq_some_iff] at h
    rcases h with h | ⟨-, h⟩
    · exact ha.first c h
    · exact hb.first c h
  last c h := by
    rw [List.getLast?_append, Option.or_eq_some_iff] at h
    rcases h with h | ⟨-, h⟩
    · exact hb.last c h
    · exact ha.last c h

/-- A text stands between characters of a class, if there are any. -/
inductive Framed (p : Char → Bool) (core : List Char) : List Char → Prop
  | intro (before after : List Char) (hbefore : ∀ c ∈ before, p c = true)
      (hafter : ∀ c ∈ after, p c = true) : Framed p core (before ++ core ++ after)

theorem framed_nil_iff : Framed p [] cs ↔ ∀ c ∈ cs, p c = true := by
  constructor
  · rintro ⟨before, after, hbefore, hafter⟩ c hc
    rw [List.append_nil, List.mem_append] at hc
    exact hc.elim (hbefore c) (hafter c)
  · intro h
    exact .intro [] cs (by simp) h

theorem Framed.trans {inner : List Char} (hinner : Framed p inner core) (h : Framed p core cs) :
    Framed p inner cs := by
  obtain ⟨before, after, hbefore, hafter⟩ := h
  obtain ⟨before', after', hbefore', hafter'⟩ := hinner
  have hframed : Framed p inner ((before ++ before') ++ inner ++ (after' ++ after)) :=
    .intro _ _ (List.forall_mem_append.2 ⟨hbefore, hbefore'⟩)
      (List.forall_mem_append.2 ⟨hafter', hafter⟩)
  simpa using hframed

theorem framed_trimWhile (p : Char → Bool) (cs : List Char) : Framed p (trimWhile p cs) cs := by
  have hrest : trimWhile p cs ++ (cs.dropWhile p).rtakeWhile p = cs.dropWhile p :=
    List.rdropWhile_append_rtakeWhile
  have hframed : Framed p (trimWhile p cs)
      (cs.takeWhile p ++ trimWhile p cs ++ (cs.dropWhile p).rtakeWhile p) :=
    .intro _ _ (fun _ => List.mem_takeWhile_imp) fun _ => List.mem_rtakeWhile_imp
  rwa [List.append_assoc, hrest, List.takeWhile_append_dropWhile] at hframed

theorem of_head_dropWhile {c : Char} (h : (cs.dropWhile p).head? = some c) : p c = false := by
  have hhead := List.head?_dropWhile_not p cs
  rwa [h] at hhead

theorem freeEnds_trimWhile (p : Char → Bool) (cs : List Char) : FreeEnds p (trimWhile p cs) where
  first c h := by
    have hrest : trimWhile p cs ++ (cs.dropWhile p).rtakeWhile p = cs.dropWhile p :=
      List.rdropWhile_append_rtakeWhile
    have hdropped : (cs.dropWhile p).head? = some c := by
      rw [← hrest, List.head?_append]
      exact Option.or_eq_some_iff.2 (.inl h)
    exact of_head_dropWhile hdropped
  last c h := by
    rw [trimWhile, dropRightWhile, List.getLast?_reverse] at h
    exact of_head_dropWhile h

theorem dropWhile_of_head (h : ∀ c, cs.head? = some c → p c = false) : cs.dropWhile p = cs := by
  cases cs with
  | nil => rfl
  | cons c rest => simp [h c rfl]

theorem Framed.trimWhile_eq (h : Framed p core cs) (free : FreeEnds p core) :
    trimWhile p cs = core := by
  obtain ⟨before, after, hbefore, hafter⟩ := h
  rw [trimWhile, dropRightWhile, List.append_assoc, List.dropWhile_append_of_pos hbefore]
  by_cases hcore : core = []
  · have hall : after.dropWhile p = [] := by simpa using hafter
    simp [hcore, hall]
  · have hfirst : ∀ c, (core ++ after).head? = some c → p c = false := by
      rw [List.head?_append_of_ne_nil _ hcore]
      exact free.first
    have hlast : ∀ c, core.reverse.head? = some c → p c = false := by
      rw [List.head?_reverse]
      exact free.last
    have hreversed : ∀ c ∈ after.reverse, p c = true := by simpa using hafter
    rw [dropWhile_of_head hfirst, List.reverse_append, List.dropWhile_append_of_pos hreversed,
      dropWhile_of_head hlast, List.reverse_reverse]

theorem trimWhile_of_freeEnds (free : FreeEnds p cs) : trimWhile p cs = cs := by
  have hframed : Framed p cs ([] ++ cs ++ []) := .intro [] [] (by simp) (by simp)
  rw [List.nil_append, List.append_nil] at hframed
  exact hframed.trimWhile_eq free

end SecondFactor.Text
