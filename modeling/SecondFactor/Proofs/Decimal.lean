import Mathlib.Data.List.Induction
import Mathlib.Data.Nat.Digits.Defs
import SecondFactor.Decimal

/-!
# Written numbers read back

What is written for a natural number is its ordinary decimal notation, and every row of digits is
read as the number whose digits they are.
-/
namespace SecondFactor.Decimal

/-!
## Canonical texts

The canonical text of a natural number is read as that number, and how long it is tells how large
the number can be. What is read from so many digits has no more digits itself.
-/

theorem tenTo_pos (n : Nat) : 0 < tenTo n := Nat.pow_pos (by decide)

theorem tenTo_succ (n : Nat) : tenTo (n + 1) = tenTo n * 10 := rfl

theorem tenTo_le_tenTo {m n : Nat} (h : m ≤ n) : tenTo m ≤ tenTo n :=
  Nat.pow_le_pow_right (by decide) h

theorem digitValue?_digit {d : Nat} (h : d < 10) : Text.digitValue? (digit d) = some d := by
  have hall : ∀ d < 10, Text.digitValue? (digit d) = some d := by decide
  exact hall d h

/-- The values of the canonical digits make up the number. -/
theorem mapM_digitValue?_digits (n : Nat) :
    ∃ ds, (digits n).mapM Text.digitValue? = some ds ∧ value ds = n := by
  fun_induction digits n with
  | case1 n h => exact ⟨[n], by simp [digitValue?_digit h], by simp [value]⟩
  | case2 n h ih =>
    obtain ⟨ds, hds, hvalue⟩ := ih
    have hlast : n % 10 < 10 := Nat.mod_lt n (by decide)
    refine ⟨ds ++ [n % 10], ?_, ?_⟩
    · simp [List.mapM_append, hds, digitValue?_digit hlast]
    · rw [value_append_singleton, hvalue]
      omega

@[simp] theorem read?_ofNat (n : Nat) : read? (ofNat n) = some n := by
  obtain ⟨ds, hds, hvalue⟩ := mapM_digitValue?_digits n
  have hne : (digits n).isEmpty = false := by simpa using digits_ne_nil n
  simp [read?, ofNat, hne, hds, hvalue]

/-- A number has at most `k + 1` digits when it is below the power of ten with `k + 1` zeros. -/
theorem length_digits_le_iff (n k : Nat) : (digits n).length ≤ k + 1 ↔ n < tenTo (k + 1) := by
  -- The last digit is taken off the number, and one power off the bound.
  induction k generalizing n with
  | zero =>
    by_cases h : n < 10
    · have hone : n < tenTo (0 + 1) := h
      simp [digits_of_lt h, hone]
    · have hne := List.length_pos_iff.2 (digits_ne_nil (n / 10))
      have hone : tenTo (0 + 1) = 10 := rfl
      rw [digits, if_neg h, List.length_append, List.length_singleton, hone]
      omega
  | succ k ih =>
    by_cases h : n < 10
    · have hpow : tenTo 1 ≤ tenTo (k + 1 + 1) := tenTo_le_tenTo (by omega)
      have hone : tenTo 1 = 10 := rfl
      simp only [digits_of_lt h, List.length_singleton]
      omega
    · rw [digits, if_neg h, List.length_append, List.length_singleton, Nat.add_le_add_iff_right,
        ih, tenTo_succ (k + 1)]
      omega

theorem length_ofNat_le_iff {n k : Nat} (h : 0 < k) : (ofNat n).length ≤ k ↔ n < tenTo k := by
  obtain ⟨j, rfl⟩ : ∃ j, k = j + 1 := ⟨k - 1, by omega⟩
  rw [ofNat, String.length_ofList]
  exact length_digits_le_iff n j

/-- A row of digits has a value with no more digits. -/
theorem value_lt {ds : List Nat} (h : ∀ d ∈ ds, d < 10) : value ds < tenTo ds.length := by
  induction ds using List.reverseRecOn with
  | nil => exact tenTo_pos 0
  | append_singleton ds d ih =>
    have hbefore := ih fun d' hd => h d' (List.mem_append_left [d] hd)
    have hlast := h d (by simp)
    rw [value_append_singleton, List.length_append, List.length_singleton, tenTo_succ]
    omega

theorem length_of_mapM_digitValue? {cs : List Char} {ds : List Nat}
    (h : cs.mapM Text.digitValue? = some ds) : ds.length = cs.length ∧ ∀ d ∈ ds, d < 10 := by
  induction cs generalizing ds with
  | nil =>
    cases h
    simp
  | cons c cs ih =>
    rw [List.mapM_cons] at h
    cases hfirst : Text.digitValue? c with
    | none => simp [hfirst] at h
    | some d =>
      cases hrest : cs.mapM Text.digitValue? with
      | none => simp [hfirst, hrest] at h
      | some rest =>
        obtain ⟨hlength, hlt⟩ := ih hrest
        have hds : d :: rest = ds := by simpa [hfirst, hrest] using h
        subst hds
        refine ⟨by simp [hlength], ?_⟩
        intro x hx
        rcases List.mem_cons.1 hx with rfl | hx
        · exact Text.digitValue?_lt hfirst
        · exact hlt x hx

theorem lt_of_read? {s : String} {n : Nat} (h : read? s = some n) : n < tenTo s.length := by
  unfold read? at h
  split at h
  · cases h
  · obtain ⟨ds, hds, rfl⟩ := Option.map_eq_some_iff.1 h
    obtain ⟨hlength, hlt⟩ := length_of_mapM_digitValue? hds
    have hvalue := value_lt hlt
    rwa [hlength, String.length_toList] at hvalue

/-!
## Numerals of every script

A numeral is a row of decimal digits, at least one, each of any script. Reading takes numerals and
nothing else, and gives the number whose digits in base ten they are. What is written for a number
is its ordinary decimal notation.
-/

/-- A row of decimal digits of any script, at least one. -/
def IsNumeral (s : String) : Prop := s ≠ "" ∧ ∀ c ∈ s.toList, Text.isDigit c = true

/-- The number that the digits of a text make up in base ten, the last of them counting the ones. -/
def numeralValue (s : String) : Nat :=
  Nat.ofDigits 10 (s.toList.filterMap Text.digitValue?).reverse

theorem value_eq_ofDigits (ds : List Nat) : value ds = Nat.ofDigits 10 ds.reverse := by
  induction ds using List.reverseRecOn with
  | nil => rfl
  | append_singleton ds d ih =>
    rw [value_append_singleton, List.reverse_concat, Nat.ofDigits_cons, ← ih, Nat.add_comm]

theorem mapM_digitValue?_of_isDigit {cs : List Char} (h : ∀ c ∈ cs, Text.isDigit c = true) :
    cs.mapM Text.digitValue? = some (cs.filterMap Text.digitValue?) := by
  induction cs with
  | nil => rfl
  | cons c cs ih =>
    obtain ⟨d, hd⟩ := Option.isSome_iff_exists.1 (h c List.mem_cons_self)
    have hrest := ih fun x hx => h x (List.mem_cons_of_mem c hx)
    simp [List.mapM_cons, hd, hrest]

theorem isDigit_of_mapM_digitValue? {cs : List Char} {ds : List Nat}
    (h : cs.mapM Text.digitValue? = some ds) : ∀ c ∈ cs, Text.isDigit c = true := by
  induction cs generalizing ds with
  | nil => simp
  | cons c cs ih =>
    rw [List.mapM_cons] at h
    obtain ⟨d, hd, hrest⟩ := Option.bind_eq_some_iff.1 h
    obtain ⟨rest, hrest, -⟩ := Option.bind_eq_some_iff.1 hrest
    intro x hx
    rcases List.mem_cons.1 hx with rfl | hx
    · simp [Text.isDigit, hd]
    · exact ih hrest x hx

/-- What is read is a numeral, and every numeral is read as the number that it stands for. -/
theorem read?_eq_some_iff {s : String} {n : Nat} :
    read? s = some n ↔ IsNumeral s ∧ n = numeralValue s := by
  unfold read?
  constructor
  · intro h
    split at h
    · cases h
    · next hne =>
      obtain ⟨ds, hds, rfl⟩ := Option.map_eq_some_iff.1 h
      have hdigits := isDigit_of_mapM_digitValue? hds
      rw [mapM_digitValue?_of_isDigit hdigits] at hds
      cases hds
      exact ⟨⟨by rintro rfl; exact hne rfl, hdigits⟩, value_eq_ofDigits _⟩
  · rintro ⟨⟨hne, hdigits⟩, rfl⟩
    have hlist : s.toList.isEmpty = false := by simpa using hne
    simp only [hlist, mapM_digitValue?_of_isDigit hdigits, Option.map_some, value_eq_ofDigits]
    rfl

theorem read?_eq_none_iff {s : String} : read? s = none ↔ ¬ IsNumeral s := by
  rw [Option.eq_none_iff_forall_ne_some]
  constructor
  · intro h hnumeral
    exact h _ (read?_eq_some_iff.2 ⟨hnumeral, rfl⟩)
  · intro h n hn
    exact h (read?_eq_some_iff.1 hn).1

/-- A number is written in its ordinary notation: ASCII digits without a leading zero. -/
theorem ofNat_eq_repr (n : Nat) : ofNat n = Nat.repr n := by
  have hdigit : ∀ d < 10, digit d = Nat.digitChar d := by decide
  have hdigits : digits n = Nat.toDigits 10 n := by
    fun_induction digits n with
    | case1 n h => rw [Nat.toDigits_of_lt_base h, hdigit n h]
    | case2 n h ih =>
      rw [ih, hdigit (n % 10) (Nat.mod_lt n (by decide)), Nat.toDigits_eq_if (n := n) (by decide),
        if_neg h]
  rw [ofNat, hdigits]
  rfl

end SecondFactor.Decimal
