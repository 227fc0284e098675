import SecondFactor.Proofs.Settings.Sources
import SecondFactor.Settings

/-!
# The schedule of settings

Wherever settings come from, the ones that are built have a schedule with at least one waiting time
and no negative one, so a look-up at any index finds an entry. Building fails because of the
schedule exactly if the value from the winning source is no list, has an item that is no whole
number, is empty or has a negative item. A list that is nested too deep is not told apart from a
good one until it is read, and then building fails without saying what is wrong.
-/
namespace SecondFactor

/-- A schedule with which waiting never goes wrong. -/
structure Schedule.Usable (s : Schedule) : Prop where
  ne_nil : s.toList ≠ []
  nonneg : ∀ i ∈ s.toList, 0 ≤ i
  lookup : ∀ i : Int, s.toList[(max 0 (min i (s.toList.length - 1))).toNat]? = some (s.clamped i)

namespace Settings

/-! ## Values of the schedule -/

/-- Why a value, with a text read as a list, is no schedule. -/
inductive NoSchedule : Json → Prop
  | noList {j : Json} (h : ∀ items, j ≠ .list items) : NoSchedule j
  | badItem {items : List Json} {item : Json} {cause : Cause} (mem : item ∈ items)
      (bad : asInt item = .error cause) : NoSchedule (.list items)
  | empty : NoSchedule (.list [])
  | negative {items : List Json} {item : Json} {i : Int} (mem : item ∈ items)
      (int : asInt item = .ok i) (neg : i < 0) : NoSchedule (.list items)

/-- The schedule that a value stands for: without a value the default, else its items in order. -/
inductive ScheduleOf : Option Json → Schedule → Prop
  | default : ScheduleOf none defaultSchedule
  | items {items : List Json} {s : Schedule}
      (h : items.map asInt = s.toList.map .ok)
      (nonneg : ∀ i ∈ s.toList, 0 ≤ i) : ScheduleOf (some (.list items)) s

variable {value : Option Json} {s : Schedule}

theorem ScheduleOf.nonneg (h : ScheduleOf value s) : ∀ i ∈ s.toList, 0 ≤ i := by
  cases h with
  | default => decide
  | items _ nonneg => exact nonneg

theorem ScheduleOf.usable (h : ScheduleOf value s) : s.Usable where
  ne_nil := List.cons_ne_nil _ _
  nonneg := h.nonneg
  lookup := s.getElem?_clamped

/-- A value that stands for a schedule has nothing wrong with it. -/
theorem ScheduleOf.not_noSchedule (h : ScheduleOf value s) :
    ¬ ∃ j, value = some j ∧ NoSchedule j := by
  rintro ⟨j, hj, wrong⟩
  cases h with
  | default => cases hj
  | @items items _ h nonneg =>
    cases hj
    have hint : ∀ item ∈ items, ∃ i ∈ s.toList, .ok i = asInt item := fun item mem => by
      rw [← List.mem_map, ← h]
      exact List.mem_map_of_mem mem
    cases wrong with
    | noList h => exact h items rfl
    | badItem mem bad =>
      obtain ⟨i, -, hi⟩ := hint _ mem
      rw [bad] at hi
      cases hi
    | empty => cases h
    | @negative _ _ i mem int neg =>
      obtain ⟨k, hk, hok⟩ := hint _ mem
      rw [int] at hok
      cases hok
      exact absurd (nonneg i hk) (Int.not_le.2 neg)

/-- What checking the value of the schedule comes to. -/
inductive ScheduleChecked (value : Option Json) : Checked Schedule → Prop
  | valid {s : Schedule} (h : ScheduleOf value s) : ScheduleChecked value (.valid s)
  | invalid {is : List Issue} (ne_nil : is ≠ []) (wrong : ∃ j, value = some j ∧ NoSchedule j) :
      ScheduleChecked value (.invalid is)

theorem checked_scheduleOf {items : List Json} {is : List Int} (h : items.map asInt = is.map .ok) :
    ScheduleChecked (some (.list items)) (Checked.ofField .pollingIntervals (scheduleOf is)) := by
  cases is with
  | nil =>
    obtain rfl : items = [] := by simpa using h
    exact .invalid (List.cons_ne_nil _ _) ⟨_, rfl, .empty⟩
  | cons first rest =>
    by_cases hnegative : (first :: rest).any (· < 0) = true
    · have hcheck : scheduleOf (first :: rest) = .error .scheduleNegative := by
        simp only [scheduleOf, Schedule.ofList?, if_pos hnegative]
      obtain ⟨i, hi, hneg⟩ := List.any_eq_true.1 hnegative
      obtain ⟨item, mem, hint⟩ := List.mem_map.1 (h ▸ List.mem_map_of_mem hi)
      rw [hcheck]
      exact .invalid (List.cons_ne_nil _ _) ⟨_, rfl, .negative mem hint (of_decide_eq_true hneg)⟩
    · have hcheck : scheduleOf (first :: rest) = .ok ⟨first, rest⟩ := by
        simp only [scheduleOf, Schedule.ofList?, if_neg hnegative]
      rw [hcheck]
      refine .valid (.items h fun i hi => ?_)
      by_contra hneg
      exact hnegative (List.any_eq_true.2 ⟨i, hi, decide_eq_true (Int.not_le.1 hneg)⟩)

theorem check_schedule (value : Option Json) :
    ScheduleChecked value (check .pollingIntervals value) := by
  cases value with
  | none => exact .valid .default
  | some j =>
    cases j with
    | list items =>
      change ScheduleChecked _ ((Checked.ofItems .pollingIntervals asInt items 0).andThen fun is =>
        Checked.ofField .pollingIntervals (scheduleOf is))
      have h : Checked.Itemized .pollingIntervals asInt items
          (Checked.ofItems .pollingIntervals asInt items 0) :=
        Checked.itemized_ofItems asInt items 0
      generalize Checked.ofItems .pollingIntervals asInt items 0 = c at h
      cases h with
      | valid h => exact checked_scheduleOf h
      | invalid mem bad ne_nil inside => exact .invalid ne_nil ⟨_, rfl, .badItem mem bad⟩
    | _ => exact .invalid (List.cons_ne_nil _ _) ⟨_, rfl, .noList fun items => by simp⟩

/-! ## Building settings -/

/-- How building settings ends, and what the value of the schedule has to do with it. -/
inductive Builds (given : List (String × Json)) (env : Environment) (origin : SettingsOrigin) :
    Except Fault Settings → Prop
  | unloadable {cause : Obstacle} (steered : ¬ Plain given) :
      Builds given env origin (.error (.unloadable cause))
  | nested {inner : Json.Container} (deep : Nested given env inner) :
      Builds given env origin (.error (.tooDeep inner))
  | invalid {raw value : Option Json} {issues : List Issue}
      (wins : Wins given env .pollingIntervals raw)
      (read : ReadAs env.depth .pollingIntervals raw value)
      (schedule : (∃ i ∈ issues, i.field = .pollingIntervals) ↔
        ∃ j, value = some j ∧ NoSchedule j) :
      Builds given env origin (.error (.invalidSettings origin issues))
  | built {raw value : Option Json} {s : Settings}
      (wins : Wins given env .pollingIntervals raw)
      (read : ReadAs env.depth .pollingIntervals raw value)
      (fits : ¬ ∃ j, value = some j ∧ NoSchedule j) (schedule : ScheduleOf value s.schedule)
      (usable : s.schedule.Usable) : Builds given env origin (.ok s)

/-- Something is wrong with the schedule of settings exactly if its value is no schedule. -/
theorem issue_of_schedule_iff (value : Field → Option Json) :
    (∃ i ∈ (build value).issues, i.field = .pollingIntervals) ↔
      ∃ j, value .pollingIntervals = some j ∧ NoSchedule j := by
  have hchecked := check_schedule (value .pollingIntervals)
  constructor
  · rintro ⟨i, hi, hfield⟩
    rw [mem_issues_build_iff, hfield] at hi
    generalize check .pollingIntervals (value .pollingIntervals) = c at hi hchecked
    cases hchecked with
    | valid h => cases hi
    | invalid ne_nil wrong => exact wrong
  · intro wrong
    have hwithin := within_check .pollingIntervals (value .pollingIntervals)
    have hmem : ∀ i, i.field = .pollingIntervals →
        i ∈ (check .pollingIntervals (value .pollingIntervals)).issues →
          i ∈ (build value).issues := by
      intro i hfield hi
      rw [mem_issues_build_iff, hfield]
      exact hi
    generalize check .pollingIntervals (value .pollingIntervals) = c at hchecked hwithin hmem
    cases hchecked with
    | valid h => exact absurd wrong h.not_noSchedule
    | invalid ne_nil wrong =>
      obtain ⟨i, hi⟩ := List.exists_mem_of_ne_nil _ ne_nil
      have hfield := hwithin.field_of_mem hi
      exact ⟨i, hmem i hfield hi, hfield⟩

theorem builds (given : List (String × Json)) (env : Environment) (origin : SettingsOrigin) :
    Builds given env origin (loaded origin (load given env)) := by
  have hloads := loads given env
  generalize load given env = result at hloads
  cases hloads with
  | unloadable steered => exact .unloadable steered
  | nested deep => exact .nested deep
  | @checked value values =>
    obtain ⟨raw, wins, read⟩ := values .pollingIntervals
    have hissue := issue_of_schedule_iff value
    cases hbuild : build value with
    | invalid issues =>
      rw [hbuild] at hissue
      exact .invalid wins read hissue
    | valid s =>
      have hchecked := check_schedule (value .pollingIntervals)
      rw [build_eq_valid_iff.1 hbuild .pollingIntervals] at hchecked
      cases hchecked with
      | valid h => exact .built wins read h.not_noSchedule h h.usable

/-- Settings that are built have a usable schedule, wherever they come from, and building fails
because of the schedule exactly if the value of the source that wins is none. Besides by what is
wrong with their values, settings fail only by a list that is nested too deep, or by values given
directly that are for no field. -/
theorem schedule_of_settings (given : List (String × Json))
    (config : List (String × Option String)) (env : Environment) :
    Builds given env .direct (ofValues given env) ∧
    Builds (hostGiven config) env .host (ofHost config env) ∧
    Builds [] env .environment (ofEnvironment env) :=
  ⟨builds given env .direct, builds (hostGiven config) env .host, builds [] env .environment⟩

/-! ## Lists that are nested too deep -/

theorem listOfText_openLists {depth n : Nat} (h : depth < n) :
    listOfText depth (String.ofList (List.replicate n '[')) = .error .list := by
  have hpos : n ≠ 0 := by omega
  have hblank : Text.isBlank '[' = false := by decide
  have htrim : Text.trimWhile Text.isBlank (List.replicate n '[') = List.replicate n '[' := by
    simp [Text.trimWhile, Text.dropRightWhile, hblank]
  have hhead : (List.replicate n '[').head? = some '[' := by
    simp [List.head?_replicate, hpos]
  simp only [listOfText, String.toList_ofList, htrim, hhead, Json.read_openLists h, if_true]

/-- An environment with nothing but a variable for the schedule. -/
def scheduleVariable (depth : Nat) (text : String) : Environment :=
  ⟨[(Field.variable .pollingIntervals, text)], none, depth⟩

theorem load_scheduleVariable {depth : Nat} {text : String} {inner : Json.Container}
    (deep : listOfText depth text = .error inner) :
    load [] (scheduleVariable depth text) = .error (.tooDeep inner) := by
  have hvariable :
      ({} : Lookup).find? .pollingIntervals (scheduleVariable depth text).variables =
        some (.text text) :=
    find?_append_variable .pollingIntervals .pollingIntervals [] text
  have hraw :
      plainValue [] (scheduleVariable depth text) .pollingIntervals = some (.text text) := by
    rw [plainValue, List.lookup_nil, hvariable]
    rfl
  have hdepth : (scheduleVariable depth text).depth = depth := rfl
  rw [load_plain plain_nil, hdepth, expandLists_nested hraw deep]
  rfl

/-- Settings need not be built nor fail by a list of what is wrong with them. -/
theorem nested_schedule_escapes :
    ¬ ∀ (given : List (String × Json)) (env : Environment),
      (∃ s, ofValues given env = .ok s) ∨
        ∃ issues, ofValues given env = .error (.invalidSettings .direct issues) := by
  intro h
  have hload := load_scheduleVariable (listOfText_openLists (show Json.usualDepth < 3000 by decide))
  generalize String.ofList (List.replicate 3000 '[') = text at hload
  rcases h [] (scheduleVariable Json.usualDepth text) with ⟨s, hs⟩ | ⟨issues, hissues⟩
  · rw [ofValues, hload] at hs
    cases hs
  · rw [ofValues, hload] at hissues
    cases hissues

end Settings

end SecondFactor
