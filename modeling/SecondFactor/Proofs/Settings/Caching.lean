import Mathlib.Data.List.Induction
import SecondFactor.Proofs.Settings.Schedules
import SecondFactor.Settings

/-!
# The settings that a program keeps

A program asks for its settings again and again while its environment changes and they are reset
from time to time. The first time that this succeeds after the start or a reset, the settings are
built from the environment as it is then. From then on it succeeds with the very same settings,
whatever becomes of the environment, until they are reset. A failure leaves nothing behind.
-/
namespace SecondFactor.Settings

/-- What happens in a running program, as far as its settings are concerned. -/
inductive Action
  | change (env : Environment)
  | reset
  | get

/-- A running program: its environment and the settings that it keeps. -/
structure Program where
  env : Environment
  cache : Cache

namespace Program

def start (env : Environment) : Program := ⟨env, .empty⟩

def act (p : Program) : Action → Program
  | .change env => { p with env }
  | .reset => { p with cache := p.cache.reset }
  | .get => { p with cache := (p.cache.get p.env).2 }

/-- The program after some actions. -/
def after (p : Program) (actions : List Action) : Program := actions.foldl act p

/-- What the program gets when it asks for its settings. -/
def answer (p : Program) : Except Fault Built := (p.cache.get p.env).1

/-! ## One action -/

/-- What a program gets when it asks for its settings, and what becomes of it. -/
inductive Asks (p : Program) : Except Fault Built → Program → Prop
  | kept {built : Built} (h : p.cache.kept = some built) : Asks p (.ok built) p
  | failed {fault : Fault} (empty : p.cache.kept = none) (h : ofEnvironment p.env = .error fault) :
      Asks p (.error fault) p
  | fresh {s : Settings} (empty : p.cache.kept = none) (h : ofEnvironment p.env = .ok s) :
      Asks p (.ok ⟨p.cache.builds, s⟩)
        ⟨p.env, ⟨some ⟨p.cache.builds, s⟩, p.cache.builds + 1⟩⟩

theorem asks (p : Program) : p.Asks p.answer (p.act .get) := by
  rw [answer, act, Cache.get]
  cases hkept : p.cache.kept with
  | some built => exact .kept hkept
  | none =>
    cases hsettings : ofEnvironment p.env with
    | error fault => exact .failed hkept hsettings
    | ok s => exact .fresh hkept hsettings

/-- How often a program has built settings tells the ones that it keeps from the next ones. -/
def Counts (p : Program) : Prop :=
  ∀ built, p.cache.kept = some built → built.serial < p.cache.builds

variable {p q : Program} {built : Built} {fault : Fault} {s : Settings} {r : Except Fault Built}

namespace Asks

/-- Afterwards a program keeps the settings that it got. -/
theorem kept_of_ok (h : p.Asks (.ok built) q) : q.cache.kept = some built := by
  cases h with
  | kept h => exact h
  | fresh empty h => rfl

/-- A program that asks in vain stays as it is. -/
theorem of_error (h : p.Asks (.error fault) q) :
    q = p ∧ p.cache.kept = none ∧ ofEnvironment p.env = .error fault := by
  cases h with
  | failed empty h => exact ⟨rfl, empty, h⟩

/-- A program that keeps nothing builds settings from its environment. -/
theorem of_empty (h : p.Asks r q) (empty : p.cache.kept = none) :
    r = (ofEnvironment p.env).map (Built.mk p.cache.builds) := by
  cases h with
  | kept h => cases empty.symm.trans h
  | failed _ h => rw [h]; rfl
  | fresh _ h => rw [h]; rfl

/-- Settings that are built anew have the next number. -/
theorem serial_eq (h : p.Asks (.ok built) q) (empty : p.cache.kept = none) :
    built.serial = p.cache.builds := by
  cases h with
  | kept h => cases empty.symm.trans h
  | fresh => rfl

theorem builds_le (h : p.Asks r q) : p.cache.builds ≤ q.cache.builds := by
  cases h with
  | fresh => exact Nat.le_succ _
  | _ => exact Nat.le_refl _

theorem counts (h : p.Asks r q) (hp : p.Counts) : q.Counts := by
  cases h with
  | fresh empty h =>
    intro built hkept
    cases hkept
    exact Nat.lt_succ_self _
  | _ => exact hp

end Asks

theorem kept_act (h : p.cache.kept = some built) {a : Action} (ha : a ≠ .reset) :
    (p.act a).cache.kept = some built := by
  cases a with
  | change env => exact h
  | reset => exact absurd rfl ha
  | get =>
    have hanswer : p.answer = .ok built := by rw [answer, Cache.get_of_kept h]
    exact (hanswer ▸ p.asks).kept_of_ok

theorem builds_le_act (p : Program) (a : Action) : p.cache.builds ≤ (p.act a).cache.builds := by
  cases a with
  | get => exact p.asks.builds_le
  | _ => exact Nat.le_refl _

theorem Counts.act (h : p.Counts) (a : Action) : (p.act a).Counts := by
  cases a with
  | change env => exact h
  | reset => exact fun built hkept => nomatch hkept
  | get => exact p.asks.counts h

/-! ## Many actions -/

theorem after_append (p : Program) (before later : List Action) :
    p.after (before ++ later) = (p.after before).after later :=
  List.foldl_append

/-- Settings are kept until they are reset. -/
theorem kept_after (h : p.cache.kept = some built) {later : List Action}
    (hlater : .reset ∉ later) : (p.after later).cache.kept = some built := by
  induction later generalizing p with
  | nil => exact h
  | cons a later ih =>
    have ha : a ≠ .reset := (List.ne_of_not_mem_cons hlater).symm
    exact ih (kept_act h ha) (List.not_mem_of_not_mem_cons hlater)

/-- As long as a program asks in vain it keeps nothing. -/
theorem empty_after (h : p.cache.kept = none) {later : List Action}
    (vain : ∀ before rest, later = before ++ .get :: rest →
      ∃ fault, (p.after before).answer = .error fault) :
    (p.after later).cache.kept = none := by
  induction later generalizing p with
  | nil => exact h
  | cons a later ih =>
    refine ih ?_ fun before rest hlater => vain (a :: before) rest (by rw [hlater]; rfl)
    cases a with
    | change env => exact h
    | reset => rfl
    | get =>
      obtain ⟨fault, hfault⟩ := vain [] later rfl
      obtain ⟨hp, -, -⟩ := (hfault ▸ p.asks).of_error
      rw [hp, h]

theorem builds_le_after (p : Program) (later : List Action) :
    p.cache.builds ≤ (p.after later).cache.builds := by
  induction later generalizing p with
  | nil => exact Nat.le_refl _
  | cons a later ih => exact Nat.le_trans (p.builds_le_act a) (ih (p.act a))

theorem Counts.after (h : p.Counts) (later : List Action) : (p.after later).Counts := by
  induction later generalizing p with
  | nil => exact h
  | cons a later ih => exact ih (h.act a)

end Program

/-! ## Histories -/

/-- The program after its past, from the start in an environment. -/
def reached (env : Environment) (past : List Action) : Program := (Program.start env).after past

/-- The program has got these settings before. -/
def Got (env : Environment) (past : List Action) (built : Built) : Prop :=
  ∃ before later, past = before ++ .get :: later ∧ (reached env before).answer = .ok built

/-- Since the start or the last reset the program has got no settings. -/
def Without (env : Environment) (past : List Action) : Prop :=
  ∀ before later, past = before ++ .get :: later → .reset ∉ later →
    ∀ built, (reached env before).answer ≠ .ok built

variable {env : Environment} {past : List Action} {built : Built}

theorem reached_append (env : Environment) (past later : List Action) :
    reached env (past ++ later) = (reached env past).after later :=
  Program.after_append _ past later

theorem reached_get (env : Environment) (past later : List Action) :
    reached env (past ++ .get :: later) = ((reached env past).act .get).after later :=
  reached_append env past (.get :: later)

/-- A program keeps nothing exactly if it has got no settings since the start or the last reset. -/
theorem kept_eq_none_iff : (reached env past).cache.kept = none ↔ Without env past := by
  constructor
  · rintro h before later rfl hlater built hanswer
    have hkept := (hanswer ▸ (reached env before).asks).kept_of_ok
    rw [reached_get, Program.kept_after hkept hlater] at h
    cases h
  · intro h
    induction past using List.reverseRecOn with
    | nil => rfl
    | append_singleton past a ih =>
      have hpast : a ≠ .reset → Without env past := fun ha before later hsplit hlater =>
        h before (later ++ [a]) (by rw [hsplit, List.append_assoc]; rfl)
          (by simp [hlater, ha.symm])
      rw [reached_append]
      cases a with
      | change env' => exact ih (hpast (by simp))
      | reset => rfl
      | get =>
        cases hanswer : (reached env past).answer with
        | ok built => exact absurd hanswer (h past [] rfl List.not_mem_nil built)
        | error fault =>
          obtain ⟨hp, hkept, -⟩ := (hanswer ▸ (reached env past).asks).of_error
          change ((reached env past).act .get).cache.kept = none
          rw [hp, hkept]

/-- Settings that a program has got before have a smaller number than the next ones. -/
theorem Got.serial_lt (h : Got env past built) : built.serial < (reached env past).cache.builds := by
  obtain ⟨before, later, rfl, hanswer⟩ := h
  have hstart : (Program.start env).Counts := fun built hkept => nomatch hkept
  have hcounts : ((reached env before).act .get).Counts := (hstart.after before).act .get
  have hkept := (hanswer ▸ (reached env before).asks).kept_of_ok
  rw [reached_get]
  exact Nat.lt_of_lt_of_le (hcounts built hkept) (Program.builds_le_after _ later)

/-- What a program is owed that asks for its settings after its past. -/
structure Owed (env : Environment) (past : List Action) : Prop where
  /-- What it gets for the first time since the start or the last reset is built from the environment
  as it is. -/
  first : Without env past →
    (reached env past).answer.map Built.settings = ofEnvironment (reached env past).env
  /-- Then it is not what it got before. -/
  new : Without env past → ∀ built, (reached env past).answer = .ok built →
    ∀ old, Got env past old → old.serial ≠ built.serial
  /-- What it gets, it gets again until the next reset. -/
  same : ∀ built, (reached env past).answer = .ok built → ∀ later, .reset ∉ later →
    (reached env (past ++ .get :: later)).answer = .ok built
  /-- If it gets nothing, the environment is at fault and nothing changes. -/
  failed : ∀ fault, (reached env past).answer = .error fault →
    ofEnvironment (reached env past).env = .error fault ∧
    reached env (past ++ [.get]) = reached env past ∧
    ((∃ issues, fault = .invalidSettings .environment issues ∧ fault.category = .configuration) ∨
      ∃ inner, fault = .tooDeep inner ∧ Nested [] (reached env past).env inner)
  /-- After failures only, it gets settings as soon as the environment is good. -/
  recovers : ∀ fault, (reached env past).answer = .error fault → ∀ later,
    (∀ before rest, later = before ++ .get :: rest →
      ∃ fault, (reached env (past ++ .get :: before)).answer = .error fault) →
    ∀ s, ofEnvironment (reached env (past ++ .get :: later)).env = .ok s →
      ∃ built, (reached env (past ++ .get :: later)).answer = .ok built ∧ built.settings = s

/-- Whatever happened before, the settings that a program gets are built from the environment of the
first success since the start or the last reset and stay the same from then on, and failures leave
no trace. -/
theorem settings_of_history (env : Environment) (past : List Action) : Owed env past where
  first hpast := by
    rw [(reached env past).asks.of_empty (kept_eq_none_iff.2 hpast)]
    cases ofEnvironment (reached env past).env <;> rfl
  new hpast built hanswer old hold := by
    have hserial := (hanswer ▸ (reached env past).asks).serial_eq (kept_eq_none_iff.2 hpast)
    exact Nat.ne_of_lt (hserial ▸ hold.serial_lt)
  same built hanswer later hlater := by
    have hkept := (hanswer ▸ (reached env past).asks).kept_of_ok
    rw [reached_get, Program.answer, Cache.get_of_kept (Program.kept_after hkept hlater)]
  failed fault hanswer := by
    obtain ⟨hp, -, hsettings⟩ := (hanswer ▸ (reached env past).asks).of_error
    refine ⟨hsettings, (reached_get env past []).trans hp, ?_⟩
    rcases fault_of_loaded plain_nil hsettings with ⟨issues, rfl⟩ | nested
    · exact .inl ⟨issues, rfl, rfl⟩
    · exact .inr nested
  recovers fault hanswer later vain s hs := by
    obtain ⟨hp, hkept, -⟩ := (hanswer ▸ (reached env past).asks).of_error
    simp only [reached_get, hp] at vain hs ⊢
    rw [((reached env past).after later).asks.of_empty (Program.empty_after hkept vain), hs]
    exact ⟨_, rfl, rfl⟩

/-- What was built stays when its variable is gone. -/
example :
    (reached ⟨[("MFABRIDGE_REALM", "a")], none, 1⟩ [.get, .change ⟨[], none, 1⟩]).answer.map
      (·.settings.realm) = .ok (some "a") := by decide +kernel

/-- A program that asks in vain need not be told of its configuration. -/
theorem nested_settings_escape :
    ¬ ∀ env past fault, (reached env past).answer = .error fault →
      fault.category = .configuration := by
  intro h
  have hload := load_scheduleVariable (listOfText_openLists (show Json.usualDepth < 3000 by decide))
  generalize String.ofList (List.replicate 3000 '[') = text at hload
  have hanswer :
      (reached (scheduleVariable Json.usualDepth text) []).answer = .error (.tooDeep .list) := by
    rw [(reached (scheduleVariable Json.usualDepth text) []).asks.of_empty rfl]
    change (loaded .environment (load [] (scheduleVariable Json.usualDepth text))).map _ = _
    rw [hload]
    rfl
  cases h (scheduleVariable Json.usualDepth text) [] (.tooDeep .list) hanswer

end SecondFactor.Settings
