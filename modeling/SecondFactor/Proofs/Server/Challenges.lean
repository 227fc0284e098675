import Mathlib.Data.List.Nodup
import Mathlib.Data.List.TFAE
import Mathlib.Tactic.TFAE
import SecondFactor.Page
import SecondFactor.Proofs.Server.Affirmation

/-!
# The challenges of a response

A reply lists its challenges in its detail, among whatever else a list may hold. Whether a device is
asked for can be seen in the kinds of these challenges, in the challenges for a device, in the
prompts and in the batch itself, and all of them tell the same.
-/
namespace SecondFactor

/-!
## What a batch of challenges asks for

A batch is made up of challenges to confirm on a device, challenges that a passcode answers, and
others, in any order among each other. Each input of the page has its prompt from the challenges of
its own kind alone, in their order. What stands between them does not show, and a message that is
empty is still a message: only where there is no challenge of a kind does its default come in.
-/

/-- A line holds texts one behind the other, with a comma and a blank between any two. -/
inductive Joined : List String → String → Prop
  | single (text : String) : Joined [text] text
  | cons (text : String) {texts : List String} {line : String} (h : Joined texts line) :
      Joined (text :: texts) (text ++ ", " ++ line)

theorem joined_joinMessages {texts : List String} (h : texts ≠ []) :
    Joined texts (joinMessages texts) := by
  unfold joinMessages
  induction texts with
  | nil => exact absurd rfl h
  | cons text rest ih =>
    cases rest with
    | nil =>
      rw [String.intercalate_singleton]
      exact .single text
    | cons next rest =>
      rw [String.intercalate_cons_cons]
      exact .cons text (ih (List.cons_ne_nil next rest))

theorem ChallengeType.isOtp_iff {t : ChallengeType} : t.isOtp = true ↔ t = .hotp ∨ t = .totp := by
  cases t <;> decide

namespace Challenge

variable {push otp batch : List Challenge}

/-- A batch interleaves challenges to confirm on a device with challenges that a passcode answers.
Both keep their order, and challenges of unknown kinds may stand anywhere. -/
inductive Interleaves : (push otp batch : List Challenge) → Prop
  | nil : Interleaves [] [] []
  | push {push otp batch : List Challenge} {c : Challenge} (kind : c.type = .push)
      (h : Interleaves push otp batch) : Interleaves (c :: push) otp (c :: batch)
  | otp {push otp batch : List Challenge} {c : Challenge}
      (kind : c.type = .hotp ∨ c.type = .totp) (h : Interleaves push otp batch) :
      Interleaves push (c :: otp) (c :: batch)
  | unrecognized {push otp batch : List Challenge} {c : Challenge}
      (kind : c.type = .unrecognized) (h : Interleaves push otp batch) :
      Interleaves push otp (c :: batch)

/-- Every batch interleaves what it asks for. -/
theorem interleaves (batch : List Challenge) :
    Interleaves (batch.filter isPush) (batch.filter (·.type.isOtp)) batch := by
  induction batch with
  | nil => exact .nil
  | cons c rest ih =>
    cases kind : c.type with
    | push =>
      simpa [isPush, ChallengeType.isOtp, kind] using Interleaves.push kind ih
    | hotp =>
      simpa [isPush, ChallengeType.isOtp, kind] using Interleaves.otp (.inl kind) ih
    | totp =>
      simpa [isPush, ChallengeType.isOtp, kind] using Interleaves.otp (.inr kind) ih
    | unrecognized =>
      simpa [isPush, ChallengeType.isOtp, kind] using Interleaves.unrecognized kind ih

/-- The two rows that a batch interleaves are what is left of it without the other kinds. -/
theorem Interleaves.filter_eq (h : Interleaves push otp batch) :
    batch.filter isPush = push ∧ batch.filter (·.type.isOtp) = otp := by
  induction h with
  | nil => exact ⟨rfl, rfl⟩
  | @push _ _ _ c kind _ ih =>
    have hpush : c.isPush = true := by simp [isPush, kind]
    have hotp : c.type.isOtp = false := by rw [kind]; rfl
    simp [hpush, hotp, ih]
  | @otp _ _ _ c kind _ ih =>
    have hpush : c.isPush = false := by rcases kind with kind | kind <;> simp [isPush, kind]
    have hotp : c.type.isOtp = true := ChallengeType.isOtp_iff.2 kind
    simp [hpush, hotp, ih]
  | @unrecognized _ _ _ c kind _ ih =>
    have hpush : c.isPush = false := by simp [isPush, kind]
    have hotp : c.type.isOtp = false := by rw [kind]; rfl
    simp [hpush, hotp, ih]

theorem Interleaves.push_eq_nil_iff (h : Interleaves push otp batch) :
    push = [] ↔ ∀ c ∈ batch, c.type ≠ .push := by
  simp [← h.filter_eq.1, isPush]

end Challenge

namespace Prompts

open Challenge (Interleaves)

variable {push otp batch : List Challenge}

/-- The prompt of an input: its default if no challenge asks for it, else the messages of those that
do, in one line. -/
inductive Prompted (default : String) : List Challenge → String → Prop
  | default : Prompted default [] default
  | messages {asking : List Challenge} {line : String}
      (h : Joined (asking.map (·.message)) line) : Prompted default asking line

theorem prompted_joinedOr (default : String) (asking : List Challenge) :
    Prompted default asking (joinedOr default (asking.map (·.message))) := by
  cases asking with
  | nil => exact .default
  | cons c rest => exact .messages (joined_joinMessages (List.cons_ne_nil _ _))

/-- The prompts for a batch are made from the two rows that it interleaves. -/
theorem ofChallenges_interleaves (h : Interleaves push otp batch) :
    ofChallenges batch =
      { pushMessage := joinedOr defaultPushMessage (push.map (·.message))
        otpMessage := joinedOr defaultOtpMessage (otp.map (·.message))
        pushTokenPresent := !(push.map (·.message)).isEmpty
        otpTokenPresent := true } := by
  obtain ⟨rfl, rfl⟩ := h.filter_eq
  rfl

theorem pushTokenPresent_iff (h : Interleaves push otp batch) :
    (ofChallenges batch).pushTokenPresent = true ↔ ∃ c ∈ batch, c.type = .push := by
  have hpush : push ≠ [] ↔ ∃ c ∈ batch, c.type = .push := by
    simp [h.push_eq_nil_iff]
  rw [ofChallenges_interleaves h, ← hpush]
  simp

theorem tokenType_eq_push_iff {p : Prompts} : p.tokenType = .push ↔ p.pushTokenPresent = true := by
  cases h : p.pushTokenPresent <;> simp [tokenType, h]

/-- The prompts for a batch are those for the challenges on a device and for a passcode that it
interleaves. The device comes first exactly if there is a challenge for it, each prompt holds the
messages of its own challenges or else is the default, and every batch that interleaves the same two
rows, in whatever way and with whatever others in between, has the same prompts. -/
theorem prompts_of_batch (batch : List Challenge) :
    ∃ push otp, Interleaves push otp batch ∧
      ((ofChallenges batch).pushTokenPresent = true ↔ ∃ c ∈ batch, c.type = .push) ∧
      ((ofChallenges batch).tokenType = .push ↔ ∃ c ∈ batch, c.type = .push) ∧
      Prompted defaultPushMessage push (ofChallenges batch).pushMessage ∧
      Prompted defaultOtpMessage otp (ofChallenges batch).otpMessage ∧
      ∀ other, Interleaves push otp other → ofChallenges other = ofChallenges batch := by
  have h := Challenge.interleaves batch
  have hpresent := pushTokenPresent_iff h
  refine ⟨_, _, h, hpresent, tokenType_eq_push_iff.trans hpresent, ?_, ?_, fun other hother => ?_⟩
  · rw [ofChallenges_interleaves h]
    exact prompted_joinedOr defaultPushMessage _
  · rw [ofChallenges_interleaves h]
    exact prompted_joinedOr defaultOtpMessage _
  · rw [ofChallenges_interleaves hother, ofChallenges_interleaves h]

/-- An empty message does not bring the default back. -/
example : (ofChallenges [⟨.push, "", "push", "", "", ""⟩]).pushMessage = "" := by decide +kernel

end Prompts

/-!
## The challenges of a reply

The response has one challenge for each object of the list, in the same order, and the kinds of its
challenges in the order in which they first appear.
-/

/-- The challenges that the items of a list bring: each object brings one, anything else none. -/
inductive Described : List Json → List Challenge → Prop
  | nil : Described [] []
  | object {items : List Json} {batch : List Challenge} (es : List (String × Json))
      (h : Described items batch) :
      Described (.object es :: items) (.ofJson (.object es) :: batch)
  | other {j : Json} {items : List Json} {batch : List Challenge}
      (noObject : ∀ es, j ≠ .object es) (h : Described items batch) : Described (j :: items) batch

theorem described_filter (items : List Json) :
    Described items ((items.filter Json.isObject).map Challenge.ofJson) := by
  induction items with
  | nil => exact .nil
  | cons j items ih =>
    cases j with
    | object es => exact .object es ih
    | _ => exact .other (fun es => by simp) ih

/-- The reply's detail is an object that lists items as its challenges. -/
def Lists (body : Json) (items : List Json) : Prop :=
  ∃ detail, body.member? "detail" = some (.object detail) ∧
    detail.lookup "multi_challenge" = some (.list items)

/-- The challenges of a reply: of the items that it lists, and none if it lists no items. -/
inductive Brought (body : Json) : List Challenge → Prop
  | listed {items : List Json} {batch : List Challenge} (lists : Lists body items)
      (h : Described items batch) : Brought body batch
  | unlisted (h : ∀ items, ¬ Lists body items) : Brought body []

/-! ## Kinds in the order of their first appearance -/

/-- Each kind of a row once, in the order in which the kinds first appear in it. -/
structure FirstAppearances (types kinds : List ChallengeType) : Prop where
  nodup : kinds.Nodup
  mem_iff : ∀ t, t ∈ kinds ↔ t ∈ types
  ordered : kinds.Pairwise fun s t => types.idxOf s < types.idxOf t

/-- Kinds with one more behind them, unless it is there. -/
def withKind (kinds : List ChallengeType) (t : ChallengeType) : List ChallengeType :=
  if kinds.contains t then kinds else kinds ++ [t]

namespace FirstAppearances

variable {types kinds : List ChallengeType}

theorem nil : FirstAppearances [] [] := ⟨.nil, fun _ => .rfl, .nil⟩

/-- What has appeared keeps its place when the row goes on. -/
theorem ordered_append (h : FirstAppearances types kinds) (more : List ChallengeType) :
    kinds.Pairwise fun s t => (types ++ more).idxOf s < (types ++ more).idxOf t := by
  refine h.ordered.imp_of_mem fun hs ht hlt => ?_
  rwa [List.idxOf_append_of_mem ((h.mem_iff _).1 hs), List.idxOf_append_of_mem ((h.mem_iff _).1 ht)]

theorem known {t : ChallengeType} (h : FirstAppearances types kinds) (ht : t ∈ kinds) :
    FirstAppearances (types ++ [t]) kinds where
  nodup := h.nodup
  mem_iff s := by
    rw [h.mem_iff, List.mem_append, List.mem_singleton]
    exact ⟨.inl, fun hs => hs.elim id fun hs => hs ▸ (h.mem_iff t).1 ht⟩
  ordered := h.ordered_append [t]

theorem new {t : ChallengeType} (h : FirstAppearances types kinds) (ht : t ∉ kinds) :
    FirstAppearances (types ++ [t]) (kinds ++ [t]) where
  nodup := List.concat_eq_append ▸ h.nodup.concat ht
  mem_iff s := by simp [h.mem_iff]
  ordered := by
    refine List.pairwise_append.2 ⟨h.ordered_append [t], List.pairwise_singleton _ t, ?_⟩
    intro s hs u hu
    obtain rfl := List.mem_singleton.1 hu
    have hmem : s ∈ types := (h.mem_iff s).1 hs
    have hnotMem : u ∉ types := fun hmem => ht ((h.mem_iff u).2 hmem)
    rw [List.idxOf_append_of_mem hmem, List.idxOf_append_of_notMem hnotMem]
    exact Nat.lt_add_right _ (List.idxOf_lt_length_of_mem hmem)

theorem step (h : FirstAppearances types kinds) (t : ChallengeType) :
    FirstAppearances (types ++ [t]) (withKind kinds t) := by
  unfold withKind
  split
  · next ht => exact h.known (List.contains_iff_mem.1 ht)
  · next ht => exact h.new fun hmem => ht (List.contains_iff_mem.2 hmem)

theorem foldl (h : FirstAppearances types kinds) (more : List ChallengeType) :
    FirstAppearances (types ++ more) (more.foldl withKind kinds) := by
  induction more generalizing types kinds with
  | nil => simpa using h
  | cons t more ih => simpa using ih (h.step t)

end FirstAppearances

theorem Challenge.any_isPush_iff {batch : List Challenge} :
    batch.any isPush = true ↔ ∃ c ∈ batch, c.type = .push := by
  simp [isPush]

namespace Response

theorem member?_challenges_iff {body : Json} {items : List Json} :
    (part body "detail").member? "multi_challenge" = some (.list items) ↔ Lists body items :=
  member?_part_eq_some_iff

theorem challengesOf_list {detail : Json} {items : List Json}
    (h : detail.member? "multi_challenge" = some (.list items)) :
    challengesOf detail = (items.filter Json.isObject).map Challenge.ofJson := by
  rw [challengesOf, h]
  rfl

theorem challengesOf_no_list {detail : Json}
    (h : ∀ items, detail.member? "multi_challenge" ≠ some (.list items)) :
    challengesOf detail = [] := by
  rw [challengesOf]
  cases hmember : detail.member? "multi_challenge" with
  | none => rfl
  | some j =>
    cases j with
    | list items => exact absurd hmember (h items)
    | _ => rfl

theorem brought_ofJson (body : Json) : Brought body (ofJson body).challenges := by
  change Brought body (challengesOf (part body "detail"))
  by_cases hlists : ∃ items, Lists body items
  · obtain ⟨items, hitems⟩ := hlists
    rw [challengesOf_list (member?_challenges_iff.2 hitems)]
    exact .listed hitems (described_filter items)
  · have hnone : ∀ items, ¬ Lists body items := fun items hitems => hlists ⟨items, hitems⟩
    rw [challengesOf_no_list fun items hmember => hnone items (member?_challenges_iff.1 hmember)]
    exact .unlisted hnone

theorem firstAppearances_triggeredTypes (r : Response) :
    FirstAppearances (r.challenges.map (·.type)) r.triggeredTypes := by
  have hkinds : r.triggeredTypes = (r.challenges.map (·.type)).foldl withKind [] := rfl
  rw [hkinds]
  simpa using FirstAppearances.nil.foldl (r.challenges.map (·.type))

theorem push_mem_triggeredTypes_iff {r : Response} :
    .push ∈ r.triggeredTypes ↔ ∃ c ∈ r.challenges, c.type = .push := by
  rw [r.firstAppearances_triggeredTypes.mem_iff, List.mem_map]

theorem pushChallenges_ne_nil_iff {r : Response} :
    r.pushChallenges ≠ [] ↔ ∃ c ∈ r.challenges, c.type = .push := by
  simp [pushChallenges, Challenge.isPush]

/-- The response to a reply has one challenge for each object that the reply lists, in order. Its
kinds are those of its challenges, each once and by first appearance, and every way to ask for a
device gives the same answer. -/
theorem challenges_of_reply (body : Json) :
    Brought body (ofJson body).challenges ∧
    FirstAppearances ((ofJson body).challenges.map (·.type)) (ofJson body).triggeredTypes ∧
    List.TFAE [
      .push ∈ (ofJson body).triggeredTypes,
      (ofJson body).pushChallenges ≠ [],
      (Prompts.ofChallenges (ofJson body).challenges).pushTokenPresent = true,
      (ofJson body).challenges.any Challenge.isPush = true,
      ∃ c ∈ (ofJson body).challenges, c.type = .push] := by
  refine ⟨brought_ofJson body, firstAppearances_triggeredTypes _, ?_⟩
  tfae_have 1 ↔ 5 := push_mem_triggeredTypes_iff
  tfae_have 2 ↔ 5 := pushChallenges_ne_nil_iff
  tfae_have 3 ↔ 5 := Prompts.pushTokenPresent_iff (Challenge.interleaves _)
  tfae_have 4 ↔ 5 := Challenge.any_isPush_iff
  tfae_finish

end Response

end SecondFactor
