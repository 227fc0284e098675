import Mathlib.Data.List.Nodup
import SecondFactor.Flow
import SecondFactor.Page

/-!
# What comes back with a page

A page sends all that it shows back in hidden fields, and a host hands these over in its own way.
Neither shows in the submission that is read, nor in anything that the flow does with it.
-/
namespace SecondFactor

/-!
## What comes back with a submission

A page sends all that it shows back in hidden fields. The user fills in a passcode and chooses an
input, and the page marks the choice; nothing else is theirs to change. So whatever they enter, a
submission is read with the flags, the prompts and the image of the page, and a prompt that is empty
is not one that is missing.
-/

/-- The fields that hold what the user entered. -/
def Page.entered : List String := [Page.tokenType, Page.tokenTypeChanged, Page.otp]

/-- A submission carries the page that it was sent from. -/
structure Submission.Carries (form : Submission) (p : Presentation) : Prop where
  pushTokenPresent : form.pushTokenPresent = p.pushTokenPresent
  otpTokenPresent : form.otpTokenPresent = p.otpTokenPresent
  pushMessage : form.pushMessage = some p.pushMessage
  otpMessage : form.otpMessage = some p.otpMessage
  enrollmentQr : form.enrollmentQr = p.enrollmentQr

namespace Presentation

variable {p : Presentation} {fields : Fields}

/-- Fields echo a page: but for what the user entered, they are those that the page sent out. -/
def Echoed (p : Presentation) (fields : Fields) : Prop :=
  ∀ name ∉ Page.entered, fields.first name = p.submittedFields.first name

/-- Whatever is entered over the hidden fields of a page echoes the page. -/
theorem echoed_overlay (p : Presentation) {changes : Fields}
    (h : ∀ x ∈ changes, x.1 ∈ Page.entered) :
    p.Echoed (Entries.overlay p.submittedFields changes) := by
  intro name hname
  have hother : ∀ x ∈ changes, x.1 ≠ name := by
    rintro x hx rfl
    exact hname (h x hx)
  rw [Fields.first, Fields.first, Entries.lookup_overlay hother]

theorem Echoed.carries (h : p.Echoed fields) : (Submission.ofFields fields).Carries p := by
  have hpush : fields.first Page.pushToken = some (Page.flag p.pushTokenPresent) :=
    h Page.pushToken (by decide)
  have hotp : fields.first Page.otpToken = some (Page.flag p.otpTokenPresent) :=
    h Page.otpToken (by decide)
  have hpushMessage : fields.first Page.pushMessage = some p.pushMessage :=
    h Page.pushMessage (by decide)
  have hotpMessage : fields.first Page.otpMessage = some p.otpMessage :=
    h Page.otpMessage (by decide)
  have hqr : fields.first Page.enrollmentQr = some p.enrollmentQr :=
    h Page.enrollmentQr (by decide)
  constructor
  · simp [Submission.ofFields, hpush]
  · simp [Submission.ofFields, hotp]
  · exact hpushMessage
  · exact hotpMessage
  · simp [Submission.ofFields, hqr]

end Presentation

/-!
## Forms as hosts hand them over

A host hands the fields of a form over in its own way: in any order, with several values where there
is one, and beside fields of its own. A submission is read from the first values of the fields of
the page and from whether the cancel field is there, so none of this shows, neither in what comes
back from a page nor in anything that the flow does with it.
-/

/-- The names of the hidden fields. -/
def Page.hidden : List String :=
  [Page.enrollmentQr, Page.tokenType, Page.pushToken, Page.otpToken, Page.pushMessage,
    Page.otpMessage, Page.tokenTypeChanged]

/-- The names that the page has for its values. -/
def Page.names : List String := [Page.pollingInterval, Page.otp, Page.cancel] ++ Page.hidden

namespace FieldValue

/-- A value brings a text: it is that text, or a list that begins with it. -/
inductive Brings (s : String) : FieldValue → Prop
  | single : Brings s (single s)
  | many (rest : List (Option String)) : Brings s (many (some s :: rest))

theorem Brings.first {s : String} {value : FieldValue} (h : Brings s value) :
    value.first = some s := by
  cases h with
  | single => rfl
  | many rest => rfl

/-- The value with a list replaced by its first element, if it has one. -/
def flattened : FieldValue → FieldValue
  | missing => missing
  | single s => single s
  | many values => values.head?.join.elim missing single

@[simp] theorem first_flattened (value : FieldValue) : value.flattened.first = value.first := by
  cases value with
  | missing => rfl
  | single s => rfl
  | many values =>
    simp only [flattened, first]
    cases values.head?.join <;> rfl

end FieldValue

namespace Fields

/-- The fields with every list replaced by its first element, if it has one. -/
def flattened (fields : Fields) : Fields := fields.map fun x => (x.1, x.2.flattened)

theorem lookup_flattened (fields : Fields) (name : String) :
    fields.flattened.lookup name = (fields.lookup name).map FieldValue.flattened := by
  induction fields with
  | nil => rfl
  | cons x rest ih =>
    unfold flattened at ih ⊢
    rw [List.map_cons, Entries.lookup_cons, ih]
    obtain ⟨key, value⟩ := x
    rw [Entries.lookup_cons]
    split <;> rfl

theorem first_flattened (fields : Fields) (name : String) :
    fields.flattened.first name = fields.first name := by
  rw [first, first, lookup_flattened]
  cases fields.lookup name with
  | none => rfl
  | some value => exact value.first_flattened

/-- The first value of a field is known where all values under its name begin alike. -/
theorem first_eq_some {fields : Fields} {name text : String} (found : ∃ v, (name, v) ∈ fields)
    (h : ∀ v, (name, v) ∈ fields → v.first = some text) : fields.first name = some text := by
  rw [first]
  cases hlookup : fields.lookup name with
  | none =>
    obtain ⟨v, hv⟩ := found
    have hne := List.lookup_eq_none_iff.1 hlookup (name, v) hv
    simp at hne
  | some v =>
    obtain ⟨before, after, rfl, -⟩ := List.lookup_eq_some_iff.1 hlookup
    exact h v (List.mem_append_right before List.mem_cons_self)

end Fields

/-- A submission is read from first values and from whether there is a cancel field. -/
theorem Submission.ofFields_congr {fields fields' : Fields}
    (hfirst : ∀ name, fields.first name = fields'.first name)
    (hcancel : (fields.lookup Page.cancel).isSome = (fields'.lookup Page.cancel).isSome) :
    Submission.ofFields fields = Submission.ofFields fields' := by
  simp only [ofFields, hfirst, hcancel]

namespace Presentation

variable {p : Presentation} {fields : Fields}

/-- The fields of a page as a host may hand them over: each value alone or at the head of a list, in
any order, and beside them fields whose names are none of the page's. -/
def HandedOver (p : Presentation) (fields : Fields) : Prop :=
  ∃ (wrap : String × String → FieldValue) (added : Fields),
    (∀ f, (wrap f).Brings f.2) ∧ (∀ x ∈ added, x.1 ∉ Page.names) ∧
    fields.Perm (p.formFields.map (fun f => (f.1, wrap f)) ++ added)

theorem map_fst_formFields (p : Presentation) : p.formFields.map Prod.fst = Page.hidden := rfl

theorem mem_hidden {f : String × String} (h : f ∈ p.formFields) : f.1 ∈ Page.hidden := by
  rw [← p.map_fst_formFields]
  exact List.mem_map_of_mem h

theorem HandedOver.first (h : p.HandedOver fields) {f : String × String} (hf : f ∈ p.formFields) :
    fields.first f.1 = some f.2 := by
  obtain ⟨wrap, added, hwrap, hadded, hperm⟩ := h
  refine Fields.first_eq_some ⟨wrap f, ?_⟩ fun v hv => ?_
  · exact hperm.mem_iff.2 (List.mem_append_left added (List.mem_map_of_mem hf))
  · rcases List.mem_append.1 (hperm.mem_iff.1 hv) with hsent | hextra
    · obtain ⟨f', hf', heq⟩ := List.mem_map.1 hsent
      obtain ⟨hname, rfl⟩ := Prod.mk.inj heq
      have hdistinct : (p.formFields.map Prod.fst).Nodup := by
        rw [map_fst_formFields]
        decide
      rw [List.inj_on_of_nodup_map hdistinct hf' hf hname]
      exact (hwrap f).first
    · exact absurd (List.mem_append_right _ (mem_hidden hf)) (hadded _ hextra)

/-- Under a name of the page that no hidden field has there is nothing. -/
theorem HandedOver.lookup_eq_none (h : p.HandedOver fields) {name : String}
    (hname : name ∈ Page.names) (hother : name ∉ Page.hidden) :
    fields.lookup name = none := by
  obtain ⟨wrap, added, hwrap, hadded, hperm⟩ := h
  refine List.lookup_eq_none_iff.2 fun x hx => ?_
  rw [bne_iff_ne]
  rintro rfl
  rcases List.mem_append.1 (hperm.mem_iff.1 hx) with hsent | hextra
  · obtain ⟨f, hf, rfl⟩ := List.mem_map.1 hsent
    exact hother (mem_hidden hf)
  · exact hadded x hextra hname

end Presentation

/-- What is read from a form does not depend on how a host hands it over. The form of a page, in
whatever shape, is read back as that page; and lists of values can be replaced by their first
elements in any fields at all, without a difference to the step of the flow that takes them. -/
theorem form_handedOver {p : Presentation} {fields : Fields} (h : p.HandedOver fields) :
    Submission.ofFields fields =
      { cancelled := false
        tokenType := p.tokenType
        pushTokenPresent := p.pushTokenPresent
        otpTokenPresent := p.otpTokenPresent
        pushMessage := some p.pushMessage
        otpMessage := some p.otpMessage
        tokenTypeChanged := false
        otp := ""
        enrollmentQr := p.enrollmentQr } ∧
    ∀ (settings : Settings) (user : Flow.User) (submitted : Fields) (s : Flow.State),
      (Flow.resume settings user submitted.flattened).runFrom s =
        (Flow.resume settings user submitted).runFrom s := by
  constructor
  · have hsent : ∀ f ∈ p.formFields, fields.first f.1 = some f.2 := fun f hf => h.first hf
    simp only [Presentation.formFields, List.forall_mem_cons] at hsent
    obtain ⟨hqr, htype, hpush, hotp, hpushMessage, hotpMessage, hchanged, -⟩ := hsent
    have hcode : fields.first Page.otp = none := by
      rw [Fields.first, h.lookup_eq_none (by decide) (by decide), Option.bind_none]
    have hcancel : fields.lookup Page.cancel = none := h.lookup_eq_none (by decide) (by decide)
    simp [Submission.ofFields, hqr, htype, hpush, hotp, hpushMessage, hotpMessage, hchanged, hcode,
      hcancel]
  · intro settings user submitted s
    have hread : Submission.ofFields submitted.flattened = Submission.ofFields submitted := by
      refine Submission.ofFields_congr (fun name => submitted.first_flattened name) ?_
      rw [Fields.lookup_flattened, Option.isSome_map]
    unfold Flow.resume
    rw [hread]

/-- A page with an empty prompt. -/
def promptless : Presentation where
  tokenType := .push
  pushMessage := ""
  otpMessage := "Enter the code"
  pushTokenPresent := true
  otpTokenPresent := false
  enrollmentQr := "data:image/png"
  pollingInterval := 5

/-- Its fields from the last to the first, the prompts as lists, and a field of the host. -/
def shuffledFields : Fields :=
  [("session", .single "17"), (Page.tokenTypeChanged, .single "false"),
    (Page.otpMessage, .many [some "Enter the code", none]),
    (Page.pushMessage, .many [some "", some "other"]), (Page.otpToken, .single "false"),
    (Page.pushToken, .single "true"), (Page.tokenType, .single "push"),
    (Page.enrollmentQr, .single "data:image/png")]

theorem form_handedOver_shuffled :
    promptless.HandedOver shuffledFields ∧
    (Submission.ofFields shuffledFields).pushMessage = some "" ∧
    (Submission.ofFields shuffledFields).tokenType = .push := by
  have hfields : promptless.HandedOver shuffledFields := by
    refine ⟨fun f =>
      if f.1 = Page.otpMessage then .many [some f.2, none]
      else if f.1 = Page.pushMessage then .many [some f.2, some "other"]
      else .single f.2, [("session", .single "17")], fun f => ?_, by decide, ?_⟩
    · dsimp only
      split_ifs
      · exact .many _
      · exact .many _
      · exact .single
    · exact List.reverse_perm _ |>.symm
  obtain ⟨hform, -⟩ := form_handedOver hfields
  exact ⟨hfields, by rw [hform]; rfl, by rw [hform]; rfl⟩

end SecondFactor
