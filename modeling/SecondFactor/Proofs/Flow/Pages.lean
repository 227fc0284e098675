import SecondFactor.Proofs.Flow.Sessions
import SecondFactor.Proofs.Page.Encoding
import SecondFactor.Proofs.Settings.Fields

/-!
# Pages that follow one another

The server keeps nothing of a page; the next one is made of what the submission carries and of the
new challenges, if any came. As long as each submission echoes the page before it, the input for
passcodes and the image of an enrolled token stay, the input for the device stays once it is there,
and each prompt is the one of the last new challenges that had one.
-/
namespace SecondFactor

/-- The prompt of the first challenge for the device, if there is one. -/
def Response.devicePrompt? (r : Response) : Option String :=
  (r.challenges.find? Challenge.isPush).map (·.message)

namespace Flow

/-- What a page has of an earlier one when new challenges came in between, those of the answers. -/
structure Keeps (p : Presentation) (answers : List Response) (q : Presentation) : Prop where
  otpTokenPresent : q.otpTokenPresent = p.otpTokenPresent
  enrollmentQr : q.enrollmentQr = p.enrollmentQr
  pushTokenPresent : q.pushTokenPresent = true ↔
    p.pushTokenPresent = true ∨ ∃ r ∈ answers, ∃ c ∈ r.challenges, c.type = .push
  pushMessage : q.pushMessage =
    (answers.filterMap Response.devicePrompt?).getLast?.getD p.pushMessage
  otpMessage : q.otpMessage = (answers.map Response.message).getLast?.getD p.otpMessage

namespace Keeps

variable {p q page : Presentation} {answers more : List Response}

theorem refl (p : Presentation) : Keeps p [] p := ⟨rfl, rfl, by simp, rfl, rfl⟩

/-- What came later counts first. -/
theorem trans (h : Keeps p answers q) (h' : Keeps q more page) : Keeps p (answers ++ more) page := by
  refine ⟨h'.otpTokenPresent.trans h.otpTokenPresent, h'.enrollmentQr.trans h.enrollmentQr,
    ?_, ?_, ?_⟩
  · rw [h'.pushTokenPresent, h.pushTokenPresent, or_assoc]
    simp only [List.mem_append, or_and_right, exists_or]
  · rw [h'.pushMessage, h.pushMessage, List.filterMap_append, List.getLast?_append, Option.getD_or]
  · rw [h'.otpMessage, h.otpMessage, List.map_append, List.getLast?_append, Option.getD_or]

end Keeps

/-! ## One submission -/

/-- The next page keeps the page that the submission carries. -/
theorem keeps_nextPage {form : Submission} {p : Presentation} (h : form.Carries p)
    (settings : Settings) (answer : Option Response) (counter : Int) :
    Keeps p answer.toList (nextPage settings form answer counter) := by
  refine ⟨h.otpTokenPresent, h.enrollmentQr, ?_, ?_, ?_⟩
  · cases answer <;> simp [nextPage, h.pushTokenPresent, Challenge.isPush]
  · cases answer with
    | none => simp [nextPage, pushPrompt, h.pushMessage]
    | some r =>
      cases hfirst : r.challenges.find? Challenge.isPush <;>
        simp [nextPage, pushPrompt, Response.devicePrompt?, hfirst, h.pushMessage]
  · cases answer <;> simp [nextPage, h.otpMessage]

theorem reasonFor_eq_none_iff {fields : Fields} {answer : Option Response} :
    reasonFor (.ofFields fields) answer = none ↔
      fields.first Page.tokenTypeChanged = some "true" ∨ answer ≠ none := by
  cases answer <;> simp [reasonFor, Submission.ofFields, Page.isTrue]

/-- What a page says about a submission goes by the input that was used. -/
theorem message_of_reasonFor {fields : Fields} {answer : Option Response} {reason : Rejection}
    (h : reasonFor (.ofFields fields) answer = some reason) :
    reason.message = if fields.first Page.tokenType = some "push" then
      "Authentication not verified yet." else "Authentication failed." := by
  unfold reasonFor at h
  split at h
  · cases h
  · cases h
    simp only [Submission.ofFields, TokenType.ofText]
    by_cases hpush : fields.first Page.tokenType = some "push" <;>
      simp [hpush, TokenType.name, Rejection.of, Rejection.message]

/-- The page and the message with which a submission does not get through. -/
theorem Visit.rejected {v : Visit} {notes : Notes} {fields : Fields} {p q : Presentation}
    {e : Option Rejection} (hmove : v.move = .resume fields) (hecho : p.Echoed fields)
    (h : v.result notes = .ok (.failureChallenge q e)) :
    Keeps p (v.answer? notes).toList q ∧ q.tokenType = .ofText (fields.first Page.tokenType) ∧
      e = reasonFor (.ofFields fields) (v.answer? notes) := by
  have hends := Visit.ends hmove h
  generalize v.answer? notes = answer at hends
  generalize v.after notes = left at hends
  cases hends with
  | rejected loaded => exact ⟨keeps_nextPage hecho.carries _ _ _, rfl, rfl⟩

/-! ## A row of submissions -/

/-- From page to page through submissions that do not get through: the first one echoes `p`, each
other one the page that the one before it showed, and the last one shows `q`. Each visit stands
beside the notes that it finds. -/
inductive Turns : Presentation → List (Visit × Notes) → Presentation → Prop
  | nil {p : Presentation} : Turns p [] p
  | cons {p q page : Presentation} {v : Visit} {found : Notes} {fields : Fields}
      {reason : Option Rejection} {later : List (Visit × Notes)}
      (move : v.move = .resume fields) (echoed : p.Echoed fields)
      (shown : v.result found = .ok (.failureChallenge q reason)) (rest : Turns q later page) :
      Turns p ((v, found) :: later) page

/-- The answers that brought new challenges, in their order. -/
def batches (rounds : List (Visit × Notes)) : List Response :=
  rounds.filterMap fun x => x.1.answer? x.2

theorem batches_cons (v : Visit) (found : Notes) (later : List (Visit × Notes)) :
    batches ((v, found) :: later) = (v.answer? found).toList ++ batches later := by
  unfold batches
  rw [List.filterMap_cons]
  cases v.answer? found <;> rfl

theorem Turns.keeps {p q : Presentation} {rounds : List (Visit × Notes)} (h : Turns p rounds q) :
    Keeps p (batches rounds) q := by
  induction h with
  | nil => exact .refl _
  | cons move echoed shown rest ih =>
    rw [batches_cons]
    exact (Visit.rejected move echoed shown).1.trans ih

/-- The input that a page shows first is the one that the last submission used. -/
theorem Turns.tokenType {p q : Presentation} {rounds : List (Visit × Notes)} (h : Turns p rounds q)
    {v : Visit} {found : Notes} (hlast : rounds.getLast? = some (v, found)) :
    ∃ fields, v.move = .resume fields ∧ q.tokenType = .ofText (fields.first Page.tokenType) := by
  induction h with
  | nil => cases hlast
  | @cons p q page w seen fields reason later move echoed shown rest ih =>
    cases rest with
    | nil =>
      cases hlast
      exact ⟨fields, move, (Visit.rejected move echoed shown).2.1⟩
    | cons => exact ih hlast

/-- A page survives the way through the browser and back. Whatever is entered over its hidden fields
echoes it; after a submission that echoes it and does not get through, the next page keeps it but
for new challenges, shows the input that was used, and says nothing where the user switched inputs
or new challenges came; and so each page of a row of such submissions keeps the first one but for
all the new challenges in between. -/
theorem page_roundTrip :
    (∀ (p : Presentation) (changes : Fields), (∀ x ∈ changes, x.1 ∈ Page.entered) →
      p.Echoed (Entries.overlay p.submittedFields changes)) ∧
    (∀ (v : Visit) (notes : Notes) (fields : Fields) (p q : Presentation) (e : Option Rejection),
      v.move = .resume fields → p.Echoed fields →
      v.result notes = .ok (.failureChallenge q e) →
      Keeps p (v.answer? notes).toList q ∧
      q.tokenType = .ofText (fields.first Page.tokenType) ∧
      (e = none ↔ fields.first Page.tokenTypeChanged = some "true" ∨ v.answer? notes ≠ none) ∧
      ∀ reason, e = some reason → reason.message =
        if fields.first Page.tokenType = some "push" then "Authentication not verified yet."
        else "Authentication failed.") ∧
    ∀ (p q : Presentation) (rounds : List (Visit × Notes)), Turns p rounds q →
      Keeps p (batches rounds) q ∧
      ∀ v found, rounds.getLast? = some (v, found) → ∃ fields, v.move = .resume fields ∧
        q.tokenType = .ofText (fields.first Page.tokenType) := by
  refine ⟨fun p changes h => p.echoed_overlay h, ?_, ?_⟩
  · intro v notes fields p q e hmove hecho hresult
    obtain ⟨hkeeps, htype, rfl⟩ := Visit.rejected hmove hecho hresult
    exact ⟨hkeeps, htype, reasonFor_eq_none_iff, fun reason => message_of_reasonFor⟩
  · intro p q rounds h
    exact ⟨h.keeps, fun v found hlast => h.tokenType hlast⟩

/-- A page of alice whose prompt for the device is empty. -/
def asked : Presentation :=
  { tokenType := .otp
    pushMessage := ""
    otpMessage := "Please enter the OTP!"
    pushTokenPresent := false
    otpTokenPresent := true
    enrollmentQr := "data:image/png;base64,QR"
    pollingInterval := 4 }

/-- A submission of the page with a PIN, which the server answers with a challenge for her
device. -/
def challenged : Visit :=
  { settings := Settings.ofUrl "https://mfa.example"
    user := ⟨"alice", []⟩
    move := .resume (Entries.overlay asked.submittedFields [(Page.otp, .single "1234")])
    conversation := .ofReplies
      [.answer 200 (.ok (.object
        [("result", .object [("status", .bool true), ("value", .bool false)]),
          ("detail", .object [("message", .text "Confirm"), ("multi_challenge",
            .list [.object [("type", .text "push"), ("message", .text "Confirm on phone")]])])]))]
    client := none
    builds := 0 }

theorem page_roundTrip_challenged :
    ∃ q, challenged.result (Notes.empty.set Fault.counterNote "0") =
        .ok (.failureChallenge q none) ∧
      Turns asked [(challenged, Notes.empty.set Fault.counterNote "0")] q ∧
      q.tokenType = .otp ∧ q.enrollmentQr = "data:image/png;base64,QR" ∧
      q.pushMessage = "Confirm on phone" ∧ q.otpMessage = "Confirm" := by
  obtain ⟨hoverlay, hstep, hrun⟩ := page_roundTrip
  have hecho : asked.Echoed (Entries.overlay asked.submittedFields [(Page.otp, .single "1234")]) :=
    hoverlay asked _ (by decide)
  have hshown : ∃ q, challenged.result (Notes.empty.set Fault.counterNote "0") =
      .ok (.failureChallenge q none) := ⟨_, rfl⟩
  obtain ⟨q, hq⟩ := hshown
  have hturns : Turns asked [(challenged, Notes.empty.set Fault.counterNote "0")] q :=
    .cons rfl hecho hq .nil
  obtain ⟨-, htype, -, -⟩ := hstep _ _ _ asked q none rfl hecho hq
  obtain ⟨hkeeps, -⟩ := hrun asked q _ hturns
  exact ⟨q, hq, hturns, htype.trans rfl, hkeeps.enrollmentQr, hkeeps.pushMessage.trans rfl,
    hkeeps.otpMessage.trans rfl⟩

end Flow

end SecondFactor
