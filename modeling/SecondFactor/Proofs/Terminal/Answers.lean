import SecondFactor.Proofs.Client.Traffic
import SecondFactor.Proofs.Page.Encoding
import SecondFactor.Terminal

/-!
# How a page is answered

A page that was handed over is printed, and then answered by a passcode that is made from a secret,
or by what is typed. The word that is typed may switch to the other input or cancel; otherwise a
page that waits for the device is submitted as it is, after a pause, and a page that asks for a
passcode takes what was typed for one. The machine may fail to print the page or the remark on the
passcode, or to pause for so long.
-/
namespace SecondFactor.Terminal

/-- Whether an answer has to be typed for a page. -/
def Reads (o : Options) (page : Presentation) : Prop :=
  page.tokenType = .push ∨ Text.given? o.secret = none

/-- What is asked for. -/
def promptFor (page : Presentation) : String :=
  match page.tokenType with
  | .push => "Press Enter once confirmed"
  | .otp => "Code"

/-- The word that was typed. -/
def typedWord (text : String) : String := Text.lower (Text.trim text)

/-- The fields that are submitted when a text was typed. -/
def typedFields (page : Presentation) (text : String) : Fields :=
  match page.tokenType with
  | .push =>
    if typedWord text = TokenType.otp.name then switched page .otp
    else if typedWord text = cancelWord then cancelled page
    else page.submittedFields
  | .otp =>
    if typedWord text = TokenType.push.name && page.pushTokenPresent then switched page .push
    else if typedWord text = cancelWord then cancelled page
    else withOtp page (Text.trim text)

/-- A submission that asks whether the device has confirmed: it neither cancels nor switches. -/
def Checks (fields : Fields) : Prop :=
  (Submission.ofFields fields).tokenType = .push ∧
    (Submission.ofFields fields).cancelled = false ∧
    (Submission.ofFields fields).tokenTypeChanged = false

instance (fields : Fields) : Decidable (Checks fields) :=
  inferInstanceAs (Decidable (_ ∧ _ ∧ _))

/-- The state of a login once a passcode was made. -/
def State.withCode (s : State) (code : String) : State :=
  { s with
    flow := { s.flow with conversation := s.flow.conversation.log [.passcodeGenerated code.length] }
    shown := s.shown ++ [.info codeRemark]
    readings := s.readings + 1 }

/-- The seconds of the pauses before a submission of a page. -/
def pauses (page : Presentation) (fields : Fields) : List Int :=
  if Checks fields then [page.pollingInterval] else []

/-- What is left to do for a page that was handed over: it is printed and answered. -/
def turn (o : Options) (page : Presentation) (failure : Option String) : Dialog Fields := do
  Work.ofExcept (o.machine.printing (pagePanel page failure))
  answerPage o page

/-- How a page is answered: with the fields to submit, or with the reason why there are none. -/
inductive Answered (o : Options) (page : Presentation) (failure : Option String) (s : State) :
    Except Fault Fields → State → Prop
  /-- The page cannot be printed. -/
  | unprinted {reason : String}
      (bad : o.machine.markupError? (pagePanel page failure) = some reason) :
      Answered o page failure s (.error (.badMarkup reason)) s
  /-- Nothing more is typed. -/
  | unanswered (reads : Reads o page) (none : s.answers = []) :
      Answered o page failure s (.error .noAnswerLeft)
        { s with prompts := s.prompts ++ [promptFor page] }
  /-- The machine cannot pause for so long. -/
  | unpaused {text : String} {rest : List String} (push : page.tokenType = .push)
      (answers : s.answers = text :: rest)
      (word : typedWord text ∉ [TokenType.otp.name, cancelWord])
      (tooLong : o.machine.timer.takes page.pollingInterval = false) :
      Answered o page failure s (.error .waitTooLong)
        { s with prompts := s.prompts ++ [promptFor page], answers := rest }
  | typed {text : String} {rest : List String} (reads : Reads o page)
      (answers : s.answers = text :: rest) :
      Answered o page failure s (.ok (typedFields page text))
        { s with
          prompts := s.prompts ++ [promptFor page]
          answers := rest
          sleeps := s.sleeps ++ pauses page (typedFields page text) }
  /-- The secret is of no use, or the clock. -/
  | unmade {secret : String} {f : Fault} (otp : page.tokenType = .otp)
      (given : Text.given? o.secret = some secret)
      (fails : Passcode.generate secret (o.machine.clock s.readings) = .error f) :
      Answered o page failure s (.error f) { s with readings := s.readings + 1 }
  /-- The passcode is made, and the remark that it was cannot be printed. -/
  | unremarked {secret code reason : String} (otp : page.tokenType = .otp)
      (given : Text.given? o.secret = some secret)
      (generated : Passcode.generate secret (o.machine.clock s.readings) = .ok code)
      (bad : o.machine.markupError? (infoLine codeRemark) = some reason) :
      Answered o page failure s (.error (.badMarkup reason)) (s.withCode code)
  | made {secret code : String} (otp : page.tokenType = .otp)
      (given : Text.given? o.secret = some secret)
      (generated : Passcode.generate secret (o.machine.clock s.readings) = .ok code) :
      Answered o page failure s (.ok (withOtp page code)) (s.withCode code)

/-! ## What the fields are read as -/

theorem changed_echoes (page : Presentation) {changes : List (String × String)}
    (h : ∀ x ∈ changes, x.1 ∈ Page.entered) : page.Echoed (changed page changes) := by
  refine page.echoed_overlay fun x hx => ?_
  obtain ⟨y, hy, rfl⟩ := List.mem_map.1 hx
  exact h y hy

theorem switched_echoes (page : Presentation) (type : TokenType) :
    page.Echoed (switched page type) := changed_echoes page (by simp [Page.entered])

theorem withOtp_echoes (page : Presentation) (otp : String) : page.Echoed (withOtp page otp) :=
  changed_echoes page (by simp [Page.entered])

/-- The page itself, with nothing entered. -/
theorem submittedFields_echoes (page : Presentation) : page.Echoed page.submittedFields :=
  fun _ _ => rfl

theorem lookup_cancel_cancelled (page : Presentation) :
    (cancelled page).lookup Page.cancel = some (.single "") := rfl

theorem first_tokenType_switched (page : Presentation) (type : TokenType) :
    (switched page type).first Page.tokenType = some type.name := rfl

/-- Only a switch changes the input. -/
theorem first_tokenType_cancelled (page : Presentation) :
    (cancelled page).first Page.tokenType = some page.tokenType.name := rfl

theorem first_tokenType_withOtp (page : Presentation) (otp : String) :
    (withOtp page otp).first Page.tokenType = some page.tokenType.name := rfl

/-- A switch is no check, whichever input it is for. -/
theorem not_checks_switched (page : Presentation) (type : TokenType) :
    ¬ Checks (switched page type) := by
  rintro ⟨-, -, hchanged⟩
  cases hchanged

theorem not_checks_cancelled (page : Presentation) : ¬ Checks (cancelled page) := by
  rintro ⟨-, hcancelled, -⟩
  cases hcancelled

theorem checks_submittedFields {page : Presentation} (h : page.tokenType = .push) :
    Checks page.submittedFields := by
  obtain ⟨type, _, _, _, _, _, _⟩ := page
  cases h
  exact ⟨rfl, rfl, rfl⟩

theorem not_checks_withOtp {page : Presentation} (h : page.tokenType = .otp) (otp : String) :
    ¬ Checks (withOtp page otp) := by
  obtain ⟨type, _, _, _, _, _, _⟩ := page
  cases h
  rintro ⟨hpush, -, -⟩
  cases hpush

/-- What a typed text is taken for. -/
inductive Taken (page : Presentation) (text : String) : Fields → Prop
  | switch {type : TokenType} (other : type ≠ page.tokenType)
      (offered : type = .push → page.pushTokenPresent = true)
      (word : typedWord text = type.name) : Taken page text (switched page type)
  | cancel (word : typedWord text = cancelWord) : Taken page text (cancelled page)
  | check (push : page.tokenType = .push)
      (word : typedWord text ∉ [TokenType.otp.name, cancelWord]) :
      Taken page text page.submittedFields
  | passcode (otp : page.tokenType = .otp) : Taken page text (withOtp page (Text.trim text))

theorem taken_typedFields (page : Presentation) (text : String) :
    Taken page text (typedFields page text) := by
  unfold typedFields
  cases htype : page.tokenType with
  | push =>
    by_cases hotp : typedWord text = TokenType.otp.name
    · simpa only [hotp, if_true] using Taken.switch (by simp [htype]) (by simp) hotp
    · by_cases hcancel : typedWord text = cancelWord
      · simpa only [if_neg hotp, if_pos hcancel] using Taken.cancel hcancel
      · simpa only [if_neg hotp, if_neg hcancel] using Taken.check htype (by simp [hotp, hcancel])
  | otp =>
    by_cases hpush : (typedWord text = TokenType.push.name && page.pushTokenPresent) = true
    · obtain ⟨hword, hpresent⟩ := Bool.and_eq_true_iff.1 hpush
      simpa only [if_pos hpush] using
        Taken.switch (by simp [htype]) (fun _ => hpresent) (of_decide_eq_true hword)
    · by_cases hcancel : typedWord text = cancelWord
      · simpa only [if_neg hpush, if_pos hcancel] using Taken.cancel hcancel
      · simpa only [if_neg hpush, if_neg hcancel] using Taken.passcode htype

namespace Taken

variable {page : Presentation} {text : String} {fields : Fields}

/-- What is typed cancels or echoes the page. -/
theorem echoes (h : Taken page text fields) : fields = cancelled page ∨ page.Echoed fields := by
  cases h with
  | switch => exact .inr (switched_echoes page _)
  | cancel => exact .inl rfl
  | check => exact .inr (submittedFields_echoes page)
  | passcode => exact .inr (withOtp_echoes page _)

/-- Only on a page for the device, and by any word but two, the device is asked about. -/
theorem checks_iff (h : Taken page text fields) : Checks fields ↔
    page.tokenType = .push ∧ typedWord text ∉ [TokenType.otp.name, cancelWord] := by
  cases h with
  | @switch type other offered word =>
    refine iff_of_false (not_checks_switched page type) ?_
    rintro ⟨hpush, hword⟩
    cases type with
    | push => exact other hpush.symm
    | otp => exact hword (word ▸ List.mem_cons_self)
  | cancel word => exact iff_of_false (not_checks_cancelled page) (by simp [word])
  | check push word => exact iff_of_true (checks_submittedFields push) ⟨push, word⟩
  | passcode otp => exact iff_of_false (not_checks_withOtp otp _) (by simp [otp])

/-- Who uses the input for the device had a page that shows it or that can be switched to it. -/
theorem tokenType (h : Taken page text fields) (push : fields.first Page.tokenType = some "push") :
    page.tokenType = .push ∨ page.pushTokenPresent = true := by
  cases h with
  | @switch type other offered word =>
    cases type with
    | push => exact .inr (offered rfl)
    | otp =>
      rw [first_tokenType_switched] at push
      simp [TokenType.name] at push
  | cancel word =>
    cases htype : page.tokenType with
    | push => exact .inl rfl
    | otp => simp [first_tokenType_cancelled, htype, TokenType.name] at push
  | check hpush word => exact .inl hpush
  | passcode otp => simp [first_tokenType_withOtp, otp, TokenType.name] at push

end Taken

theorem typedFields_cancel (page : Presentation) {text : String} (h : typedWord text = cancelWord) :
    typedFields page text = cancelled page := by
  unfold typedFields
  cases page.tokenType <;> simp [h, cancelWord, TokenType.name]

/-! ## Answering -/

theorem runFrom_ask_nil (prompt : String) {s : State} (h : s.answers = []) :
    (Dialog.ask prompt).runFrom s =
      (.error .noAnswerLeft, { s with prompts := s.prompts ++ [prompt] }) := by
  simp [Dialog.ask, Work.runFrom_bind, h]

theorem runFrom_ask_cons (prompt : String) {s : State} {text : String} {rest : List String}
    (h : s.answers = text :: rest) :
    (Dialog.ask prompt).runFrom s =
      (.ok text, { s with prompts := s.prompts ++ [prompt], answers := rest }) := by
  simp [Dialog.ask, Work.runFrom_bind, Work.runFrom_map, Except.map, h]

/-- What becomes of a text that is typed on a page for the device. -/
theorem runFrom_answerPush_cons (m : Machine) {page : Presentation} (h : page.tokenType = .push)
    {s : State} {text : String} {rest : List String} (answers : s.answers = text :: rest) :
    (answerPush m page).runFrom s =
      let t : State := { s with prompts := s.prompts ++ [promptFor page], answers := rest }
      if typedWord text = TokenType.otp.name then (.ok (switched page .otp), t)
      else if typedWord text = cancelWord then (.ok (cancelled page), t)
      else if m.timer.takes page.pollingInterval then
        (.ok page.submittedFields, { t with sleeps := s.sleeps ++ [page.pollingInterval] })
      else (.error .waitTooLong, t) := by
  have hprompt : promptFor page = "Press Enter once confirmed" := by simp [promptFor, h]
  unfold answerPush
  simp only [Work.runFrom_bind, runFrom_ask_cons _ answers, hprompt]
  change (if typedWord text = TokenType.otp.name then _
    else if typedWord text = cancelWord then _ else _ : Dialog Fields).runFrom _ = _
  split
  · rfl
  · split
    · rfl
    · rw [Work.runFrom_bind, Dialog.runFrom_sleep]
      cases m.timer.takes page.pollingInterval <;> rfl

/-- A text that is typed on a page for the device, where the machine can pause for it. -/
theorem runFrom_answerPush {m : Machine} {page : Presentation} (h : page.tokenType = .push)
    {s : State} {text : String} {rest : List String} (answers : s.answers = text :: rest)
    (pause : typedWord text ∉ [TokenType.otp.name, cancelWord] →
      m.timer.takes page.pollingInterval = true) :
    (answerPush m page).runFrom s =
      (.ok (typedFields page text),
        { s with
          prompts := s.prompts ++ [promptFor page]
          answers := rest
          sleeps := s.sleeps ++ pauses page (typedFields page text) }) := by
  simp only [runFrom_answerPush_cons m h answers, typedFields, h]
  by_cases hotp : typedWord text = TokenType.otp.name
  · simp [hotp, pauses, not_checks_switched]
  · by_cases hcancel : typedWord text = cancelWord
    · simp [hcancel, cancelWord, TokenType.name, pauses, not_checks_cancelled]
    · have htakes := pause (by simp [hotp, hcancel])
      simp [hotp, hcancel, htakes, pauses, checks_submittedFields h]

theorem runFrom_answerPush_tooLong {m : Machine} {page : Presentation} (h : page.tokenType = .push)
    {s : State} {text : String} {rest : List String} (answers : s.answers = text :: rest)
    (word : typedWord text ∉ [TokenType.otp.name, cancelWord])
    (tooLong : m.timer.takes page.pollingInterval = false) :
    (answerPush m page).runFrom s =
      (.error .waitTooLong,
        { s with prompts := s.prompts ++ [promptFor page], answers := rest }) := by
  obtain ⟨hotp, hcancel⟩ : typedWord text ≠ TokenType.otp.name ∧ typedWord text ≠ cancelWord := by
    simpa using word
  simp [runFrom_answerPush_cons m h answers, hotp, hcancel, tooLong]

theorem runFrom_answerOtp {page : Presentation} (h : page.tokenType = .otp) {s : State}
    {text : String} {rest : List String} (answers : s.answers = text :: rest) :
    (answerOtp page).runFrom s =
      (.ok (typedFields page text),
        { s with
          prompts := s.prompts ++ [promptFor page]
          answers := rest
          sleeps := s.sleeps ++ pauses page (typedFields page text) }) := by
  have hprompt : promptFor page = "Code" := by simp [promptFor, h]
  unfold answerOtp
  simp only [Work.runFrom_bind, runFrom_ask_cons _ answers, hprompt, typedFields, h]
  change (if (typedWord text = TokenType.push.name && page.pushTokenPresent) = true then _
    else if typedWord text = cancelWord then _ else _ : Dialog Fields).runFrom _ = _
  by_cases hpush : (typedWord text = TokenType.push.name && page.pushTokenPresent) = true
  · simp [hpush, pauses, not_checks_switched]
  · by_cases hcancel : typedWord text = cancelWord
    · simp [hcancel, cancelWord, TokenType.name, pauses, not_checks_cancelled]
    · simp [hpush, hcancel, pauses, not_checks_withOtp h]

variable {o : Options} {page : Presentation}

theorem answered_push (push : page.tokenType = .push) (failure : Option String) (s : State) :
    Answered o page failure s ((answerPush o.machine page).runFrom s).1
      ((answerPush o.machine page).runFrom s).2 := by
  have reads : Reads o page := .inl push
  cases hanswers : s.answers with
  | nil =>
    have hprompt : promptFor page = "Press Enter once confirmed" := by simp [promptFor, push]
    have hunanswered : Answered o page failure s _ _ := .unanswered reads hanswers
    rw [hprompt] at hunanswered
    simpa only [answerPush, Work.runFrom_bind, runFrom_ask_nil _ hanswers] using hunanswered
  | cons text rest =>
    by_cases hpauses : typedWord text ∉ [TokenType.otp.name, cancelWord] ∧
        o.machine.timer.takes page.pollingInterval = false
    · obtain ⟨word, tooLong⟩ := hpauses
      rw [runFrom_answerPush_tooLong push hanswers word tooLong]
      exact .unpaused push hanswers word tooLong
    · rw [runFrom_answerPush push hanswers fun word => by simpa [word] using hpauses]
      exact .typed reads hanswers

theorem answered_generated {secret : String} (otp : page.tokenType = .otp)
    (given : Text.given? o.secret = some secret) (failure : Option String) (s : State) :
    Answered o page failure s ((answerGenerated o.machine page secret).runFrom s).1
      ((answerGenerated o.machine page secret).runFrom s).2 := by
  unfold answerGenerated
  cases hcode : Passcode.generate secret (o.machine.clock s.readings) with
  | error f =>
    simp only [Work.runFrom_bind, Dialog.runFrom_now, hcode, Work.runFrom_ofExcept]
    exact .unmade otp given hcode
  | ok code =>
    simp only [Work.runFrom_bind, Dialog.runFrom_now, hcode, Work.runFrom_ofExcept]
    cases hremark : o.machine.markupError? (infoLine codeRemark) with
    | some reason =>
      have hprinting := Machine.printing_of_some hremark
      simp only [Dialog.runFrom_log, Dialog.runFrom_display, Showing.item, hprinting]
      exact .unremarked otp given hcode hremark
    | none =>
      have hprinting := Machine.printing_of_none hremark
      simp only [Dialog.runFrom_log, Dialog.runFrom_display, Showing.item, hprinting]
      exact .made otp given hcode

theorem answered_otp (otp : page.tokenType = .otp) (none : Text.given? o.secret = none)
    (failure : Option String) (s : State) :
    Answered o page failure s ((answerOtp page).runFrom s).1 ((answerOtp page).runFrom s).2 := by
  have reads : Reads o page := .inr none
  cases hanswers : s.answers with
  | nil =>
    have hprompt : promptFor page = "Code" := by simp [promptFor, otp]
    have hunanswered : Answered o page failure s _ _ := .unanswered reads hanswers
    rw [hprompt] at hunanswered
    simpa only [answerOtp, Work.runFrom_bind, runFrom_ask_nil _ hanswers] using hunanswered
  | cons text rest =>
    rw [runFrom_answerOtp otp hanswers]
    exact .typed reads hanswers

theorem answered_turn (o : Options) (page : Presentation) (failure : Option String) (s : State) :
    Answered o page failure s ((turn o page failure).runFrom s).1
      ((turn o page failure).runFrom s).2 := by
  rw [turn, Work.runFrom_bind, Work.runFrom_ofExcept]
  cases hpage : o.machine.markupError? (pagePanel page failure) with
  | some reason =>
    rw [Machine.printing_of_some hpage]
    exact .unprinted hpage
  | none =>
    rw [Machine.printing_of_none hpage]
    dsimp only
    unfold answerPage
    cases htype : page.tokenType with
    | push => exact answered_push htype failure s
    | otp =>
      cases hgiven : Text.given? o.secret with
      | some secret => exact answered_generated htype hgiven failure s
      | none => exact answered_otp htype hgiven failure s

/-! ## What an answer leaves -/

namespace Answered

variable {failure : Option String} {s t : State} {result : Except Fault Fields}

/-- The only thing an answer does to the flow is to log. -/
theorem flow (h : Answered o page failure s result t) :
    ∃ es, t.flow = { s.flow with conversation := s.flow.conversation.log es } := by
  cases h with
  | unremarked otp given generated bad => exact ⟨_, rfl⟩
  | made otp given generated => exact ⟨_, rfl⟩
  | _ => exact ⟨[], by simp⟩

/-- Nothing that was handed over before is taken back. -/
theorem shown (h : Answered o page failure s result t) : s.shown <+: t.shown := by
  cases h with
  | unremarked otp given generated bad => exact List.prefix_append s.shown _
  | made otp given generated => exact List.prefix_append s.shown _
  | _ => exact List.prefix_refl s.shown

/-- An answer shows no page. -/
theorem pages (h : Answered o page failure s result t) :
    t.shown.filterMap Showing.page? = s.shown.filterMap Showing.page? := by
  cases h with
  | unremarked otp given generated bad => simp [State.withCode, Showing.page?]
  | made otp given generated => simp [State.withCode, Showing.page?]
  | _ => rfl

theorem sleeps (h : Answered o page failure s result t) :
    t.sleeps = s.sleeps ++ (result.toOption.map (pauses page)).getD [] := by
  cases h with
  | typed reads answers => rfl
  | made otp given generated =>
    simp [State.withCode, Except.toOption, pauses, not_checks_withOtp otp]
  | _ => simp [State.withCode, Except.toOption]

/-- What is submitted cancels or echoes the page. -/
theorem fields {fields : Fields} (h : Answered o page failure s (.ok fields) t) :
    fields = cancelled page ∨ page.Echoed fields := by
  cases h with
  | typed reads answers => exact (taken_typedFields page _).echoes
  | made otp given generated => exact .inr (withOtp_echoes page _)

/-- The input for the device is used only where the page shows it or can be switched to it. -/
theorem tokenType {fields : Fields} (h : Answered o page failure s (.ok fields) t)
    (push : fields.first Page.tokenType = some "push") :
    page.tokenType = .push ∨ page.pushTokenPresent = true := by
  cases h with
  | typed reads answers => exact (taken_typedFields page _).tokenType push
  | made otp given generated => simp [first_tokenType_withOtp, otp, TokenType.name] at push

theorem checks_iff {fields : Fields} (h : Answered o page failure s (.ok fields) t) :
    Checks fields ↔ page.tokenType = .push ∧ ∃ text, s.answers.head? = some text ∧
      typedWord text ∉ [TokenType.otp.name, cancelWord] := by
  cases h with
  | @typed text rest reads answers => simp [(taken_typedFields page text).checks_iff, answers]
  | made otp given generated => simp [not_checks_withOtp otp, otp]

/-- Whoever types the word that cancels on a page that is there to be read submits a
cancellation. -/
theorem cancels (h : Answered o page failure s result t)
    (printed : o.machine.markupError? (pagePanel page failure) = none) (reads : Reads o page)
    {text : String} (first : s.answers.head? = some text) (word : typedWord text = cancelWord) :
    result = .ok (cancelled page) := by
  have hsecret {secret : String} (otp : page.tokenType = .otp) :
      Text.given? o.secret ≠ some secret := by
    rcases reads with hpush | hnone
    · simp [hpush] at otp
    · simp [hnone]
  cases h with
  | unprinted bad => simp [printed] at bad
  | unanswered reads none => simp [none] at first
  | @unpaused typed rest push answers other tooLong =>
    have htext : typed = text := by simpa [answers] using first
    simp [htext, word] at other
  | @typed typed rest reads answers =>
    have htext : typed = text := by simpa [answers] using first
    rw [htext, typedFields_cancel page word]
  | unmade otp given fails => exact absurd given (hsecret otp)
  | unremarked otp given generated bad => exact absurd given (hsecret otp)
  | made otp given generated => exact absurd given (hsecret otp)

end Answered

end SecondFactor.Terminal
