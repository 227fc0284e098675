import Mathlib.Data.List.Forall2
import SecondFactor.Proofs.Client.Secrecy
import SecondFactor.Proofs.Flow.Acceptance
import SecondFactor.Proofs.Flow.Twins
import SecondFactor.Proofs.Settings.Fields

/-!
# Secrets in the flow

A host begins and resumes the flow and uses its client directly. Two histories of such acts that
differ in the passcodes and in the password of the service account alone cannot be told apart by
anything but the two fields of the requests that hold them; and a passcode that comes with a
submission waiting for the device is not sent at all.
-/
namespace SecondFactor

/-- The settings with another password of the service account. -/
def Settings.withPassword (settings : Settings) (password : Option String) : Settings :=
  { settings with serviceAccountPassword := password }

theorem Client.ofSettings_withPassword (settings : Settings) (password : Option String) :
    Client.ofSettings (settings.withPassword password) =
      (Client.ofSettings settings).map (·.withPassword (Text.given? password)) := by
  rw [ofSettings_eq, ofSettings_eq]
  change (if settings.serverUrl.isEmpty then _ else _) = _
  cases settings.serverUrl.isEmpty <;> rfl

theorem Client.password_of_ofSettings {settings : Settings} {c : Client}
    (h : Client.ofSettings settings = .ok c) :
    c.account.password = Text.given? settings.serviceAccountPassword := by
  rw [ofSettings_eq] at h
  split at h
  · cases h
  · cases h
    rfl

/-- Settings that differ in the password alone; it is given in both or in neither. -/
def Settings.ButPassword (settings settings' : Settings) : Prop :=
  ∃ password, Text.GivenAlike settings.serviceAccountPassword password ∧
    settings' = settings.withPassword password

/-- Clients that differ in the password alone; it is given in both or in neither. -/
def Client.ButPassword (c c' : Client) : Prop :=
  ∃ password, Text.GivenAlike c.account.password password ∧ c' = c.withPassword password

theorem Client.ofSettings_butPassword {settings settings' : Settings}
    (h : settings.ButPassword settings') :
    (∃ f, Client.ofSettings settings = .error f ∧ Client.ofSettings settings' = .error f) ∨
      ∃ c c', Client.ofSettings settings = .ok c ∧ Client.ofSettings settings' = .ok c' ∧
        c.ButPassword c' := by
  obtain ⟨password, hgiven, rfl⟩ := h
  rw [Client.ofSettings_withPassword]
  cases hc : Client.ofSettings settings with
  | error f => exact .inl ⟨f, rfl, rfl⟩
  | ok c =>
    refine .inr ⟨c, c.withPassword (Text.given? password), rfl, rfl, Text.given? password, ?_, rfl⟩
    rw [Text.GivenAlike, Client.password_of_ofSettings hc, Text.given?_given?, Text.given?_given?]
    exact hgiven

/-- Submitted fields that differ in the passcode alone. -/
def Fields.ButCode (fields fields' : Fields) : Prop :=
  ∀ name, name ≠ Page.otp → fields.lookup name = fields'.lookup name

namespace Flow

/-- States that differ in secrets alone. -/
structure State.Alike (s t : State) : Prop where
  notes : s.notes = t.notes
  conversation : s.conversation.Alike t.conversation
  client : Option.Rel Client.ButPassword s.client t.client
  builds : s.builds = t.builds

variable {α : Type} {settings settings' : Settings} {s t : State}

/-- Two steps that differ in secrets alone. -/
abbrev Step.Alike (x y : Step α) : Prop := Work.Alike State.Alike x y

/-- Flows that differ in secrets alone. -/
def secrecy : Likeness where
  conversation := Conversation.Alike
  client := Client.ButPassword
  parallel := Conversation.parallel_alike
  twins h := by
    obtain ⟨password, hgiven, rfl⟩ := h
    exact Client.twins_withPassword hgiven

theorem states_secrecy : secrecy.States s t ↔ s.Alike t :=
  ⟨fun h => ⟨h.notes, h.conversation, h.client, h.builds⟩,
    fun h => ⟨h.notes, h.conversation, h.client, h.builds⟩⟩

theorem settings_secrecy (h : settings.ButPassword settings') :
    secrecy.Settings settings settings' := by
  have hclient := Client.ofSettings_butPassword h
  obtain ⟨password, -, rfl⟩ := h
  exact ⟨rfl, rfl, rfl, rfl, rfl, hclient⟩

/-- Where no client can be made there is none in either case, and otherwise the clients differ in
the password alone. -/
theorem clientFor_alike (hsettings : settings.ButPassword settings') (h : s.Alike t) :
    (∃ f, s.clientFor settings = .error f ∧ t.clientFor settings' = .error f) ∨
      ∃ c c', s.clientFor settings = .ok c ∧ t.clientFor settings' = .ok c' ∧ c.ButPassword c' :=
  Likeness.clientFor (settings_secrecy hsettings) (states_secrecy.2 h)

theorem Step.alike_of_steps {x y : Step α} (h : secrecy.Steps x y) : Step.Alike x y :=
  fun s t hst => (h s t (states_secrecy.2 hst)).imp id states_secrecy.1

/-! ## Submissions -/

/-- A submission shows its passcode in no other place. -/
theorem ofFields_butCode {fields fields' : Fields} (h : fields.ButCode fields') :
    Submission.ofFields fields' =
      { Submission.ofFields fields with otp := (fields'.first Page.otp).getD "" } := by
  have hfirst (name : String) (hname : name ≠ Page.otp) : fields'.first name = fields.first name := by
    rw [Fields.first, Fields.first, h name hname]
  have hcancel := h Page.cancel (by decide)
  simp (disch := decide) only [Submission.ofFields, hfirst, hcancel]

/-- Waiting for the device sends no passcode, so what is due is due with any. -/
theorem due_alike (hsettings : settings.ButPassword settings') (h : s.Alike t) (user : User)
    {fields fields' : Fields} (hfields : fields.ButCode fields')
    (hpush : fields.first Page.tokenType = some "push") :
    due settings user fields s = due settings' user fields' t := by
  have hpush' : fields'.first Page.tokenType = some "push" := by
    rw [← hpush, Fields.first, Fields.first, hfields _ (by decide)]
  unfold due
  rw [← hfields Page.cancel (by decide), ← h.notes, ← h.conversation.pending]
  simp only [hpush, hpush', if_true]
  rcases clientFor_alike hsettings h with ⟨f, hs, ht⟩ | ⟨c, c', hs, ht, password, -, rfl⟩
  · rw [hs, ht]
  · rw [hs, ht]
    cases fields.lookup Page.cancel <;> cases Attempt.load s.notes <;> rfl

/-! ## Histories -/

namespace Act

/-- Whether an act submits the page while it waits for the device. -/
def isPush : Act → Bool
  | resume _ fields => (Submission.ofFields fields).tokenType = .push
  | begin _ | call _ => false

/-- Acts that differ in the passcode alone. -/
inductive ButCode : Act → Act → Prop
  | begin (user : User) : ButCode (.begin user) (.begin user)
  | resume (user : User) {fields fields' : Fields} (h : fields.ButCode fields') :
    ButCode (.resume user fields) (.resume user fields')
  | validate (username otp otp' : String) (transactionId : Option String) :
    ButCode (.call (.validate username otp transactionId))
      (.call (.validate username otp' transactionId))
  | call (op : Client.Operation) : ButCode (.call op) (.call op)

end Act

/-- What can be seen of an act: what it gives, the notes that it leaves, and what it logs and
sends. -/
structure Seen where
  upshot : Except Fault Upshot
  notes : Notes
  events : List Log.Event
  requests : List Request

/-- What can be seen of work that leads from `s` to `t`. -/
def State.seen (s t : State) (upshot : Except Fault Upshot) : Seen where
  upshot
  notes := t.notes
  events := t.conversation.events.drop s.conversation.events.length
  requests := t.conversation.requests.drop s.conversation.requests.length

/-- What can be seen of some acts, one after the other. -/
def history (settings : Settings) (s : State) : List Act → List (Act × Seen)
  | [] => []
  | act :: acts =>
    let out := (act.perform settings).runFrom s
    (act, s.seen out.2 out.1) :: history settings out.2 acts

/-- What can be seen of two acts differs in the secrets of the requests alone, and in nothing where
they wait for the device. -/
structure SeenAlike (x y : Act × Seen) : Prop where
  upshot : x.2.upshot = y.2.upshot
  notes : x.2.notes = y.2.notes
  events : x.2.events = y.2.events
  requests : x.2.requests.map Request.masked = y.2.requests.map Request.masked
  push : x.1.isPush = true → x.2.requests = y.2.requests

theorem alike_perform (hsettings : settings.ButPassword settings') {act act' : Act}
    (h : act.ButCode act') : Step.Alike (act.perform settings) (act'.perform settings') := by
  have hlike := settings_secrecy hsettings
  refine Step.alike_of_steps ?_
  cases h with
  | begin user => exact Likeness.perform hlike (.begin user)
  | resume user h =>
    refine (Likeness.resume hlike user (ofFields_butCode h) ?_).map _
    rintro c _ ⟨password, hgiven, rfl⟩
    exact Client.alike_validate hgiven user.name _ _ none
  | validate username otp otp' transactionId =>
    refine Likeness.client_bind hlike ?_
    rintro c _ ⟨password, hgiven, rfl⟩
    refine (Likeness.exchange ?_).map _
    exact (Client.alike_validate hgiven username otp otp' transactionId).map _
  | call op => exact Likeness.perform hlike (.call op)

/-- The requests of a submission that waits for the device are the same with any passcode. -/
theorem requests_of_push (hsettings : settings.ButPassword settings') (hst : s.Alike t)
    {act act' : Act} (h : act.ButCode act') (hpush : act.isPush = true) :
    ((act.perform settings).runFrom s).2.conversation.requests.drop s.conversation.requests.length =
      ((act'.perform settings').runFrom t).2.conversation.requests.drop
        t.conversation.requests.length := by
  cases h with
  | begin user => cases hpush
  | @resume user fields fields' h =>
    have hfirst : fields.first Page.tokenType = some "push" := by
      have htype : TokenType.ofText (fields.first Page.tokenType) = .push := of_decide_eq_true hpush
      unfold TokenType.ofText at htype
      split at htype
      · assumption
      · cases htype
    rw [Act.perform, Act.perform, Work.runFrom_map, Work.runFrom_map,
      (resume_traffic settings user fields s).requests,
      (resume_traffic settings' user fields' t).requests, List.drop_left, List.drop_left]
    exact due_alike hsettings hst user h hfirst
  | validate username otp otp' transactionId => cases hpush
  | call op => cases hpush

theorem seen_alike (hsettings : settings.ButPassword settings') (hst : s.Alike t)
    {act act' : Act} (h : act.ButCode act') :
    let out := (act.perform settings).runFrom s
    let out' := (act'.perform settings').runFrom t
    SeenAlike (act, s.seen out.2 out.1) (act', t.seen out'.2 out'.1) := by
  intro out out'
  obtain ⟨hupshot, hleft⟩ := alike_perform hsettings h s t hst
  have hlength : s.conversation.requests.length = t.conversation.requests.length := by
    simpa using congrArg List.length hst.conversation.requests
  refine ⟨hupshot, hleft.notes, ?_, ?_, requests_of_push hsettings hst h⟩
  · simp only [State.seen, hst.conversation.events, out, out', hleft.conversation.events]
  · simp only [State.seen, List.map_drop, hlength, out, out', hleft.conversation.requests]

/-- Histories that differ in the passcodes and in the account's password alone look alike: the
same results, faults, notes and events, and the same requests but for these secrets. A passcode that
comes with a submission waiting for the device is not even sent. -/
theorem history_alike {acts acts' : List Act} (hsettings : settings.ButPassword settings')
    (hstates : s.Alike t) (hacts : List.Forall₂ Act.ButCode acts acts') :
    List.Forall₂ SeenAlike (history settings s acts) (history settings' t acts') := by
  induction hacts generalizing s t with
  | nil => exact .nil
  | cons h rest ih =>
    exact .cons (seen_alike hsettings hstates h) (ih (alike_perform hsettings h s t hstates).2)

/-- Settings that trigger challenges, with a given password. -/
def triggeringSettings (password : String) : Settings :=
  { Settings.ofUrl "https://mfa.example" with
    triggerChallenge := true
    serviceAccountName := some "service"
    serviceAccountPassword := some password }

/-- The login goes through and the triggered challenges are none; a passcode is refused. -/
def refusedPasscode : State :=
  .start .empty
    [.answer 200 (.ok (.object [("result", .object
        [("status", .bool true), ("value", .object [("token", .text "token")])])])),
      .answer 200 (.ok (.object [("result", .object [("status", .bool true)])])),
      .answer 200 (.ok (.object [("result", .object
        [("status", .bool true), ("value", .bool false)])]))]

/-- A login, a passcode and another one that the client is asked to validate. -/
def typing (otp otp' : String) : List Act :=
  [.begin ⟨"alice", []⟩, .resume ⟨"alice", []⟩ [(Page.otp, .single otp)],
    .call (.validate "alice" otp' none)]

theorem history_alike_typing :
    (triggeringSettings "first").ButPassword (triggeringSettings "second") ∧
    refusedPasscode.Alike refusedPasscode ∧
    List.Forall₂ Act.ButCode (typing "111111" "222222") (typing "333333" "") ∧
    List.Forall₂ SeenAlike (history (triggeringSettings "first") refusedPasscode
        (typing "111111" "222222"))
      (history (triggeringSettings "second") refusedPasscode (typing "333333" "")) := by
  have hsettings : (triggeringSettings "first").ButPassword (triggeringSettings "second") :=
    ⟨some "second", rfl, rfl⟩
  have hstates : refusedPasscode.Alike refusedPasscode := ⟨rfl, .refl _, .none, rfl⟩
  have hfields (otp otp' : String) :
      Fields.ButCode [(Page.otp, .single otp)] [(Page.otp, .single otp')] := by
    intro name hname
    simp [Entries.lookup_cons, hname]
  have hacts : List.Forall₂ Act.ButCode (typing "111111" "222222") (typing "333333" "") :=
    .cons (.begin _) (.cons (.resume _ (hfields _ _)) (.cons (.validate _ _ _ _) .nil))
  exact ⟨hsettings, hstates, hacts, history_alike hsettings hstates hacts⟩

end Flow

end SecondFactor
