import SecondFactor.Proofs.Flow.Openings
import SecondFactor.Proofs.Settings.Fields

/-!
# When a token is enrolled

A beginning lists the user's tokens where the settings ask for enrollment, and enrolls one right
after a listing that counts as empty. A listing counts as empty where it is one, but also where it
is an error or no listing at all, since each of these gives no token.
-/
namespace SecondFactor.Flow

/-- What a listing holds in the place of the list of tokens. -/
def listed? (body : Json) : Option Json :=
  ((body.member? "result").bind (·.member? "value")).bind (·.member? "tokens")

/-- What a listing holds in that place, item by item; nothing if it is no list. -/
def listedItems (body : Json) : List Json := (listed? body).elim [] Json.items

/-- The server says that the user has no token. -/
def SaysNone (body : Json) : Prop := body.affirms "status" = true ∧ listed? body = some (.list [])

/-- The server says that the user has a token. -/
def SaysSome (body : Json) : Prop :=
  body.affirms "status" = true ∧ ∃ item ∈ listedItems body, item.isObject = true

theorem isEmpty_listOf {body : Json} :
    (TokenInfo.listOf body).isEmpty = true ↔ ∀ item ∈ listedItems body, item.isObject = false := by
  have hmember : (Response.part (Response.part body "result") "value").member? "tokens" =
      listed? body := by
    rw [Response.member?_part_eq_bind, Response.member?_part_eq_bind]
    rfl
  simp [TokenInfo.listOf, TokenInfo.ofResult, hmember, listedItems, List.isEmpty_iff]

theorem namesNone_iff {body : Json} : namesNone body = true ↔ ¬ SaysSome body := by
  unfold namesNone SaysSome
  rw [Bool.or_eq_true, isEmpty_listOf]
  cases body.affirms "status" <;> simp

theorem mem_of_ne_auth {logins rest : Dialogue} (auth : ∀ x ∈ logins, x.1.endpoint = .auth)
    {x : Request × Option Reply} (hx : x ∈ logins ++ rest) (hne : x.1.endpoint ≠ .auth) :
    x ∈ rest :=
  (List.mem_append.1 hx).resolve_left fun hx => hne (auth x hx)

/-- A request to enroll a token comes last, right after a listing that counts as empty. -/
theorem EnrollmentTraffic.of_rollout {xs : Dialogue} (h : EnrollmentTraffic xs) {init : Request}
    {answer : Option Reply} (hmem : (init, answer) ∈ xs) (hinit : init.endpoint = .tokenInit) :
    ∃ logins q r body, xs = logins ++ [(q, some r), (init, answer)] ∧ q.endpoint = .tokens ∧
      r.object? = some body ∧ namesNone body = true := by
  have hne : init.endpoint ≠ .auth := by simp [hinit]
  cases h with
  | unlisted h =>
    rcases h _ hmem with h | ⟨h, -⟩ <;> rw [hinit] at h <;> cases h
  | owner auth listing object h =>
    cases List.mem_singleton.1 (mem_of_ne_auth auth hmem hne)
    rw [hinit] at listing
    cases listing
  | @enrolled logins q _ r _ body auth listing object h rollout =>
    have hlast := mem_of_ne_auth auth hmem hne
    simp only [List.mem_cons, List.not_mem_nil, or_false] at hlast
    rcases hlast with hlast | hlast
    · cases hlast
      rw [hinit] at listing
      cases listing
    · cases hlast
      exact ⟨logins, q, r, body, rfl, listing, object, h⟩

/-- A listing that came back as an object is followed by a request to enroll a token exactly where
it counts as empty. -/
theorem EnrollmentTraffic.rollout_iff {xs : Dialogue} (h : EnrollmentTraffic xs) {q : Request}
    {r : Reply} {body : Json} (hmem : (q, some r) ∈ xs) (hq : q.endpoint = .tokens)
    (hr : r.object? = some body) :
    (∃ x ∈ xs, x.1.endpoint = .tokenInit) ↔ namesNone body = true := by
  have hne : q.endpoint ≠ .auth := by simp [hq]
  cases h with
  | unlisted h =>
    rcases h _ hmem with h | ⟨-, h⟩
    · exact absurd h hne
    · simp [hr] at h
  | @owner logins _ _ body' auth listing object h =>
    cases List.mem_singleton.1 (mem_of_ne_auth auth hmem hne)
    cases object.symm.trans hr
    rw [h]
    refine ⟨?_, fun h => (by cases h)⟩
    rintro ⟨x, hx, hrollout⟩
    have hlast := List.mem_singleton.1 (mem_of_ne_auth auth hx (by simp [hrollout]))
    rw [hlast, hq] at hrollout
    cases hrollout
  | @enrolled logins _ init _ answer body' auth listing object h rollout =>
    have hfirst := mem_of_ne_auth auth hmem hne
    simp only [List.mem_cons, List.not_mem_nil, or_false] at hfirst
    rcases hfirst with hfirst | hfirst
    · cases hfirst
      cases object.symm.trans hr
      exact ⟨fun _ => h, fun _ => ⟨(init, answer), by simp, rollout⟩⟩
    · cases hfirst
      rw [hq] at rollout
      cases rollout

/-- When a beginning enrolls a token. The request comes last, right after a listing that names no
token, and only where the settings ask for it. Once a listing came back as an object, the request
follows exactly if it does not name a token; so it follows only listings that say the user has none
exactly where the listing says either that or the contrary. -/
theorem enrollment (settings : Settings) (user : User) (s : State) :
    let xs := s.conversation.dialogue ((begin settings user).runFrom s).2.conversation
    (∀ init answer, (init, answer) ∈ xs → init.endpoint = .tokenInit →
      settings.enrollToken = true ∧ ∃ others q r body,
        xs = others ++ [(q, some r), (init, answer)] ∧ q.endpoint = .tokens ∧
          r.object? = some body ∧ ¬ SaysSome body) ∧
    ∀ q r body, (q, some r) ∈ xs → q.endpoint = .tokens → r.object? = some body →
      ((∃ x ∈ xs, x.1.endpoint = .tokenInit) ↔ ¬ SaysSome body) ∧
      (((∃ x ∈ xs, x.1.endpoint = .tokenInit) → settings.enrollToken = true ∧ SaysNone body) ↔
        SaysNone body ∨ SaysSome body) := by
  intro xs
  obtain ⟨first, second, hxs, hfirst, hsecond, hoff, -⟩ := begin_begins settings user s
  have hmem : ∀ x ∈ xs, x.1.endpoint = .tokens ∨ x.1.endpoint = .tokenInit → x ∈ second := by
    intro x hx hendpoint
    rw [show xs = first ++ second from hxs] at hx
    refine (List.mem_append.1 hx).resolve_left fun hx => ?_
    rcases hfirst x hx with h | h <;> simp [h] at hendpoint
  have hon : ∀ x ∈ second, settings.enrollToken = true := by
    intro x hx
    cases henroll : settings.enrollToken with
    | true => rfl
    | false =>
      rw [hoff henroll] at hx
      cases hx
  refine ⟨?_, ?_⟩
  · intro init answer hx hinit
    have hsent := hmem _ hx (.inr hinit)
    obtain ⟨logins, q, r, body, hshape, hq, hr, hnone⟩ := hsecond.of_rollout hsent hinit
    refine ⟨hon _ hsent, first ++ logins, q, r, body, ?_, hq, hr, namesNone_iff.1 hnone⟩
    rw [show xs = first ++ second from hxs, hshape, List.append_assoc]
  · intro q r body hx hq hr
    have hlisted := hmem _ hx (.inl hq)
    have hrollout : (∃ x ∈ xs, x.1.endpoint = .tokenInit) ↔ ¬ SaysSome body := by
      rw [← namesNone_iff, ← hsecond.rollout_iff hlisted hq hr]
      constructor
      · rintro ⟨x, hx, hinit⟩
        exact ⟨x, hmem x hx (.inr hinit), hinit⟩
      · rintro ⟨x, hx, hinit⟩
        refine ⟨x, ?_, hinit⟩
        rw [show xs = first ++ second from hxs]
        exact List.mem_append_right first hx
    refine ⟨hrollout, ?_⟩
    rw [hrollout]
    constructor
    · intro hlaw
      by_cases hsome : SaysSome body
      · exact .inr hsome
      · exact .inl (hlaw hsome).2
    · rintro (hnone | hsome) hnot
      · exact ⟨hon _ hlisted, hnone⟩
      · exact absurd hsome hnot

/-- A beginning of alice that enrolls a token if she has none, where the server lets the service
account in, answers the listing with an error, and would enroll a token. -/
def refusedListing : State :=
  .start .empty
    [.answer 200 (.ok (.object [("result", .object
        [("status", .bool true), ("value", .object [("token", .text "token")])])])),
      .answer 200 (.ok (.object [("result", .object [("status", .bool false)])])),
      .answer 200 (.ok (.object [("result", .object [("status", .bool true)])]))]

def enrollingSettings : Settings :=
  { Settings.ofUrl "https://mfa.example" with
    enrollToken := true
    serviceAccountName := some "service"
    serviceAccountPassword := some "secret" }

/-- A listing that is an error may lead to a token. -/
theorem error_enrolls :
    ¬ ∀ (settings : Settings) (user : User) (s : State),
      let xs := s.conversation.dialogue ((begin settings user).runFrom s).2.conversation
      (∃ x ∈ xs, x.1.endpoint = .tokenInit) →
        ∃ q r body, (q, some r) ∈ xs ∧ q.endpoint = .tokens ∧ r.object? = some body ∧
          SaysNone body := by
  intro h
  have hlaw := h enrollingSettings ⟨"alice", []⟩ refusedListing
  have hsent : (refusedListing.conversation.dialogue ((begin enrollingSettings
      ⟨"alice", []⟩).runFrom refusedListing).2.conversation).any
        (·.1.endpoint = .tokenInit) = true := rfl
  have herror : (refusedListing.conversation.dialogue ((begin enrollingSettings
      ⟨"alice", []⟩).runFrom refusedListing).2.conversation).all (fun x =>
        !(x.1.endpoint = .tokens && (x.2.bind Reply.object?).any (·.affirms "status"))) = true :=
    rfl
  obtain ⟨x, hx, hinit⟩ := List.any_eq_true.1 hsent
  obtain ⟨q, r, body, hlisting, hq, hr, hstatus, -⟩ := hlaw ⟨x, hx, by simpa using hinit⟩
  have hrefused := List.all_eq_true.1 herror _ hlisting
  simp [hq, hr, hstatus] at hrefused

end SecondFactor.Flow
