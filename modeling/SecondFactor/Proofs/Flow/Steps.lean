import SecondFactor.Flow
import SecondFactor.Proofs.Client.Traffic

/-!
# What the steps of the flow come to

A step is told by the state it starts from: the notes, the client and the replies to come. What can
be seen of it afterwards is its result, the notes that it leaves and the requests that it sent.
-/
namespace SecondFactor.Flow

namespace State

/-- The client that a step works with: the one there is, or else the one of the settings. -/
def clientFor (s : State) (settings : Settings) : Except Fault Client :=
  match s.client with
  | some c => .ok c
  | none => Client.ofSettings settings

/-- Without a client only a server that is not named is missing. -/
theorem category_of_clientFor {s : State} {settings : Settings} {f : Fault}
    (h : s.clientFor settings = .error f) : f.category = .configuration := by
  unfold clientFor at h
  split at h
  · cases h
  · rw [Client.ofSettings_eq] at h
    split at h
    · cases h
      rfl
    · cases h

/-- The state once a client was asked for. -/
def asked (s : State) (settings : Settings) : State :=
  match s.client with
  | some _ => s
  | none => { s with client := (Client.ofSettings settings).toOption, builds := s.builds + 1 }

@[simp] theorem notes_asked (s : State) (settings : Settings) :
    (s.asked settings).notes = s.notes := by
  unfold asked
  split <;> rfl

@[simp] theorem conversation_asked (s : State) (settings : Settings) :
    (s.asked settings).conversation = s.conversation := by
  unfold asked
  split <;> rfl

end State

theorem Step.runFrom_client (settings : Settings) (s : State) :
    (Step.client settings).runFrom s = (s.clientFor settings, s.asked settings) := by
  unfold State.clientFor State.asked
  cases h : s.client with
  | some c => exact Step.runFrom_client_some settings h
  | none =>
    rw [Step.runFrom_client_none settings h]
    cases Client.ofSettings settings with
    | error f => simp [Except.toOption, ← h]
    | ok c => simp [Except.toOption]

/-- What can be seen of a part of a step: its result, the notes that it leaves and the requests that
it sends, each of which takes the next reply. -/
structure ComesTo {α : Type} (x : Step α) (s : State) (result : Except Fault α) (notes : Notes)
    (sent : List Request) : Prop where
  result : (x.runFrom s).1 = result
  notes : (x.runFrom s).2.notes = notes
  traffic : s.conversation.Extends (x.runFrom s).2.conversation sent

namespace ComesTo

variable {α β : Type} {x y : Step α} {post : α → Step β} {s : State} {a : α}
  {notes more : Notes} {sent sent' : List Request}

/-- Work that runs alike comes to the same. -/
theorem congr {result : Except Fault α} (h : ComesTo x s result notes sent)
    (hrun : y.runFrom s = x.runFrom s) : ComesTo y s result notes sent :=
  ⟨hrun ▸ h.result, hrun ▸ h.notes, hrun ▸ h.traffic⟩

theorem pure (a : α) (s : State) : ComesTo (Pure.pure a) s (.ok a) s.notes [] :=
  ⟨rfl, rfl, .refl _⟩

theorem log (e : Log.Event) (s : State) : ComesTo (Step.log e) s (.ok ⟨⟩) s.notes [] :=
  ⟨rfl, rfl, (Conversation.Extends.refl _).log _⟩

theorem attempt (s : State) : ComesTo Step.attempt s (Attempt.load s.notes) s.notes [] := by
  refine ⟨?_, ?_, ?_⟩ <;> rw [Step.runFrom_attempt]
  exact .refl _

theorem client (settings : Settings) (s : State) :
    ComesTo (Step.client settings) s (s.clientFor settings) s.notes [] := by
  refine ⟨?_, ?_, ?_⟩ <;> rw [Step.runFrom_client]
  · exact s.notes_asked settings
  · rw [State.conversation_asked]
    exact .refl _

/-- An exchange that sends one request. -/
theorem exchange {x : Exchange α} {s : State} {result : Except Fault α} {r : Request}
    (h : ∃ es, x.runFrom s.conversation = (result, (s.conversation.ask r).log es)) :
    ComesTo (Step.exchange x) s result s.notes [r] := by
  obtain ⟨es, hes⟩ := h
  refine ⟨?_, ?_, ?_⟩ <;> rw [Step.runFrom_exchange, hes]
  exact (Conversation.Extends.ask _ r).log es

/-- After work that fails nothing more is done. -/
theorem bind_error {f : Fault} (h : ComesTo x s (.error f) notes sent) :
    ComesTo (x >>= post) s (.error f) notes sent := by
  obtain ⟨hresult, hnotes, htraffic⟩ := h
  rcases hrun : x.runFrom s with ⟨result, t⟩
  rw [hrun] at hresult hnotes htraffic
  have hbind : (x >>= post).runFrom s = (.error f, t) := by
    rw [Work.runFrom_bind, hrun, show result = .error f from hresult]
  exact ⟨by rw [hbind], by rw [hbind]; exact hnotes, by rw [hbind]; exact htraffic⟩

/-- Work goes on with the notes that were left and the replies that were not taken. -/
theorem bind {result : Except Fault β} (h : ComesTo x s (.ok a) notes sent)
    (hpost : ∀ t : State, t.notes = notes →
      t.conversation.pending = s.conversation.pending.drop sent.length →
      ComesTo (post a) t result more sent') :
    ComesTo (x >>= post) s result more (sent ++ sent') := by
  have hlater := hpost (x.runFrom s).2 h.notes h.traffic.pending
  have hbind : (x >>= post).runFrom s = (post a).runFrom (x.runFrom s).2 := by
    rw [Work.runFrom_bind, show x.runFrom s = (.ok a, (x.runFrom s).2) from Prod.ext h.result rfl]
  refine ⟨by rw [hbind]; exact hlater.result, by rw [hbind]; exact hlater.notes, ?_⟩
  rw [hbind]
  exact h.traffic.trans hlater.traffic

/-- Work goes on after work that sent nothing. -/
theorem bind_silent {result : Except Fault β} (h : ComesTo x s (.ok a) notes [])
    (hpost : ∀ t : State, t.notes = notes → t.conversation.pending = s.conversation.pending →
      ComesTo (post a) t result more sent) :
    ComesTo (x >>= post) s result more sent := by
  rw [← List.nil_append sent]
  exact h.bind hpost

theorem map {result : Except Fault α} (g : α → β) (h : ComesTo x s result notes sent) :
    ComesTo (x >>= fun a => Pure.pure (g a)) s (result.map g) notes sent := by
  cases result with
  | error f => exact h.bind_error
  | ok a =>
    rw [← List.append_nil sent]
    exact h.bind fun t ht _ => ht ▸ .pure (g a) t

end ComesTo

end SecondFactor.Flow
