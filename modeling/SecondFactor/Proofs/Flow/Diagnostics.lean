import SecondFactor.Proofs.Flow.Twins
import SecondFactor.Proofs.Settings.Fields

/-!
# Diagnostics

The client writes diagnostics about its traffic where the settings ask for them. Two hosts do the
same, the one with diagnostics and the other without. Nothing but the diagnostics tells them apart,
and without these the first log is the second.
-/
namespace SecondFactor

namespace Log.Event

/-- The names of the diagnostics about the traffic with the server. -/
theorem isDiagnostic_iff {e : Event} :
    e.isDiagnostic = true ↔ e.name = "mfa_server_log" ∨ e.name = "mfa_server_error" := by
  cases e <;> simp [name, isDiagnostic]

/-- The events without the diagnostics, in their order. -/
def withoutDiagnostics (es : List Event) : List Event :=
  es.filter fun e => e.name ≠ "mfa_server_log" ∧ e.name ≠ "mfa_server_error"

theorem withoutDiagnostics_append (es es' : List Event) :
    withoutDiagnostics (es ++ es') = withoutDiagnostics es ++ withoutDiagnostics es' :=
  List.filter_append es es'

theorem withoutDiagnostics_gated {e : Event} (h : e.isDiagnostic = true) (enabled : Bool) :
    withoutDiagnostics (e.gated enabled) = [] := by
  have hname : ¬(e.name ≠ "mfa_server_log" ∧ e.name ≠ "mfa_server_error") := by
    rw [← not_or, not_not]
    exact isDiagnostic_iff.1 h
  cases enabled <;> simp [withoutDiagnostics, gated, hname]

theorem withoutDiagnostics_singleton {e : Event} (h : e.isDiagnostic = false) :
    withoutDiagnostics [e] = [e] := by
  have hname : e.name ≠ "mfa_server_log" ∧ e.name ≠ "mfa_server_error" := by
    rw [← not_or, ← isDiagnostic_iff, h]
    exact Bool.false_ne_true
  simp [withoutDiagnostics, hname]

end Log.Event

open Log.Event (withoutDiagnostics)

/-- The settings with diagnostics or without. -/
def Settings.withLogging (settings : Settings) (doLog : Bool) : Settings := { settings with doLog }

/-- The second conversation is the first one without its diagnostics. -/
structure Conversation.Silenced (v w : Conversation) : Prop where
  pending : v.pending = w.pending
  requests : v.requests = w.requests
  events : w.events = withoutDiagnostics v.events
  token : v.token = w.token

namespace Conversation

variable {v w : Conversation}

/-- Events make no difference where they leave the same without the diagnostics. -/
theorem Silenced.log (h : v.Silenced w) {es es' : List Log.Event}
    (hes : es' = withoutDiagnostics es) : (v.log es).Silenced (w.log es') := by
  refine ⟨h.pending, h.requests, ?_, h.token⟩
  rw [Conversation.log, Conversation.log, h.events, hes, Log.Event.withoutDiagnostics_append]

theorem parallel_silenced : Parallel Silenced where
  pending h := h.pending
  token h := h.token
  keep h _ := ⟨h.pending, h.requests, h.events, rfl⟩
  log h _ he := h.log (Log.Event.withoutDiagnostics_singleton he).symm

theorem alike_reply_silenced (q : Request) :
    Work.Alike Silenced (Exchange.reply q) (Exchange.reply q) := by
  intro v w hvw
  rw [Exchange.runFrom_reply, Exchange.runFrom_reply, hvw.pending]
  exact ⟨rfl, by simp [hvw.pending], by simp [hvw.requests], hvw.events, hvw.token⟩

end Conversation

namespace Client

/-- The client with diagnostics or without. -/
def withLogging (c : Client) (logging : Bool) : Client := { c with logging }

theorem ofSettings_withLogging (settings : Settings) (doLog : Bool) :
    ofSettings (settings.withLogging doLog) =
      (ofSettings settings).map (·.withLogging doLog) := by
  rw [ofSettings_eq, ofSettings_eq]
  change (if settings.serverUrl.isEmpty then _ else _) = _
  cases settings.serverUrl.isEmpty <;> rfl

/-- A client without diagnostics does the same as with them. -/
theorem twins_withLogging (c : Client) :
    (c.withLogging true).Twins Conversation.Silenced (c.withLogging false) where
  parallel := Conversation.parallel_silenced
  realm := rfl
  schedule := rfl
  owns := rfl
  diagnose _ he _ _ hvw := hvw.log (Log.Event.withoutDiagnostics_gated he true).symm
  ask _ _ _ := Conversation.alike_reply_silenced _
  login := by
    have hsame : (c.withLogging true).credentials? = (c.withLogging false).credentials? := rfl
    cases hcredentials : (c.withLogging false).credentials? with
    | none => exact .inl ⟨hsame.trans hcredentials, rfl⟩
    | some account =>
      exact .inr ⟨account.1, account.2, account.2, hsame.trans hcredentials, rfl,
        Conversation.alike_reply_silenced _⟩

end Client

namespace Flow

/-- Flows with and without diagnostics. -/
def silence : Likeness where
  conversation := Conversation.Silenced
  client c c' := ∃ d : Client, c = d.withLogging true ∧ c' = d.withLogging false
  parallel := Conversation.parallel_silenced
  twins h := by
    obtain ⟨d, rfl, rfl⟩ := h
    exact d.twins_withLogging

theorem settings_silence (settings : Settings) :
    silence.Settings (settings.withLogging true) (settings.withLogging false) := by
  refine ⟨rfl, rfl, rfl, rfl, rfl, ?_⟩
  rw [Client.ofSettings_withLogging, Client.ofSettings_withLogging]
  cases Client.ofSettings settings with
  | error f => exact .inl ⟨f, rfl, rfl⟩
  | ok c => exact .inr ⟨_, _, rfl, rfl, c, rfl, rfl⟩

theorem hosts_silence (notes : Notes) (replies : List Reply) (client : Option Client) :
    silence.Hosts (.start notes replies (client.map (·.withLogging true)))
      (.start notes replies (client.map (·.withLogging false))) := by
  refine ⟨⟨rfl, ⟨rfl, rfl, rfl, rfl⟩, ?_, rfl⟩, rfl, rfl⟩
  cases client with
  | none => exact .none
  | some c => exact .some ⟨c, rfl, rfl⟩

/-- What a deed gives and leaves with diagnostics, and without: the same results, faults, notes,
requests and pollers, and the same events but for the diagnostics, of which the second host has
none. -/
structure DiagnosticsApart (x y : Except Fault Gain × Host) : Prop where
  result : x.1 = y.1
  notes : x.2.flow.notes = y.2.flow.notes
  requests : x.2.flow.conversation.requests = y.2.flow.conversation.requests
  registry : x.2.registry = y.2.registry
  silent : ∀ e ∈ y.2.flow.conversation.events,
    e.name ≠ "mfa_server_log" ∧ e.name ≠ "mfa_server_error"
  events : y.2.flow.conversation.events = withoutDiagnostics x.2.flow.conversation.events

/-- Diagnostics tell of a run, and nothing in the run depends on them: whatever a host does, each
deed gives and leaves the same with diagnostics and without. -/
theorem run_withLogging (settings : Settings) (notes : Notes) (replies : List Reply)
    (client : Option Client) (ds : List Deed) :
    List.Forall₂ DiagnosticsApart
      ((Host.start notes replies (client.map (·.withLogging true))).run
        (settings.withLogging true) ds)
      ((Host.start notes replies (client.map (·.withLogging false))).run
        (settings.withLogging false) ds) := by
  have hrun := Likeness.run (settings_silence settings) (hosts_silence notes replies client) ds
  refine hrun.imp fun x y h => ?_
  obtain ⟨hresult, hhosts⟩ := h
  have hevents := hhosts.flow.conversation.events
  refine ⟨hresult, hhosts.flow.notes, hhosts.flow.conversation.requests, hhosts.registry, ?_,
    hevents⟩
  intro e he
  rw [hevents, withoutDiagnostics, List.mem_filter] at he
  exact of_decide_eq_true he.2

/-- A validation of which the server does not hear: the failure itself is reported in any case. -/
example :
    let names := fun doLog : Bool =>
      ((Host.start .empty [.lost .connection "refused"] none).run
        ((Settings.ofUrl "https://mfa.example").withLogging doLog)
        [.act (.call (.validate "alice" "123456" none))]).map
          fun out => out.2.flow.conversation.events.map (·.name)
    names true = [["mfa_server_unreachable", "mfa_server_error"]] ∧
      names false = [["mfa_server_unreachable"]] := by decide

end Flow

end SecondFactor
