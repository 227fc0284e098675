import SecondFactor.Client.Poller
import SecondFactor.Flow
import SecondFactor.Proofs.Client.Operation

/-!
# Hosts of the flow

A host begins and resumes the flow and uses the flow's client directly, and it may turn to the notes
of another session at any time. Besides, it has pollers at work, which go on between its own steps.
Where a step comes into a round of a poller, the round is told by its parts: a call to poll, one to
validate if the poll went through, and what the poller reports of it.
-/
namespace SecondFactor.Flow

/-! ## Acts -/

/-- What a host does: it begins or resumes the flow, or calls the flow's client itself. -/
inductive Act
  | begin (user : User)
  | resume (user : User) (fields : Fields)
  | call (op : Client.Operation)

/-- What an act gives. -/
inductive Upshot
  | step (result : Result)
  | answer (a : Client.Answer)

def Act.perform (settings : Settings) : Act → Step Upshot
  | begin user => .step <$> Flow.begin settings user
  | resume user fields => .step <$> Flow.resume settings user fields
  | call op => do
    let c ← Step.client settings
    .answer <$> Step.exchange (op.perform c)

/-! ## Pollers -/

/-- What happens to the pollers of a client. -/
inductive Errand
  /-- A poller is started. -/
  | start (transactionId : Option String)
  /-- A poller that has waited `done` times goes on for at most `left` rounds. Later deeds may take
  it further. -/
  | goOn (timer : Timer) (transactionId : Option String) (username : String) (signalled : Bool)
      (left done : Nat)
  /-- A poller reports that its round failed. -/
  | report (transactionId : Option String) (f : Fault)
  /-- A poller reports that it has its response. -/
  | deliver (transactionId : Option String) (attempts : Nat)
  /-- A poller ends. -/
  | finish (id : Nat)
  /-- A poller is started and awaited. -/
  | await (timer : Timer) (transactionId : Option String) (username : String)
      (callbackStops : Bool)
  /-- All pollers are stopped. -/
  | stop (caller : Client.Caller)
  /-- All pollers are stopped, and the connection is closed. -/
  | close

/-- What comes back from the pollers. -/
inductive Notice
  | nothing
  | polled (run : Client.PollRun)
  | delivered (r : Option Response)

def Errand.perform (s : Client.Session) : Errand → Notice × Client.Session
  | start transactionId => (.nothing, s.startPoller transactionId)
  | goOn timer transactionId username signalled left done =>
    let out :=
      (s.client.pollLoop timer transactionId username signalled left done).run s.conversation
    (.polled out.1, { s with conversation := out.2 })
  | report transactionId f =>
    (.nothing, { s with
      conversation := ((s.client.pollFailed transactionId f).run s.conversation).2 })
  | deliver transactionId attempts => (.nothing, s.log (.pollerFinished transactionId attempts))
  | finish id => (.nothing, { s with registry := s.registry.finish id })
  | await timer transactionId username callbackStops =>
    let out := s.runPoller timer transactionId username callbackStops
    (.delivered out.1, out.2)
  | stop caller => (.nothing, s.stopAs caller)
  | close => (.nothing, s.close)

/-! ## Runs of a host -/

/-- The flow that a host drives, and the pollers of the flow's client. -/
structure Host where
  flow : State
  registry : Client.Registry
  closings : Nat

/-- A single thing that happens in a run of a host. -/
inductive Deed
  | act (a : Act)
  | errand (e : Errand)
  /-- The host turns to a session with these notes. -/
  | turn (notes : Notes)

/-- What a deed gives. -/
inductive Gain
  | upshot (u : Upshot)
  | notice (n : Notice)
  | turned

namespace Host

/-- A host that has done nothing yet, with a client or without. -/
def start (notes : Notes) (replies : List Reply) (client : Option Client) : Host :=
  ⟨{ State.start notes replies with client }, .empty, 0⟩

/-- The flow's client at work. -/
def session (h : Host) (client : Client) : Client.Session :=
  ⟨client, h.flow.conversation, h.registry, h.closings⟩

/-- The host once the flow's client has been at work. -/
def withSession (h : Host) (s : Client.Session) : Host :=
  ⟨{ h.flow with conversation := s.conversation }, s.registry, s.closings⟩

/-- What a deed gives, and the host that it leaves. Where there is no client, one is built for the
pollers. -/
def perform (settings : Settings) (h : Host) : Deed → Except Fault Gain × Host
  | .act a =>
    let out := (a.perform settings).runFrom h.flow
    (out.1.map .upshot, { h with flow := out.2 })
  | .errand e =>
    let asked := (Step.client settings).runFrom h.flow
    let h := { h with flow := asked.2 }
    match asked.1 with
    | .error f => (.error f, h)
    | .ok c =>
      let out := e.perform (h.session c)
      (.ok (.notice out.1), h.withSession out.2)
  | .turn notes => (.ok .turned, { h with flow := { h.flow with notes } })

/-- What comes of some deeds, one after the other: what each gives, and the host that it leaves. -/
def run (settings : Settings) (h : Host) : List Deed → List (Except Fault Gain × Host)
  | [] => []
  | d :: ds =>
    let out := h.perform settings d
    out :: run settings out.2 ds

end Host

end SecondFactor.Flow
