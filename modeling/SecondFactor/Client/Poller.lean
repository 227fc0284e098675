import SecondFactor.Client.Operations

/-!
# Background pollers

Pollers run in the background of a client, which keeps them in a registry so that all of them can be
stopped.
-/
namespace SecondFactor.Client

/-!
## The loop of a poller

A poller waits, polls its transaction and, once it is confirmed, finishes it and delivers the
response. A request that fails does not end it; it ends when a wait is interrupted, when the first
response to a validation comes in, when something breaks that is not the server's fault, or at a
wait that is too long for the timer.
-/

/-- How a poller ended. -/
inductive PollEnd
  /-- A wait was interrupted. -/
  | stopped
  /-- The response came in when the poller was already told to stop. -/
  | dropped
  | delivered (r : Response)
  | broken (f : Fault)
  /-- The timer cannot wait for so many seconds. -/
  | refused (seconds : Int)

structure PollRun where
  /-- The seconds of each wait that was made, in order. -/
  waits : List Int
  ending : PollEnd

namespace PollRun

/-- The run with one more wait before it. -/
def after (wait : Int) (run : PollRun) : PollRun := { run with waits := wait :: run.waits }

/-- The response handed to the poller's owner, if any. -/
def delivered? (run : PollRun) : Option Response :=
  match run.ending with
  | .delivered r => some r
  | _ => none

/-- The fault that broke the poller, if one did. -/
def fault? (run : PollRun) : Option Fault :=
  match run.ending with
  | .broken f => some f
  | .refused _ => some .waitTooLong
  | _ => none

end PollRun

/-- One poll and, if the transaction is confirmed, the validation that finishes it. -/
def pollOnce (c : Client) (transactionId : Option String) (username : String) :
    Exchange (Option Response) := do
  if ← poll c transactionId then some <$> validate c username "" transactionId
  else return none

/-- Logs that a poll failed. -/
def pollFailed (c : Client) (transactionId : Option String) (f : Fault) :
    StateM Conversation Unit :=
  modify fun v => (v.log [.pollFailed transactionId f.message]).log
    ((Log.Event.trafficFailed (.failure f.category.name f.message)).gated c.logging)

/-- The run of a poller that has waited `done` times. `left` more waits end by themselves, as far as
the timer takes them, and the one after them is interrupted; `signalled` says whether a response
finds the poller told to stop. A wait of any length can be interrupted, since a poller that was told
to stop before does not start the timer. -/
def pollLoop (c : Client) (timer : Timer) (transactionId : Option String) (username : String)
    (signalled : Bool) : (left done : Nat) → StateM Conversation PollRun
  | 0, done => return ⟨[c.schedule.interval done], .stopped⟩
  | left + 1, done =>
    let wait := c.schedule.interval done
    if timer.takes wait then do
      match ← (pollOnce c transactionId username).run with
      | .ok none =>
        return (← pollLoop c timer transactionId username signalled left (done + 1)).after wait
      | .ok (some r) =>
        if signalled then return ⟨[wait], .dropped⟩
        else
          modify fun v => v.log [.pollerFinished transactionId (done + 1)]
          return ⟨[wait], .delivered r⟩
      | .error f =>
        if f.isServer then
          pollFailed c transactionId f
          return (← pollLoop c timer transactionId username signalled left (done + 1)).after wait
        else return ⟨[wait], .broken f⟩
    else return ⟨[], .refused wait⟩

/-!
## The registry

The client keeps a list of its pollers. To start one is a call of two steps: a new poller is put
into the list, from which those that are not running are removed, and then it is started. To stop
them all is a call of several: the list is taken over, every poller in it is told to stop, and each
is awaited. The owner of the client and the callbacks of the pollers make such calls, each one call
at a time; the steps of different callers interleave, and pollers end at any time. `step` says what
each step does and refuses those that cannot be taken.
-/

inductive Phase
  | created
  | running
  | finished
deriving DecidableEq, Repr

structure Poller where
  phase : Phase
  /-- Whether the poller was told to stop. -/
  signalled : Bool
deriving DecidableEq, Repr

/-- Who makes a call: the owner of the client, or the callback of a poller. -/
inductive Caller
  | owner
  | poller (id : Nat)
deriving DecidableEq, Repr

/-- A call under way. -/
inductive Call
  /-- A poller is in the list and has to be started. -/
  | starting (id : Nat)
  /-- The list was taken over; these pollers have to be told to stop, and these to be awaited. -/
  | stopping (toSignal toAwait : List Nat)
deriving DecidableEq, Repr

structure Registry where
  /-- Every poller that was ever made; its place is its number. -/
  pollers : List Poller
  /-- The numbers of the pollers in the client's list. -/
  listed : List Nat
  /-- The calls under way, at most one for each caller. -/
  calls : List (Caller × Call)
deriving DecidableEq, Repr

namespace Registry

def empty : Registry := ⟨[], [], []⟩

def isRunning (r : Registry) (id : Nat) : Bool := r.pollers[id]?.any (·.phase = .running)

/-- The number of running pollers in the list. -/
def active (r : Registry) : Nat := (r.listed.filter r.isRunning).length

def setPhase (r : Registry) (id : Nat) (phase : Phase) : Registry :=
  { r with pollers := r.pollers.modify id fun p => { p with phase } }

/-- Removes from the list what is not running and adds a new poller to it. -/
def register (r : Registry) : Registry :=
  { r with
    pollers := r.pollers ++ [⟨.created, false⟩]
    listed := r.listed.filter r.isRunning ++ [r.pollers.length] }

def start (r : Registry) (id : Nat) : Registry := r.setPhase id .running

def finish (r : Registry) (id : Nat) : Registry := r.setPhase id .finished

/-- Tells a poller to stop. -/
def signal (r : Registry) (id : Nat) : Registry :=
  { r with pollers := r.pollers.modify id fun p => { p with signalled := true } }

/-- The call that a caller has under way. -/
def callOf (r : Registry) (caller : Caller) : Option Call := r.calls.lookup caller

/-- Ends the call that a caller has under way. -/
def endCall (r : Registry) (caller : Caller) : Registry :=
  { r with calls := r.calls.filter fun c => c.1 != caller }

/-- Puts a call under way, in place of the caller's last one. -/
def setCall (r : Registry) (caller : Caller) (call : Call) : Registry :=
  { r with calls := (caller, call) :: (r.endCall caller).calls }

/-- Whether a caller can begin a call: it is not in one, and a poller has to be running. -/
def isFree (r : Registry) (caller : Caller) : Bool :=
  (r.callOf caller).isNone &&
    match caller with
    | .owner => true
    | .poller id => r.isRunning id

inductive Step
  /-- Begins to start a poller. -/
  | register (caller : Caller)
  | start (caller : Caller)
  /-- Begins to stop all pollers. -/
  | takeOver (caller : Caller)
  | signal (caller : Caller)
  /-- Awaits the next poller, once all are told to stop. -/
  | await (caller : Caller)
  /-- Returns from stopping all pollers. -/
  | return (caller : Caller)
  /-- Fails in stopping all pollers, because the next one to await was not started. -/
  | breakOff (caller : Caller)
  /-- A poller ends. -/
  | finish (id : Nat)
deriving DecidableEq, Repr

inductive Refusal
  /-- The step cannot be taken, or not yet. -/
  | notPossible
  /-- A poller is awaited that was not started. -/
  | notStarted
deriving DecidableEq, Repr

/-- Whether a caller may go on when it comes to await a poller; it never awaits itself. -/
def await (r : Registry) (caller : Caller) (id : Nat) : Except Refusal Unit :=
  if caller = .poller id then .ok ()
  else match r.pollers[id]?.map Poller.phase with
    | some .finished => .ok ()
    | some .created => .error .notStarted
    | _ => .error .notPossible

/-- What one step does. -/
def step (r : Registry) : Step → Except Refusal Registry
  | .register caller =>
    if r.isFree caller then .ok (r.register.setCall caller (.starting r.pollers.length))
    else .error .notPossible
  | .start caller =>
    match r.callOf caller with
    | some (.starting id) => .ok ((r.start id).endCall caller)
    | _ => .error .notPossible
  | .takeOver caller =>
    if r.isFree caller then
      .ok ({ r with listed := [] }.setCall caller (.stopping r.listed r.listed))
    else .error .notPossible
  | .signal caller =>
    match r.callOf caller with
    | some (.stopping (id :: rest) toAwait) =>
      .ok ((r.signal id).setCall caller (.stopping rest toAwait))
    | _ => .error .notPossible
  | .await caller =>
    match r.callOf caller with
    | some (.stopping [] (id :: rest)) => do
      r.await caller id
      return r.setCall caller (.stopping [] rest)
    | _ => .error .notPossible
  | .return caller =>
    match r.callOf caller with
    | some (.stopping [] []) => .ok (r.endCall caller)
    | _ => .error .notPossible
  | .breakOff caller =>
    match r.callOf caller with
    | some (.stopping [] (id :: _)) =>
      match r.await caller id with
      | .error .notStarted => .ok (r.endCall caller)
      | _ => .error .notPossible
    | _ => .error .notPossible
  | .finish id =>
    if r.isFree (.poller id) then .ok (r.finish id) else .error .notPossible

/-- The registry after a call to stop that nothing interleaves with. Every poller it took over ends,
apart from the one whose callback makes the call. -/
def stopAll (r : Registry) (caller : Caller) : Registry :=
  let signalled := r.listed.foldl signal { r with listed := [] }
  (r.listed.filter fun id => caller != .poller id).foldl finish signalled

end Registry

/-!
## A client at work

A client with its conversation and its pollers, used by one owner. A poller either waits for a stop
that comes from elsewhere, or it runs to its end while the owner waits for it.
-/

structure Session where
  client : Client
  conversation : Conversation
  registry : Registry
  /-- How many times the client closed its connection. -/
  closings : Nat

namespace Session

def ofReplies (client : Client) (replies : List Reply) : Session :=
  ⟨client, .ofReplies replies, .empty, 0⟩

/-- Runs an exchange. -/
def run {α : Type} (s : Session) (exchange : Exchange α) : Except Fault α × Session :=
  let (result, conversation) := exchange.runFrom s.conversation
  (result, { s with conversation })

/-- Logs an event. -/
def log (s : Session) (e : Log.Event) : Session :=
  { s with conversation := s.conversation.log [e] }

/-- Stops all pollers. -/
def stopAs (s : Session) (caller : Caller) : Session :=
  let count := s.registry.listed.length
  let s := { s with registry := s.registry.stopAll caller }
  if count = 0 then s else s.log (.pollersStopped count)

/-- Stops all pollers for the owner. -/
def stop (s : Session) : Session := s.stopAs .owner

/-- Stops all pollers and closes the connection, unless somebody else owns it. -/
def close (s : Session) : Session :=
  let s := s.stop
  if s.client.ownsSession then { s with closings := s.closings + 1 } else s

/-- Starts a poller, which has the last number. -/
def startPoller (s : Session) (transactionId : Option String) : Session :=
  let id := s.registry.pollers.length
  let s := { s with registry := s.registry.register }
  let s := s.log (.pollerStarted transactionId)
  { s with registry := s.registry.start id }

/-- Starts a poller and awaits its end. Every round takes at least one reply, so it ends when no
replies are left. With `callbackStops` the response's receiver stops all pollers. -/
def runPoller (s : Session) (timer : Timer) (transactionId : Option String) (username : String)
    (callbackStops : Bool) : Option Response × Session :=
  let id := s.registry.pollers.length
  let s := s.startPoller transactionId
  let (run, conversation) :=
    (pollLoop s.client timer transactionId username false
      (s.conversation.pending.length + 1) 0).run s.conversation
  let s := { s with conversation }
  let s := if run.delivered?.isSome && callbackStops then s.stopAs (.poller id) else s
  (run.delivered?, { s with registry := s.registry.finish id })

end Session

end SecondFactor.Client
