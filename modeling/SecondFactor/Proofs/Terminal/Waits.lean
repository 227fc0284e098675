import SecondFactor.Proofs.Flow.Waiting
import SecondFactor.Proofs.Settings.Fields
import SecondFactor.Proofs.Terminal.Rounds

/-!
# The waits of a login

The pages of a login wait for one entry of the schedule after the other, as those of a browser do
and as a background poller does; a terminal that waits for the device sleeps for just that long
before it submits the page.
-/
namespace SecondFactor.Terminal

open SecondFactor.Flow (Visit GoesOn WaitsAt)

variable {o : Options} {s t : State} {rounds : List Round} {last : Except Fault Flow.Result}

/-- The page of every round waits for the entry that the number of the round leads to. -/
theorem Leads.waits (h : Leads o (opening o s).1 (opening o s).2 rounds last t) :
    ∀ k x, rounds[k]? = some x → x.page.pollingInterval = o.settings.schedule.interval k := by
  have hrounds := h.along
    (P := fun k page flow => WaitsAt o.settings.schedule k page flow.notes) 0 ?_ ?_
  · intro k x hk
    have hwaits := (hrounds k x hk).page
    rwa [Nat.zero_add] at hwaits
  · intro r page hr hpage
    obtain ⟨rfl, -⟩ := opening_shows hr hpage
    exact Visit.waitsAt_of_shows (v := o.beginning s) rfl hr
  · intro k x r page before hr hpage
    obtain ⟨fields, reason, hfields, -, -, hvisit⟩ := Round.rejected hr hpage
    rw [← Round.after_visit hfields]
    exact Visit.waitsAt_of_rejected (v := x.visit o fields) rfl hvisit before

/-- A terminal sleeps before the submissions that ask whether the device has confirmed, each time
for as long as the page says. -/
theorem Round.sleeps_answered {x : Round} {fields : Fields} (h : x.fields o = .ok fields) :
    (x.answered o).sleeps = x.found.sleeps ++ pauses x.page fields := by
  rw [(x.answers o).sleeps, h]
  rfl

/-- A login of alice whose device is asked to confirm; a page waits three seconds, later ones
four. -/
def watching : Options where
  settings :=
    { Settings.ofUrl "https://mfa.example" with
      triggerChallenge := true
      serviceAccountName := some "service"
      serviceAccountPassword := some "secret"
      schedule := ⟨3, [4]⟩ }
  user := ⟨"alice", []⟩
  secret := none
  machine := .plain (.int 0)

/-- The device has not confirmed, or the passcode is wrong. -/
def notYet : Reply :=
  .answer 200 (.ok (.object [("result", .object [("status", .bool true), ("value", .bool false)])]))

/-- The server lets the service account in and asks the device, which does not confirm. -/
def unconfirmed : List Reply :=
  [.answer 200 (.ok (.object [("result", .object
      [("status", .bool true), ("value", .object [("token", .text "token")])])])),
    .answer 200 (.ok (.object
      [("result", .object [("status", .bool true), ("value", .bool false)]),
        ("detail", .object [("transaction_id", .text "tx"), ("multi_challenge",
          .list [.object [("type", .text "push"), ("message", .text "Confirm")]])])])),
    notYet, notYet, notYet]

/-- Alice presses Enter three times and then gives up. -/
def waitingForDevice : State := .fresh (.start .empty unconfirmed) ["", "", "", "cancel"]

end SecondFactor.Terminal
