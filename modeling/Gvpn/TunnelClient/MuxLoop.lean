import Gvpn.Data.Runs
import Gvpn.TunnelClient.Mux

/-! The loop of the multiplexer, which gathers messages for a while. -/

namespace Gvpn

structure CoalesceWindow (ρ : Type) where
  msgs : List (MuxMsg ρ)
  coalesceStep : Nat
  hardDeadline : Nat
  softDeadline : Nat

def CoalesceWindow.waitUntil {ρ : Type} (window : CoalesceWindow ρ) : Nat :=
  min window.softDeadline window.hardDeadline

def CoalesceWindow.push {ρ : Type} (window : CoalesceWindow ρ) (now : Nat) (msg : MuxMsg ρ) :
    CoalesceWindow ρ :=
  { window with msgs := window.msgs ++ [msg], softDeadline := now + window.coalesceStep }

inductive MuxStage (ρ : Type) where
  -- It waits for a first message.
  | idle
  -- It takes what is in the channel.
  | draining (window : CoalesceWindow ρ)
  -- The channel was empty; it waits for a message or the deadline.
  | awaiting (window : CoalesceWindow ρ)
  -- It has returned, with the messages it had gathered.
  | stopped (abandoned : List (MuxMsg ρ))

def MuxMsg.plainConnect {ρ : Type} : MuxMsg ρ → Option (Text × UInt16 × ρ)
  | .connect host port reply => some (host, port, reply)
  | _ => none

structure MuxLoop (ρ : Type) where
  queue : List (MuxMsg ρ) := []
  -- Every sender is gone.
  closed : Bool := false
  now : Nat := 0
  stage : MuxStage ρ := .idle
  fired : List (FiredBatch ρ) := []
  connects : List (Text × UInt16 × ρ) := []
  -- Every message that the channel has taken.
  accepted : List (MuxMsg ρ) := []

inductive MuxLoopEvent (ρ : Type) where
  | send (msg : MuxMsg ρ)
  | close
  | wait (time : Nat)
  -- The loop goes on, with these settings for a new window.
  | run (coalesceStep coalesceMax : Nat)

namespace MuxLoop

variable {ρ : Type}

def fire (mux : MuxLoop ρ) (msgs : List (MuxMsg ρ)) : MuxLoop ρ :=
  { mux with
    stage := .idle
    fired := mux.fired ++ muxWindow msgs
    connects := mux.connects ++ msgs.filterMap MuxMsg.plainConnect }

def run (mux : MuxLoop ρ) (coalesceStep coalesceMax : Nat) : Option (MuxLoop ρ) :=
  match mux.stage, mux.queue with
  | .idle, msg :: queue =>
    let window :=
      { msgs := [msg]
        coalesceStep
        hardDeadline := mux.now + coalesceMax
        softDeadline := mux.now + coalesceStep }
    some { mux with queue, stage := .draining window }
  | .idle, [] => if mux.closed then some { mux with stage := .stopped [] } else none
  | .draining window, msg :: queue =>
    some { mux with queue, stage := .draining (window.push mux.now msg) }
  | .draining window, [] =>
    if window.waitUntil ≤ mux.now then some (mux.fire window.msgs)
    else some { mux with stage := .awaiting window }
  | .awaiting window, msg :: queue =>
    some { mux with queue, stage := .draining (window.push mux.now msg) }
  | .awaiting window, [] =>
    -- The channel is looked at before the clock.
    if mux.closed then some { mux with stage := .stopped window.msgs }
    else if window.waitUntil ≤ mux.now then some (mux.fire window.msgs)
    else none
  | .stopped _, _ => none

def step (mux : MuxLoop ρ) : MuxLoopEvent ρ → Option (MuxLoop ρ)
  | .send msg =>
    if mux.closed then none
    else some { mux with queue := mux.queue ++ [msg], accepted := mux.accepted ++ [msg] }
  | .close => some { mux with closed := true }
  | .wait time => some { mux with now := mux.now + time }
  | .run coalesceStep coalesceMax => mux.run coalesceStep coalesceMax

end MuxLoop

end Gvpn
