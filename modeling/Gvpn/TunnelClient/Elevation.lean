import Gvpn.TunnelClient.TunnelLoop

/-! The sessions of a client, and the permits for more depth they share. -/

namespace Gvpn

structure MuxSessions where
  elevatedSessions : Nat := 0
  loops : List TunnelLoop := []

inductive MuxEvent where
  | start (sid : Text) (pendingClientData : Option Bytes)
  -- One step of a loop uses the shared number at most once.
  | loop (id : Nat) (event : LoopEvent)

def TunnelLoop.live (loop : TunnelLoop) : Bool :=
  loop.stage ≠ .ended && loop.stage ≠ .returned

namespace MuxSessions

def step (maxElevated : Nat) (state : MuxSessions) : MuxEvent → Option MuxSessions
  | .start sid pendingClientData =>
    some { state with loops := state.loops ++ [TunnelLoop.start sid pendingClientData] }
  | .loop id event =>
    match state.loops[id]? with
    | none => none
    | some loop =>
      (loop.step maxElevated state.elevatedSessions event).map fun (after, permit) =>
        { elevatedSessions := permit.apply state.elevatedSessions
          loops := state.loops.set id after }

def Balanced (state : MuxSessions) : Prop :=
  state.elevatedSessions = state.loops.countP fun loop => loop.live && loop.isElevated

end MuxSessions

end Gvpn
