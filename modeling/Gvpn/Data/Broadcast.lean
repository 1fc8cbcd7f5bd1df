import Gvpn.Data.Basic

/-! A channel whose messages go to all who have subscribed before. -/

namespace Gvpn

structure Broadcast (α : Type) where
  capacity : Nat
  sent : List α
  -- Whether somebody can still send.
  opened : Bool
  deriving DecidableEq

inductive Received (α : Type) where
  | message (content : α)
  | lagged
  -- Nothing is left, and nobody can send.
  | closed
  | pending
  deriving DecidableEq

namespace Broadcast

variable {α : Type}

def new (capacity : Nat) : Broadcast α := ⟨capacity, [], true⟩

def subscribe (channel : Broadcast α) : Nat := channel.sent.length

def send (channel : Broadcast α) (content : α) : Broadcast α :=
  { channel with sent := channel.sent ++ [content] }

def close (channel : Broadcast α) : Broadcast α := { channel with opened := false }

def receive (channel : Broadcast α) (place : Nat) : Received α :=
  match channel.sent[place]? with
  | some content =>
    if channel.sent.length - place ≤ channel.capacity then .message content else .lagged
  | none => if channel.opened then .pending else .closed

theorem receive_subscribe {channel : Broadcast α} (opened : channel.opened = true) :
    channel.receive channel.subscribe = .pending := by
  simp [receive, subscribe, opened]

theorem receive_send_close {channel : Broadcast α} (room : 0 < channel.capacity) (content : α) :
    (channel.send content).close.receive channel.subscribe = .message content := by
  have next : 1 ≤ channel.capacity := room
  simp [receive, subscribe, send, close, next]

end Broadcast

end Gvpn
