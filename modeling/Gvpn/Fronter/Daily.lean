import Gvpn.Data.Runs

/-! The counters of the day, which several threads roll over and count up. -/

namespace Gvpn

inductive DailyStage where
  -- The day is computed before the key is locked.
  | computed (today : Nat) (bytes : Option Nat)
  | countingCall (bytes : Nat)
  | countingBytes (bytes : Nat)
  | finished
  deriving DecidableEq

structure Daily where
  day : Nat
  todayKey : Nat
  todayCalls : Nat := 0
  todayBytes : Nat := 0
  calls : List DailyStage := []
  -- The days the counters were rolled over to.
  rollovers : List Nat := []
  -- Days on which `record_today` has looked whether to roll over.
  checked : List Nat := []

inductive DailyEvent where
  | midnight
  | enter (bytes : Option Nat)
  | advance (id : Nat)

namespace Daily

def start (day : Nat) : Daily := { day, todayKey := day }

def rollOver (state : Daily) (today : Nat) : Daily :=
  if state.todayKey ≠ today then
    { state with
      todayKey := today, todayCalls := 0, todayBytes := 0, rollovers := state.rollovers ++ [today] }
  else state

def step (state : Daily) : DailyEvent → Option Daily
  | .midnight => some { state with day := state.day + 1 }
  | .enter bytes => some { state with calls := state.calls ++ [.computed state.day bytes] }
  | .advance id =>
    match state.calls[id]? with
    | some (.computed today none) =>
      some { state.rollOver today with calls := state.calls.set id .finished }
    | some (.computed today (some bytes)) =>
      some { state.rollOver today with
        calls := state.calls.set id (.countingCall bytes)
        checked := state.checked ++ [state.day] }
    | some (.countingCall bytes) =>
      some { state with
        todayCalls := state.todayCalls + 1
        calls := state.calls.set id (.countingBytes bytes) }
    | some (.countingBytes bytes) =>
      some { state with
        todayBytes := state.todayBytes + bytes
        calls := state.calls.set id .finished }
    | some .finished | none => none

end Daily

end Gvpn
