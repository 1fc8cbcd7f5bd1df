import Gvpn.Data.Basic
import Gvpn.Data.Runs

/-! The shared HTTP/2 connection: who opens it, and who gives it up. -/

namespace Gvpn

def h2ConnTtlSecs : Nat := 540

def h2OpenFailureBackoffSecs : Nat := 15

structure H2Cell where
  created : Nat
  generation : Nat
  dead : Bool

def H2Cell.usable (now : Nat) (cell : H2Cell) : Bool :=
  decide ((now - cell.created) / second < h2ConnTtlSecs) && !cell.dead

inductive H2Stage where
  | entered
  | looking
  | backingOff
  | contending
  -- From here on the task holds the lock for opening.
  | rechecking
  | opening
  | failing
  | clearing
  | tagging
  | tagged (generation : Nat)
  | storing (generation : Nat)
  -- The flag is set, and the connection to be given up.
  | disabling
  | finished (generation : Option Nat)

inductive OpenOutcome where
  | connected
  | alpnRefused
  | failed

structure H2State where
  now : Nat := 0
  cell : Option H2Cell := none
  openFailedAt : Option Nat := none
  openLock : Option Nat := none
  generation : Nat := 0
  disabled : Bool
  tasks : List H2Stage := []
  -- The generations stored in the cell, last first.
  stored : List Nat := []

inductive H2Event where
  | ensure
  | refuse
  | poison (generation : Nat)
  -- The driver of the connection in the cell ends.
  | driverEnds
  | pass (time : Nat)
  -- How opening ends; the flag may be set before the connection is stored.
  | advance (id : Nat) (outcome : OpenOutcome) (dead : Bool)
  -- Dropped where it waits, which releases its lock.
  | drop (id : Nat)

def H2Stage.holds : H2Stage → Bool
  | .rechecking | .opening | .failing | .clearing | .tagging | .tagged _ | .storing _ => true
  | _ => false

namespace H2State

def move (state : H2State) (id : Nat) (stage : H2Stage) : H2State :=
  { state with tasks := state.tasks.set id stage }

def leave (state : H2State) (id : Nat) (generation : Option Nat) : H2State :=
  { state.move id (.finished generation) with openLock := none }

def usableGeneration (state : H2State) : Option Nat :=
  (state.cell.filter (H2Cell.usable state.now)).map H2Cell.generation

def advance (state : H2State) (id : Nat) (outcome : OpenOutcome) (dead : Bool) :
    H2Stage → Option H2State
  | .entered => some (state.move id (if state.disabled then .finished none else .looking))
  | .looking =>
    match state.usableGeneration with
    | some generation => some (state.move id (.finished generation))
    | none => some (state.move id .backingOff)
  | .backingOff =>
    let recent := state.openFailedAt.any fun failedAt =>
      decide ((state.now - failedAt) / second < h2OpenFailureBackoffSecs)
    some (state.move id (if recent then .finished none else .contending))
  | .contending =>
    match state.openLock with
    | none => some { state.move id .rechecking with openLock := some id }
    | some _ => some (state.move id (.finished none))
  | .rechecking =>
    match state.usableGeneration with
    | some generation => some (state.leave id generation)
    | none => some (state.move id .opening)
  | .opening =>
    match outcome with
    | .connected => some (state.move id .tagging)
    | .alpnRefused => some { state.move id .clearing with disabled := true }
    | .failed => some (state.move id .failing)
  | .failing => some { state.move id .clearing with openFailedAt := some state.now }
  | .clearing => some { state.leave id none with cell := none }
  | .tagging =>
    some { state.move id (.tagged (state.generation + 1)) with generation := state.generation + 1 }
  | .tagged generation => some { state.move id (.storing generation) with openFailedAt := none }
  | .storing generation =>
    some { state.leave id (some generation) with
      cell := some ⟨state.now, generation, dead⟩
      stored := generation :: state.stored }
  | .disabling => some { state.move id (.finished none) with cell := none }
  | .finished _ => none

def step (state : H2State) : H2Event → Option H2State
  | .ensure => some { state with tasks := state.tasks ++ [.entered] }
  | .refuse => some { state with disabled := true, tasks := state.tasks ++ [.disabling] }
  | .poison generation =>
    some { state with cell := state.cell.filter fun cell => cell.generation ≠ generation }
  | .driverEnds => some { state with cell := state.cell.map fun cell => { cell with dead := true } }
  | .pass time => some { state with now := state.now + time }
  | .advance id outcome dead => (state.tasks[id]?).bind (state.advance id outcome dead)
  | .drop id =>
    match state.tasks[id]? with
    | some (.finished _) | none => none
    | some stage =>
      some (if stage.holds then state.leave id none else state.move id (.finished none))

end H2State

end Gvpn
