import Gvpn.Data.Runs
import Gvpn.Fronter.Quota

/-! The quotas over restarts: what is saved, and what a new run starts with. -/

namespace Gvpn

inductive QuotaEvent where
  -- The program ends, and a new run starts from the file.
  | load (scriptIds : List Text)
  | save
  | attempt (scriptId : Text) (bytesUp now : Nat)
  | success (scriptId : Text) (bytesDown : Nat)
  | failure (scriptId : Text) (isQuotaError : Bool)
  | exhaust (scriptId reason : Text)
  | roll (now : Nat)

structure QuotaStore where
  tracker : QuotaTracker
  saved : QuotaState

namespace QuotaStore

def opened (scriptIds : List Text) (dailyLimit safetyBuffer : Nat) (saved : Option QuotaState) :
    QuotaStore :=
  let tracker := QuotaTracker.load scriptIds dailyLimit safetyBuffer saved
  ⟨tracker, tracker.state⟩

def step (store : QuotaStore) : QuotaEvent → Option QuotaStore
  | .load scriptIds =>
    some (opened scriptIds store.tracker.dailyLimit store.tracker.safetyBuffer (some store.saved))
  | .save => some { store with saved := store.tracker.state }
  | .attempt scriptId bytesUp now =>
    some { store with tracker := store.tracker.recordAttempt scriptId bytesUp now }
  | .success scriptId bytesDown =>
    some { store with tracker := store.tracker.recordSuccess scriptId bytesDown }
  | .failure scriptId isQuotaError =>
    some { store with tracker := store.tracker.recordFailure scriptId isQuotaError }
  | .exhaust scriptId reason =>
    -- A stop for a reason is saved at once.
    let tracker := store.tracker.markExhausted scriptId reason
    some ⟨tracker, tracker.state⟩
  | .roll now => some { store with tracker := store.tracker.rollExpiredWindows now }

end QuotaStore

inductive SaveStage where
  -- To be counted, and by `record_attempt` also saved now and then.
  | counting (saves : Bool)
  | saving
  -- `save_if_needed` has found the counter above zero.
  | flushing
  -- It has saved; the counter is to be set back.
  | clearing
  | finished
  deriving DecidableEq

structure SharedQuota where
  tracker : QuotaTracker
  saved : QuotaState
  dirtyCount : Nat := 0
  tasks : List SaveStage := []

inductive SharedQuotaEvent where
  -- To save is here to save if needed.
  | begin (event : QuotaEvent)
  | advance (id : Nat)

namespace SharedQuota

def start (tracker : QuotaTracker) : SharedQuota := { tracker, saved := tracker.state }

def enter (state : SharedQuota) (tracker : QuotaTracker) (stage : SaveStage) : SharedQuota :=
  { state with tracker := tracker, tasks := state.tasks ++ [stage] }

def begin (state : SharedQuota) : QuotaEvent → Option SharedQuota
  | .load _ => none
  | .save => some (state.enter state.tracker (if 0 < state.dirtyCount then .flushing else .finished))
  | .attempt scriptId bytesUp now =>
    some (state.enter (state.tracker.recordAttempt scriptId bytesUp now) (.counting true))
  | .success scriptId bytesDown =>
    some (state.enter (state.tracker.recordSuccess scriptId bytesDown) (.counting false))
  | .failure scriptId isQuotaError =>
    some (state.enter (state.tracker.recordFailure scriptId isQuotaError) (.counting false))
  | .exhaust scriptId reason =>
    some (state.enter (state.tracker.markExhausted scriptId reason) .saving)
  | .roll now =>
    let rolled := state.tracker.state.buckets.entries.any fun entry =>
      entry.2.nextResetAt.any (decide <| · ≤ now)
    some (state.enter (state.tracker.rollExpiredWindows now)
      (if rolled then .counting false else .finished))

def step (state : SharedQuota) : SharedQuotaEvent → Option SharedQuota
  | .begin event => state.begin event
  | .advance id =>
    match state.tasks[id]? with
    | some (.counting saves) =>
      some { state with
        dirtyCount := state.dirtyCount + 1
        tasks := state.tasks.set id
          (if saves && state.dirtyCount % 50 == 0 then .saving else .finished) }
    | some .saving =>
      some { state with saved := state.tracker.state, tasks := state.tasks.set id .finished }
    | some .flushing =>
      some { state with saved := state.tracker.state, tasks := state.tasks.set id .clearing }
    | some .clearing => some { state with dirtyCount := 0, tasks := state.tasks.set id .finished }
    | some .finished | none => none

end SharedQuota

end Gvpn
