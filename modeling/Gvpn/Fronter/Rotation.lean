import Gvpn.Fronter.Scripts

/-! Scripts left out of the rotation after an error or timeouts. -/

namespace Gvpn

def blacklistCooldown : Nat := 600 * second

structure AutoBlacklist where
  strikes : Nat
  window : Nat
  cooldown : Nat
  -- No script is taken out without a strike.
  needed : 0 < strikes

def AutoBlacklist.ofConfig (strikes windowSecs cooldownSecs : Nat) : AutoBlacklist where
  strikes := max strikes 1
  window := min (max windowSecs 1) 3600 * second
  cooldown := min (max cooldownSecs 1) 86400 * second
  needed := by omega

namespace ScriptPool

def blacklistScriptFor (now : Nat) (scriptId : Text) (cooldown : Nat) (pool : ScriptPool) :
    ScriptPool :=
  { pool with blacklist := AList.insert scriptId (now + cooldown) pool.blacklist }

def blacklistScript (now : Nat) (scriptId : Text) (pool : ScriptPool) : ScriptPool :=
  pool.blacklistScriptFor now scriptId blacklistCooldown

end ScriptPool

structure Rotation where
  pool : ScriptPool
  -- When a script's window opened, and its strikes.
  scriptTimeouts : Table Text (Nat × Nat)

namespace Rotation

def strikeEntry (rules : AutoBlacklist) (now : Nat) (entry : Nat × Nat) : Nat × Nat :=
  if rules.window < now - entry.1 then (now, 1) else (entry.1, entry.2 + 1)

def struck (rules : AutoBlacklist) (now : Nat) (scriptId : Text) (rotation : Rotation) : Nat × Nat :=
  strikeEntry rules now ((AList.lookup scriptId rotation.scriptTimeouts).getD (now, 0))

def strikesOut (rules : AutoBlacklist) (now : Nat) (scriptId : Text) (rotation : Rotation) : Bool :=
  rules.strikes ≤ (rotation.struck rules now scriptId).2

def recordTimeoutStrike (rules : AutoBlacklist) (now : Nat) (scriptId : Text)
    (rotation : Rotation) : Rotation :=
  if rotation.strikesOut rules now scriptId then
    { pool := rotation.pool.blacklistScriptFor now scriptId rules.cooldown
      scriptTimeouts := AList.erase scriptId rotation.scriptTimeouts }
  else
    { rotation with
      scriptTimeouts :=
        AList.insert scriptId (rotation.struck rules now scriptId) rotation.scriptTimeouts }

def recordBatchSuccess (scriptId : Text) (rotation : Rotation) : Rotation :=
  { rotation with scriptTimeouts := AList.erase scriptId rotation.scriptTimeouts }

end Rotation

inductive RotationEvent where
  | blacklist (scriptId : Text)
  | strike (scriptId : Text)
  | success (scriptId : Text)
  | next
  | several (want : Nat)
  -- Quotas are kept elsewhere, and change any time.
  | quota (tracker : QuotaTracker)

def Rotation.step (rules : AutoBlacklist) (rotation : Rotation) :
    Nat × RotationEvent → Option Rotation
  | (now, .blacklist scriptId) =>
    some { rotation with pool := rotation.pool.blacklistScript now scriptId }
  | (now, .strike scriptId) => some (rotation.recordTimeoutStrike rules now scriptId)
  | (_, .success scriptId) => some (rotation.recordBatchSuccess scriptId)
  | (now, .next) => some { rotation with pool := (rotation.pool.nextScriptId now).2 }
  | (now, .several want) =>
    (rotation.pool.nextScriptIds now want).map fun result => { rotation with pool := result.2 }
  | (_, .quota tracker) => some { rotation with pool := { rotation.pool with tracker := tracker } }

end Gvpn
