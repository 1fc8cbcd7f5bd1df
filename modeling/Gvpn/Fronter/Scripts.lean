import Gvpn.Fronter.Quota

/-! Choosing the scripts that requests are relayed through. -/

namespace Gvpn

structure ScriptPool where
  scriptIds : List Text
  -- The counter of all draws, which wraps around.
  scriptIdx : Nat
  -- Until when a script is not to be used.
  blacklist : Table Text Nat
  tracker : QuotaTracker
  -- There is a script, and no more than can be counted.
  manned : scriptIds ≠ []
  countable : scriptIds.length < 2 ^ 64
  counted : scriptIdx < 2 ^ 64

namespace ScriptPool

def idAt (pool : ScriptPool) (idx : Nat) : Text :=
  pool.scriptIds.get ⟨idx % pool.scriptIds.length,
    Nat.mod_lt idx (List.length_pos_of_ne_nil pool.manned)⟩

def advance (pool : ScriptPool) (draws : Nat) : ScriptPool :=
  { pool with
    scriptIdx := (pool.scriptIdx + draws) % 2 ^ 64
    counted := Nat.mod_lt _ (by simp) }

def prune (pool : ScriptPool) (now : Nat) : ScriptPool :=
  { pool with blacklist := Table.retain (fun until_ => decide (now < until_)) pool.blacklist }

def release (pool : ScriptPool) (scriptId : Text) : ScriptPool :=
  { pool with blacklist := AList.erase scriptId pool.blacklist }

def isOpen (pool : ScriptPool) (scriptId : Text) : Bool :=
  (AList.lookup scriptId pool.blacklist).isNone && !pool.tracker.isHardStopped scriptId

def drawOpen : Nat → ScriptPool → Option Text × ScriptPool
  | 0, pool => (none, pool)
  | rounds + 1, pool =>
    let scriptId := pool.idAt pool.scriptIdx
    let drawn := pool.advance 1
    if drawn.isOpen scriptId then (some scriptId, drawn) else drawOpen rounds drawn

def nextScriptId (now : Nat) (pool : ScriptPool) : Text × ScriptPool :=
  let pruned := pool.prune now
  match drawOpen pruned.scriptIds.length pruned with
  | (some scriptId, drawn) => (scriptId, drawn)
  | (none, drawn) =>
    -- A blacklisted one comes before a stopped one.
    match Table.minByKey (Table.retainKeys (fun scriptId => !drawn.tracker.isHardStopped scriptId)
      drawn.blacklist) with
    | some scriptId => (scriptId, drawn.release scriptId)
    | none =>
      match Table.minByKey drawn.blacklist with
      | some scriptId => (scriptId, drawn.release scriptId)
      | none => (drawn.scriptIds.head drawn.manned, drawn)

def pickOpen (want : Nat) : Nat → List Text → ScriptPool → List Text × ScriptPool
  | 0, picked, pool => (picked, pool)
  | rounds + 1, picked, pool =>
    if want ≤ picked.length then (picked, pool)
    else
      let scriptId := pool.idAt pool.scriptIdx
      let drawn := pool.advance 1
      if drawn.isOpen scriptId && !picked.contains scriptId then
        pickOpen want rounds (picked ++ [scriptId]) drawn
      else pickOpen want rounds picked drawn

def stringSize : Nat := 24

def nextScriptIds (now want : Nat) (pool : ScriptPool) : Option (List Text × ScriptPool) :=
  let pruned := pool.prune now
  -- Memory for all comes first, which panics beyond the size of any object.
  if 2 ^ 63 ≤ stringSize * want then none
  else
    let (picked, drawn) := pickOpen want pruned.scriptIds.length [] pruned
    if picked = [] then some ([drawn.scriptIds.head drawn.manned], drawn) else some (picked, drawn)

end ScriptPool

end Gvpn
