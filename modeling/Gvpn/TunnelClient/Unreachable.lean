import Gvpn.Data.History
import Gvpn.Data.Runs
import Gvpn.Data.Table
import Gvpn.Proxy.Connect

/-! Destinations the tunnel node could not reach, kept for a while. -/

namespace Gvpn

def unreachableCacheTtl : Nat := 30 * 1000000000

def unreachableCacheMax : Nat := 256

def isUnreachableErrorStr (text : Text) : Bool :=
  let found (pattern : Text) := (cut pattern (lower text)).isSome
  found (lit "network is unreachable") || found (lit "no route to host") ||
    found (lit "os error 101") || found (lit "os error 113")

abbrev UnreachableCache : Type := Table (Text × UInt16) Nat

def unreachableKey (host : Text) (port : UInt16) : Text × UInt16 := (normalizeCacheHost host, port)

namespace UnreachableCache

def isUnreachable (cache : UnreachableCache) (host : Text) (port : UInt16) (now : Nat) :
    Bool × UnreachableCache :=
  let key := unreachableKey host port
  match cache.lookup key with
  | some expiry => if now < expiry then (true, cache) else (false, cache.erase key)
  | none => (false, cache)

/-- Forget the destination with the least time to go, as often as the fuel. -/
def evictSoonest : Nat → UnreachableCache → UnreachableCache
  | 0, cache => cache
  | fuel + 1, cache =>
    if unreachableCacheMax ≤ cache.entries.length then
      match Table.minByKey cache with
      | some victim => evictSoonest fuel (cache.erase victim)
      | none => cache
    else cache

def makeRoom (cache : UnreachableCache) (now : Nat) : UnreachableCache :=
  if unreachableCacheMax ≤ cache.entries.length then
    let fresh := Table.retain (fun expiry => now < expiry) cache
    evictSoonest fresh.entries.length fresh
  else cache

/-- Remember a destination; the clock is read for the sweep and for the entry. -/
def recordUnreachableIfMatch (cache : UnreachableCache) (host : Text) (port : UInt16) (err : Text)
    (sweptAt now : Nat) : UnreachableCache :=
  if isUnreachableErrorStr err then
    (cache.makeRoom sweptAt).insert (unreachableKey host port) (now + unreachableCacheTtl)
  else cache

end UnreachableCache

inductive UnreachableCall where
  | record (host : Text) (port : UInt16) (err : Text) (sweptAt now : Nat)
  | query (host : Text) (port : UInt16) (now : Nat)

structure UnreachableHistory where
  cache : UnreachableCache := ∅
  history : List ((Text × UInt16) × Nat) := []
  -- No later call is made before this time.
  clock : Nat := 0

def UnreachableHistory.step (state : UnreachableHistory) :
    UnreachableCall → Option UnreachableHistory
  | .record host port err sweptAt now =>
    if state.clock ≤ sweptAt ∧ sweptAt ≤ now then
      some {
        cache := state.cache.recordUnreachableIfMatch host port err sweptAt now
        history :=
          if isUnreachableErrorStr err then state.history ++ [(unreachableKey host port, now)]
          else state.history
        clock := now + 1 }
    else none
  | .query host port now =>
    if state.clock ≤ now then
      some { state with cache := (state.cache.isUnreachable host port now).2, clock := now + 1 }
    else none

end Gvpn
