import Gvpn.Data.Broadcast
import Gvpn.Data.Runs
import Gvpn.Fronter.Cache
import Gvpn.Fronter.Forward

/-! Concurrent relay calls, with the cache and the channels over which they share fetches. -/

namespace Gvpn

def cacheKey (method url : Text) : Text := upper method ++ ':' :: url

def RelayRequest.key (config : RelayConfig) (request : RelayRequest) : Option Text :=
  if coalescible request then some (cacheKey request.method (relayUrl config request)) else none

inductive CallPhase where
  -- In front of the cache.
  | direct
  -- Behind the cache, in front of the map of fetches.
  | missed
  -- Subscribed at a place of another call's channel.
  | waiting (leader place : Nat)
  | fetching
  | fetched (bytes : Bytes)
  | answered (bytes : Bytes)
  -- Dropped by its client, or by a panic.
  | gone
  deriving DecidableEq

abbrev Origin := Nat → Payload → Weather

def Origin.weather (origin : Origin) (config : RelayConfig) (moment : Nat)
    (request : RelayRequest) : Weather :=
  origin moment (buildPayload config request).fetch

/-- The start of a call up to the cache, with the exit node; nothing shared is touched. -/
def opening (texts : LibraryTexts) (config : RelayConfig) (request : RelayRequest)
    (weather : Weather) : CallPhase :=
  if weather.hardStopped then .answered (errorResponse 503 quotaMessage)
  else if exitNodeMatches config.exitNode (relayUrl config request) then
    match (exitNodeRun texts weather.exitNode).result with
    | .ok bytes => .answered bytes
    | .error (.failed error) =>
      if error.isRetryable ∨ isMethodSafeForFanout request.method then .direct
      else .answered (errorResponse 502 (lit "Relay error: " ++ error.intoInner.message))
    | .error _ => .gone
  else .direct

def storeRelayed (cache : ResponseCache) (key : Option Text) (url : Text) (now : Nat) :
    Except Stop Bytes → ResponseCache
  | .ok bytes =>
    match key, parseTtl bytes url with
    | some key, some ttl => cache.put key bytes ttl now
    | _, _ => cache
  | .error _ => cache

structure CoalescedCall where
  request : RelayRequest
  moment : Nat
  phase : CallPhase
  -- The channel it made, if others may wait for it.
  channel : Option (Broadcast Bytes)
  -- The call that it has waited for.
  joined : Option Nat
  -- What its own fetch came to.
  obtained : Option Bytes

structure Coalescing where
  cache : ResponseCache
  -- The sender of each fetch, known by the call that made its channel.
  inflight : List (Text × Nat)
  calls : List CoalescedCall

inductive CoalescingEvent where
  | enter (request : RelayRequest) (moment : Nat)
  | lookup (call now : Nat)
  | join (call : Nat)
  | fetch (call now : Nat)
  | publish (call : Nat)
  | receive (call : Nat)
  | drop (call : Nat)

def droppedResponse : Bytes := errorResponse 502 (lit "coalesced request dropped")

namespace Coalescing

def start (maxBytes : Nat) : Coalescing := ⟨.new maxBytes, [], []⟩

def update (state : Coalescing) (id : Nat) (change : CoalescedCall → CoalescedCall) : Coalescing :=
  { state with calls := state.calls.modify id change }

def advance (state : Coalescing) (id : Nat) (phase : CallPhase) : Coalescing :=
  state.update id fun call => { call with phase := phase }

def channelOf (state : Coalescing) (leader : Nat) : Option (Broadcast Bytes) :=
  (state.calls[leader]?).bind CoalescedCall.channel

def broadcast (state : Coalescing) (key : Text) (bytes : Bytes) : Coalescing :=
  match state.inflight.lookup key with
  | some leader =>
    { state with inflight := state.inflight.filter fun fetch => fetch.1 ≠ key }.update leader
      fun call => { call with
        channel := call.channel.map fun made : Broadcast Bytes => (made.send bytes).close }
  | none => state

variable (texts : LibraryTexts) (config : RelayConfig) (origin : Origin)

def lookup (state : Coalescing) (id : Nat) (call : CoalescedCall) (now : Nat) : Coalescing :=
  match call.request.key config with
  | some key =>
    match state.cache.get key now with
    | (some hit, cache) => { state with cache := cache }.advance id (.answered hit)
    | (none, cache) => { state with cache := cache }.advance id .missed
  | none => state.advance id .missed

def join (state : Coalescing) (id : Nat) (call : CoalescedCall) : Option Coalescing :=
  match call.request.key config with
  | some key =>
    match state.inflight.lookup key with
    | some leader =>
      (state.channelOf leader).map fun channel =>
        state.update id fun call =>
          { call with phase := .waiting leader channel.subscribe, joined := some leader }
    | none =>
      some ({ state with inflight := (key, id) :: state.inflight }.update id fun call =>
        { call with phase := .fetching, channel := some (.new 1) })
  | none => some (state.advance id .fetching)

def fetch (state : Coalescing) (id : Nat) (call : CoalescedCall) (now : Nat) : Coalescing :=
  let weather := origin.weather config call.moment call.request
  let relayed := (doRelayWithRetry texts config call.request.method weather).result
  let cache := storeRelayed state.cache (call.request.key config) (relayUrl config call.request)
    now relayed
  match (relayUncoalesced texts config call.request.method weather).result with
  | .ok bytes =>
    { state with cache := cache }.update id fun call =>
      { call with phase := .fetched bytes, obtained := some bytes }
  | .error _ => { state with cache := cache }.advance id .gone

def publish (state : Coalescing) (id : Nat) (call : CoalescedCall) (bytes : Bytes) : Coalescing :=
  let published := match call.request.key config with
    | some key => state.broadcast key bytes
    | none => state
  published.advance id (.answered bytes)

def receive (state : Coalescing) (id leader place : Nat) : Option Coalescing :=
  (state.channelOf leader).bind fun channel =>
    match channel.receive place with
    | .message bytes => some (state.advance id (.answered bytes))
    | .lagged => some (state.advance id (.answered droppedResponse))
    | .closed => some (state.advance id (.answered droppedResponse))
    | .pending => none

def step (state : Coalescing) : CoalescingEvent → Option Coalescing
  | .enter request moment =>
    let phase := opening texts config request (origin.weather config moment request)
    some { state with
      calls := state.calls ++ [⟨request, moment, phase, none, none, none⟩] }
  | .lookup id now =>
    (state.calls[id]?).bind fun call =>
      match call.phase with
      | .direct => some (state.lookup config id call now)
      | _ => none
  | .join id =>
    (state.calls[id]?).bind fun call =>
      match call.phase with
      | .missed => state.join config id call
      | _ => none
  | .fetch id now =>
    (state.calls[id]?).bind fun call =>
      match call.phase with
      | .fetching => some (state.fetch texts config origin id call now)
      | _ => none
  | .publish id =>
    (state.calls[id]?).bind fun call =>
      match call.phase with
      | .fetched bytes => some (state.publish config id call bytes)
      | _ => none
  | .receive id =>
    (state.calls[id]?).bind fun call =>
      match call.phase with
      | .waiting leader place => state.receive id leader place
      | _ => none
  | .drop id =>
    (state.calls[id]?).bind fun call =>
      match call.phase with
      | .answered _ => none
      -- The sender of a dropped call stays in the map.
      | _ => some (state.advance id .gone)

end Coalescing

end Gvpn
