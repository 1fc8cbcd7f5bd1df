import Gvpn.Data.Runs
import Gvpn.TunnelNode.Batch

/-! The TCP sessions of the node as objects: who owns each, and gives it up. -/

namespace Gvpn

inductive TaskStatus where
  | running
  | ended
  | aborted
  deriving DecidableEq

def TaskStatus.abort : TaskStatus → TaskStatus
  | .running => .aborted
  | status => status

inductive SessionOwner where
  -- The request that opened it, to insert it or give it up.
  | opening (name : Option Text)
  | mapped (sid : Text)
  -- The cleanup task has taken it out of the map.
  | reaper
  -- Nobody: the object and its handles are gone.
  | dropped
  deriving DecidableEq

structure ManagedSession where
  owner : SessionOwner
  readerHandle : TaskStatus := .running
  -- Only UDP gateway sessions have a server task.
  udpgwHandle : Option TaskStatus := none
  deriving DecidableEq

namespace ManagedSession

def abortReader (session : ManagedSession) : ManagedSession :=
  { session with readerHandle := session.readerHandle.abort }

def abortAll (session : ManagedSession) : ManagedSession :=
  { session.abortReader with udpgwHandle := session.udpgwHandle.map TaskStatus.abort }

def drop (session : ManagedSession) : ManagedSession := { session with owner := .dropped }

end ManagedSession

structure NodeSessions where
  -- Every object that was made, in order.
  objects : List ManagedSession := []
  -- Names under which a single request failed to write, and will remove it.
  failing : List Text := []

inductive SessionEvent where
  -- A request opens a session; `connect_data` writes its first bytes.
  | connect (host : Option Text) (port : Option UInt16) (dial : Dial)
  | connectData (host : Option Text) (port : Option UInt16) (d : Option Text) (dial : Dial)
  -- The request inserts its session, or gives it up.
  | settle (id : Nat)
  -- A single `data` request writes, or fails to.
  | data (sid : Option Text) (d : Option Text) (writeFails : Bool)
  -- A single request removes it after a failed write.
  | removeFailed (sid : Text)
  -- A single request drained a session's end.
  | drainedEof (sid : Text)
  -- A batch has drained the end of sessions.
  | batchEof (sids : List Text)
  | close (sid : Option Text)
  -- The cleanup task takes out what is stale, and stops it.
  | reap (stale : List Text)
  | abortReaped
  | readerEnds (id : Nat)

def opens (host : Option Text) (port : Option UInt16) (dial : Dial) : Option Bool :=
  match validateHostPort host port with
  | .error _ => none
  | .ok (host, port) =>
    if isUdpgwDest host port then some true
    else if dial.connectError.isSome then none
    else some false

def nameAfterFirst (dial : Dial) (d : Option Text) : Option Text :=
  match decodePayload d with
  | .error _ => none
  | .ok [] => some dial.name
  | .ok _ => if dial.writeError.isSome then none else some dial.name

namespace NodeSessions

def onMapped (state : NodeSessions) (named : Text → Bool)
    (update : ManagedSession → ManagedSession) : NodeSessions :=
  { state with
    objects := state.objects.map fun session =>
      match session.owner with
      | .mapped sid => if named sid then update session else session
      | _ => session }

def create (state : NodeSessions) (udpgw : Bool) (name : Option Text) : NodeSessions :=
  { state with
    objects := state.objects ++
      [{ owner := .opening name, udpgwHandle := if udpgw then some .running else none }] }

def insert (state : NodeSessions) (id : Nat) (session : ManagedSession) (name : Text) :
    NodeSessions :=
  let state := state.onMapped (· = name) ManagedSession.drop
  { state with objects := state.objects.set id { session with owner := .mapped name } }

def isMapped (state : NodeSessions) (sid : Text) : Bool :=
  state.objects.any fun session => session.owner = .mapped sid

def failsToWrite (state : NodeSessions) (sid : Text) (d : Option Text) (writeFails : Bool) :
    Bool :=
  state.isMapped sid &&
    match decodePayload d with
    -- What cannot be decoded is passed over.
    | .error _ => false
    | .ok bytes => !bytes.isEmpty && writeFails

def step (state : NodeSessions) : SessionEvent → Option NodeSessions
  | .connect host port dial =>
    match opens host port dial with
    | none => some state
    | some udpgw => some (state.create udpgw (some dial.name))
  | .connectData host port d dial =>
    match opens host port dial with
    | none => some state
    | some udpgw => some (state.create udpgw (nameAfterFirst dial d))
  | .settle id =>
    match state.objects[id]? with
    | none => none
    | some session =>
      match session.owner with
      | .opening (some name) => some (state.insert id session name)
      | .opening none =>
        some { state with objects := state.objects.set id session.abortReader.drop }
      | _ => none
  | .data sid d writeFails =>
    match usableSid sid with
    | none => some state
    | some sid =>
      if state.failsToWrite sid d writeFails then
        some { state with failing := sid :: state.failing }
      else some state
  | .removeFailed sid =>
    if sid ∈ state.failing then
      -- The session is removed as it is.
      some { state.onMapped (· = sid) ManagedSession.drop with failing := state.failing.erase sid }
    else none
  | .drainedEof sid => some (state.onMapped (· = sid) fun session => session.abortReader.drop)
  | .batchEof sids => some (state.onMapped (· ∈ sids) fun session => session.abortAll.drop)
  | .close sid =>
    match usableSid sid with
    | none => some state
    | some sid => some (state.onMapped (· = sid) fun session => session.abortAll.drop)
  | .reap stale =>
    some (state.onMapped (· ∈ stale) fun session => { session with owner := .reaper })
  | .abortReaped =>
    some { state with
      objects := state.objects.map fun session =>
        if session.owner = .reaper then session.abortAll.drop else session }
  | .readerEnds id =>
    match state.objects[id]? with
    | none => none
    | some session =>
      if session.readerHandle = .running then
        some { state with objects := state.objects.set id { session with readerHandle := .ended } }
      else none

end NodeSessions

end Gvpn
