import Gvpn.TunnelNode.Session

/-! Runs of the node: batches, readers and drains on shared sessions. -/

namespace Gvpn

inductive NodeEvent where
  -- A batch handles its next entry.
  | op (op : BatchOp)
  -- A spawned task opens a session under a new name.
  | opened (sid : Text) (inner : SessionInner)
  -- A reader task appends what it read, or marks the end.
  | readerAppend (sid : Text) (chunk : Bytes)
  | readerEof (sid : Text)
  -- A batch drains a session.
  | drain (sid : Text) (maxBytes : Nat)
  -- A batch or the reaper drops a session.
  | dropped (sid : Text)

def NodeEvent.entry : NodeEvent → Option BatchOp
  | .op entry => some entry
  | _ => none

def AppState.modifySession (state : AppState) (sid : Text) (change : SessionInner → SessionInner) :
    AppState :=
  state.setSession sid ((state.sessions sid).map change)

section

variable (decodeError : Text → Text)

def nodeStep (state : AppState) : NodeEvent → AppState
  | .op op => (phase1 decodeError state op).2
  | .opened sid inner =>
    match state.sessions sid with
    | none => state.setSession sid (some inner)
    -- A name in use is never handed out again.
    | some _ => state
  | .readerAppend sid chunk => state.modifySession sid fun inner => inner.readerAppend chunk
  | .readerEof sid => state.modifySession sid fun inner => inner.readerEof
  | .drain sid maxBytes =>
    state.modifySession sid fun inner =>
      { inner with readBuf := (drainNow inner.eof inner.readBuf maxBytes).2.2 }
  | .dropped sid => state.setSession sid none

def nodeRun (state : AppState) (events : List NodeEvent) : AppState :=
  events.foldl (nodeStep decodeError) state

end

end Gvpn
