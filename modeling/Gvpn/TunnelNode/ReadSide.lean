import Gvpn.Data.Runs
import Gvpn.TunnelNode.Session

/-! The read side of one session: its reader, its drains, and the cleanup. -/

namespace Gvpn

def readBufCap : Nat := 32 * 1024 * 1024

def readChunkMax : Nat := 2 * 1024 * 1024

inductive ReaderStage where
  -- In front of the look at the length of the buffer.
  | checking
  -- The buffer was full; it is about to wait for a drain.
  | full
  -- Waiting for a drain, without a stored permit.
  | suspended
  | reading
  -- Bytes were read, and are about to be appended.
  | holding (chunk : Bytes)
  -- The stream is over, and the end is to be marked.
  | ending
  | ended
  -- Stopped from outside.
  | aborted
  deriving DecidableEq

inductive ReadOutcome where
  | data (chunk : Bytes)
  -- The end of the stream, or an error.
  | ended

inductive DrainKind where
  | now (maxBytes : Nat)
  | wait

inductive DrainStage where
  | started
  -- The end flag is loaded, and the lock is not yet taken.
  | loaded (rawEof : Bool)
  -- The buffer is taken, and its lock is still held.
  | holding (data : Bytes)
  -- The lock is released, and the reader to be notified.
  | taken (data : Bytes) (eof : Bool)
  | finished (data : Bytes) (eof : Bool)

structure DrainCall where
  kind : DrainKind
  stage : DrainStage

structure ReadSide where
  readBuf : Bytes := []
  eof : Bool := false
  reader : ReaderStage := .checking
  -- The permit of a notification nobody waited for.
  permit : Bool := false
  -- The drain that holds the lock over several steps.
  locked : Option Nat := none
  calls : List DrainCall := []
  -- The session is in the table.
  mapped : Bool := true
  -- Taken out of the table because a drain found the end.
  cleaned : Bool := false
  -- Told to stop, which the reader does when it next waits.
  stopping : Bool := false
  -- The drains, in the order of the buffer.
  order : List Nat := []
  -- Everything the reader has appended.
  appended : Bytes := []

inductive ReadEvent where
  -- The reader's next step, with what it reads.
  | reader (outcome : ReadOutcome)
  | call (kind : DrainKind)
  -- A drain takes its next step.
  | drain (id : Nat)
  -- A request removes the session if one of its drains found the end.
  | cleanup (ids : List Nat)
  -- The session is closed by its client, or given up.
  | close
  -- The reader stops as it was told.
  | abort

namespace ReadSide

def readerStep (state : ReadSide) (outcome : ReadOutcome) : Option ReadSide :=
  match state.reader with
  | .checking =>
    if state.locked.isSome then none
    else if state.readBuf.length < readBufCap then some { state with reader := .reading }
    else some { state with reader := .full }
  | .full =>
    -- A stored permit is used up at once.
    if state.permit then some { state with permit := false, reader := .checking }
    else some { state with reader := .suspended }
  | .suspended => none
  | .reading =>
    match outcome with
    | .data chunk =>
      if chunk = [] ∨ readChunkMax < chunk.length then none
      else some { state with reader := .holding chunk }
    | .ended => some { state with reader := .ending }
  | .holding chunk =>
    if state.locked.isSome then none
    else
      some { state with
        readBuf := state.readBuf ++ chunk
        appended := state.appended ++ chunk
        reader := .checking }
  | .ending => some { state with eof := true, reader := .ended }
  | .ended => none
  | .aborted => none

def advance (state : ReadSide) (id : Nat) (call : DrainCall) (stage : DrainStage) : ReadSide :=
  { state with calls := state.calls.set id { call with stage := stage } }

def notifyReader (state : ReadSide) : ReadSide :=
  if state.reader = .suspended then { state with reader := .checking }
  else { state with permit := true }

def takeNow (state : ReadSide) (id : Nat) (call : DrainCall) (rawEof : Bool) (maxBytes : Nat) :
    ReadSide :=
  let (data, eof, rest) := drainNow rawEof state.readBuf maxBytes
  { state.advance id call (.taken data eof) with readBuf := rest, order := state.order ++ [id] }

def takeAll (state : ReadSide) (id : Nat) (call : DrainCall) : ReadSide :=
  { state.advance id call (.holding state.readBuf) with
    readBuf := [], locked := some id, order := state.order ++ [id] }

/-- The next step of a drain; the loop of `wait_and_drain` can end at any time. -/
def drainStep (state : ReadSide) (id : Nat) (call : DrainCall) : Option ReadSide :=
  match call.kind, call.stage with
  | .now _, .started => some (state.advance id call (.loaded state.eof))
  | .now maxBytes, .loaded rawEof =>
    if state.locked.isSome then none else some (state.takeNow id call rawEof maxBytes)
  | .wait, .started => if state.locked.isSome then none else some (state.takeAll id call)
  | _, .holding data =>
    -- Only `wait_and_drain`, which loads the end flag under the lock.
    some { state.advance id call (.taken data state.eof) with locked := none }
  | _, .taken data eof => some (state.advance id call (.finished data eof)).notifyReader
  | _, _ => none

def result (state : ReadSide) (id : Nat) : Option Bool :=
  match state.calls[id]? with
  | some ⟨_, .finished _ eof⟩ => some eof
  | _ => none

def cleanup (state : ReadSide) (ids : List Nat) : Option ReadSide :=
  if ids.all fun id => (state.result id).isSome then
    let finalEof := ids.any fun id => state.result id = some true
    if finalEof && state.mapped then
      some { state with mapped := false, cleaned := true, stopping := true }
    else some state
  else none

def abort (state : ReadSide) : Option ReadSide :=
  if state.stopping ∧ state.reader ≠ .ended then some { state with reader := .aborted } else none

def step (state : ReadSide) : ReadEvent → Option ReadSide
  | .reader outcome => state.readerStep outcome
  | .call kind => some { state with calls := state.calls ++ [⟨kind, .started⟩] }
  | .drain id =>
    match state.calls[id]? with
    | some call => state.drainStep id call
    | none => none
  | .cleanup ids => state.cleanup ids
  | .close => some { state with mapped := false, stopping := true }
  | .abort => state.abort

end ReadSide

end Gvpn
