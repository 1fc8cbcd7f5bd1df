import Gvpn.Data.Runs
import Gvpn.TunnelNode.Udpgw

/-! The tasks of a udpgw session: server, socket readers, and writer. -/

namespace Gvpn

namespace Udpgw

def udpMtu : Nat := 10240

def channelCapacity : Nat := 256

inductive SocketAddr where
  | v4 (ip : Octets 4) (port : UInt16)
  | v6 (ip : Octets 16) (port : UInt16)
  deriving DecidableEq

def DstAddr.toSocketAddr (lookup : Option SocketAddr) : DstAddr → Option SocketAddr
  | .v4 ip port => some (.v4 ip port)
  | .v6 ip port => some (.v6 ip port)
  | .domain .. => lookup

structure Attempt where
  lookup : Option SocketAddr
  -- A new socket is bound and connected.
  binds : Bool
  connects : Bool
  -- The datagram is sent.
  sends : Bool

def serialiseErr (connId : UInt16) : Bytes :=
  serialiseFrame { flags := flagErr, connId, addr := none, payload := [] }

abbrev SocketKey := UInt16 × SocketAddr

/-- Find the socket of a destination, or open one if possible and return its key. -/
def getOrCreateSocket (connId : UInt16) (dst : SocketAddr) (sockets : List SocketKey)
    (attempt : Attempt) : Option (Option SocketKey) :=
  if (connId, dst) ∈ sockets then some none
  else if !attempt.binds then none
  else if !attempt.connects then none
  else some (some (connId, dst))

structure Handled where
  opened : Option (SocketKey × DstAddr) := none
  reply : Option Bytes := none

def handleFrame (frame : Frame) (attempt : Attempt) (sockets : List SocketKey) : Handled :=
  if frame.flags &&& flagKeepalive ≠ 0 then
    { reply := some (serialiseFrame
        { flags := flagKeepalive, connId := frame.connId, addr := none, payload := [] }) }
  else if frame.flags &&& flagData = 0 then {}
  else
    match frame.addr with
    | none => { reply := some (serialiseErr frame.connId) }
    | some dst =>
      -- QUIC and DNS are turned away.
      if dst.port = 443 ∨ dst.port = 53 then { reply := some (serialiseErr frame.connId) }
      else
        match dst.toSocketAddr attempt.lookup with
        | none => { reply := some (serialiseErr frame.connId) }
        | some dstAddr =>
          match getOrCreateSocket frame.connId dstAddr sockets attempt with
          | none => { reply := some (serialiseErr frame.connId) }
          | some opened =>
            { opened := opened.map fun key => (key, dst)
              reply := if attempt.sends then none else some (serialiseErr frame.connId) }

def datagramReply (connId : UInt16) (addr : DstAddr) (datagram : Bytes) : Bytes :=
  serialiseFrame
    { flags := flagData, connId, addr := some addr, payload := datagram.take udpMtu }

inductive ServerStage where
  | serving
  -- An answer waits for room in the channel.
  | sending (reply : Bytes)
  | ended
  deriving DecidableEq

inductive ReaderStage where
  | receiving
  -- An answer waits for room in the channel.
  | sending (reply : Bytes)
  | stopped
  deriving DecidableEq

structure SocketReader where
  connId : UInt16
  addr : DstAddr
  stage : ReaderStage := .receiving
  deriving DecidableEq

inductive WriterStage where
  | idle
  | writing (reply : Bytes)
  -- The receiving side of the channel is gone.
  | ended
  deriving DecidableEq

structure Gateway where
  server : ServerStage := .serving
  sockets : List SocketKey := []
  -- Every reader that was spawned, in order.
  readers : List SocketReader := []
  channel : List Bytes := []
  writer : WriterStage := .idle
  -- The client half of the stream is still there.
  clientOpen : Bool := true

inductive GatewayEvent where
  | frame (frame : Frame) (attempt : Attempt)
  | serverSends
  | clientCloses
  -- The server reads the end of its stream.
  | serverEnds
  | abort
  | datagram (id : Nat) (bytes : Bytes)
  | socketFails (id : Nat)
  | readerSends (id : Nat)
  | writerTakes
  | writerWrites
  -- The writer finds every sender gone.
  | writerEnds

inductive SendResult where
  | waits
  | queued (channel : List Bytes)
  | closed

namespace Gateway

def send (state : Gateway) (reply : Bytes) : SendResult :=
  if state.writer = .ended then .closed
  else if state.channel.length < channelCapacity then .queued (state.channel ++ [reply])
  else .waits

def setReader (state : Gateway) (id : Nat) (reader : SocketReader) (stage : ReaderStage) :
    Gateway :=
  { state with readers := state.readers.set id { reader with stage } }

def endServer (state : Gateway) : Gateway := { state with server := .ended, sockets := [] }

def answer (state : Gateway) (handled : Handled) : Gateway :=
  let server := handled.reply.elim .serving .sending
  match handled.opened with
  | none => { state with server }
  | some ((connId, dst), addr) =>
    { state with
      server
      sockets := state.sockets ++ [(connId, dst)]
      readers := state.readers ++ [{ connId, addr }] }

def step (state : Gateway) : GatewayEvent → Option Gateway
  | .frame frame attempt =>
    match state.server with
    | .serving => some (state.answer (handleFrame frame attempt state.sockets))
    | _ => none
  | .serverSends =>
    match state.server with
    | .sending reply =>
      match state.send reply with
      | .waits => none
      | .queued channel => some { state with server := .serving, channel }
      -- A failure to send is ignored.
      | .closed => some { state with server := .serving }
    | _ => none
  | .clientCloses => if state.clientOpen then some { state with clientOpen := false } else none
  | .serverEnds =>
    match state.server with
    | .serving => if state.clientOpen then none else some state.endServer
    | _ => none
  | .abort => if state.server = .ended then none else some state.endServer
  | .datagram id bytes =>
    match state.readers[id]? with
    | some reader =>
      match reader.stage with
      | .receiving =>
        some (state.setReader id reader (.sending (datagramReply reader.connId reader.addr bytes)))
      | _ => none
    | none => none
  | .socketFails id =>
    match state.readers[id]? with
    | some reader =>
      match reader.stage with
      | .receiving => some (state.setReader id reader .stopped)
      | _ => none
    | none => none
  | .readerSends id =>
    match state.readers[id]? with
    | some reader =>
      match reader.stage with
      | .sending reply =>
        match state.send reply with
        | .waits => none
        | .queued channel => some { state.setReader id reader .receiving with channel }
        | .closed => some (state.setReader id reader .stopped)
      | _ => none
    | none => none
  | .writerTakes =>
    match state.writer, state.channel with
    | .idle, reply :: channel => some { state with writer := .writing reply, channel }
    | _, _ => none
  | .writerWrites =>
    match state.writer with
    | .writing _ =>
      -- Writing to a client that is gone ends the writer.
      if state.clientOpen then some { state with writer := .idle }
      else some { state with writer := .ended, channel := [] }
    | _ => none
  | .writerEnds =>
    match state.writer, state.channel with
    | .idle, [] =>
      if state.server = .ended ∧ ∀ reader ∈ state.readers, reader.stage = .stopped then
        some { state with writer := .ended }
      else none
    | _, _ => none

end Gateway

end Udpgw

end Gvpn
