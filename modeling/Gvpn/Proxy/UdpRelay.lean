import Gvpn.Data.Runs
import Gvpn.Data.Table
import Gvpn.Proxy.Socks5
import Gvpn.TunnelClient.Loop

/-! The relay for datagrams: its dispatcher, its table and its tasks. -/

namespace Gvpn

def udpUplinkQueue : Nat := 64

def udpInitialPollDelay : Nat := 500

def udpMaxPollDelay : Nat := 30000

def maxUdpSessionsPerAssociate : Nat := 256

def maxUdpPayloadBytes : Nat := 9 * 1024

structure UdpRelaySession where
  sid : Text
  uplink : Nat
  deriving DecidableEq

structure UdpRelayState where
  sessions : Table SocksUdpTarget UdpRelaySession := ∅
  order : List SocksUdpTarget := []

namespace UdpRelayState

def getUplink (state : UdpRelayState) (target : SocksUdpTarget) : Option Nat :=
  (state.sessions.lookup target).map UdpRelaySession.uplink

def insert (state : UdpRelayState) (target : SocksUdpTarget) (session : UdpRelaySession) :
    UdpRelayState where
  sessions := state.sessions.insert target session
  order := state.order ++ [target]

def remove (state : UdpRelayState) (target : SocksUdpTarget) : UdpRelayState where
  sessions := state.sessions.erase target
  order := state.order.erase target

def evictOldest (cap : Nat) :
    List SocksUdpTarget → Table SocksUdpTarget UdpRelaySession → UdpRelayState
  | [], sessions => { sessions }
  | victim :: order, sessions =>
    if cap ≤ sessions.entries.length then evictOldest cap order (sessions.erase victim)
    else { sessions, order := victim :: order }

def evictUntilUnder (state : UdpRelayState) (cap : Nat) : UdpRelayState :=
  evictOldest cap state.order state.sessions

def liveSids (state : UdpRelayState) : List Text :=
  state.sessions.entries.map fun entry => entry.2.sid

end UdpRelayState

structure Datagram where
  peer : PeerAddr
  bytes : Bytes

inductive MuxCall where
  -- Only the target's host and port are sent.
  | udpOpen (target : SocksUdpTarget) (data : Bytes)
  -- The session's target is noted, not sent.
  | udpData (target : SocksUdpTarget) (sid : Text) (data : Bytes)
  | closeSession (sid : Text)
  deriving DecidableEq

abbrev MuxReply := Except Text TunnelResponse

inductive UdpTaskStage where
  -- It waits for a datagram of the client, or to poll.
  | selecting
  | calling
  -- It has closed its session; the table comes next.
  | removing
  | finished
  -- It was stopped with the relay.
  | cancelled
  deriving DecidableEq

structure UdpSessionTask where
  sid : Text
  target : SocksUdpTarget
  clientAddr : PeerAddr
  uplinkRx : List Bytes := []
  backoff : Nat := udpInitialPollDelay
  stage : UdpTaskStage := .selecting
  deriving DecidableEq

def UdpSessionTask.listens (task : UdpSessionTask) : Bool :=
  task.stage = .selecting || task.stage = .calling

def decodeUdpPackets (resp : TunnelResponse) : Option (List Bytes) :=
  match resp.pkts with
  | none => some []
  | some pkts => pkts.mapM Base64.decode

def sendUdpResponsePackets (clientAddr : PeerAddr) (target : SocksUdpTarget)
    (resp : TunnelResponse) : List Datagram :=
  match decodeUdpPackets resp with
  | none => []
  | some packets => packets.map fun packet => ⟨clientAddr, buildSocks5UdpPacket target packet⟩

inductive DispatchStage where
  | receiving
  -- It is about to look up the session of a target.
  | looking (peer : PeerAddr) (target : SocksUdpTarget) (payload : Bytes)
  -- There was none, and room is to be made.
  | evicting (peer : PeerAddr) (target : SocksUdpTarget) (payload : Bytes)
  | opening (peer : PeerAddr) (target : SocksUdpTarget)
  -- The task is spawned, and its session not yet in the table.
  | inserting (target : SocksUdpTarget) (session : UdpRelaySession)
  -- The loop is left.
  | ending
  -- The table is cleared, and its sessions are to be closed.
  | aborting (liveSids : List Text)
  -- The tasks are aborted.
  | closing (liveSids : List Text)
  | returned
  deriving DecidableEq

structure UdpRelay where
  clientPeerIp : IpAddr
  clientAddr : Option PeerAddr := none
  state : UdpRelayState := {}
  stage : DispatchStage := .receiving
  -- Every task that was spawned, in order.
  tasks : List UdpSessionTask := []
  calls : List MuxCall := []
  -- The payloads put into channels, with their targets.
  queued : List (SocksUdpTarget × Bytes) := []
  -- The sessions that answers have opened.
  opened : List Text := []
  toClient : List Datagram := []

inductive UdpTaskEvent where
  -- Its channel has a datagram, or is closed.
  | uplink
  -- It has waited for a while, in milliseconds.
  | slept (waited : Nat)
  | reply (reply : MuxReply)
  | cleanup
  | cancel

inductive RelayEvent where
  | recv (datagram : Datagram)
  | recvFails
  -- The client sends on the connection that asked for the relay, or ends it.
  | control (ends : Bool)
  | openReply (reply : MuxReply)
  -- The dispatcher does what is next.
  | dispatch
  | task (id : Nat) (event : UdpTaskEvent)

def acceptDatagram (ctx : SocksCtx) (clientPeerIp : IpAddr) (clientAddr : Option PeerAddr)
    (datagram : Datagram) : Option (SocksUdpTarget × Bytes) :=
  if datagram.peer.ip ≠ clientPeerIp then none
  else
    match parseSocks5UdpPacketOffsets datagram.bytes with
    | none => none
    | some (target, payloadOff) =>
      if ctx.blockQuic ∧ target.port = 443 then none
      else
        match clientAddr with
        | none => some (target, datagram.bytes.drop payloadOff)
        | some existing =>
          if existing ≠ datagram.peer then none
          else some (target, datagram.bytes.drop payloadOff)

namespace UdpRelay

def start (clientPeerIp : IpAddr) : UdpRelay := { clientPeerIp }

def onDatagram (ctx : SocksCtx) (relay : UdpRelay) (datagram : Datagram) : UdpRelay :=
  match acceptDatagram ctx relay.clientPeerIp relay.clientAddr datagram with
  | none => relay
  | some (target, payload) =>
    let locked := { relay with clientAddr := some datagram.peer }
    if maxUdpPayloadBytes < payload.length then locked
    else { locked with stage := .looking datagram.peer target payload }

def trySend (relay : UdpRelay) (uplink : Nat) (target : SocksUdpTarget) (payload : Bytes) :
    UdpRelay :=
  match relay.tasks[uplink]? with
  | none => relay
  | some task =>
    if task.listens ∧ task.uplinkRx.length < udpUplinkQueue then
      { relay with
        tasks := relay.tasks.set uplink { task with uplinkRx := task.uplinkRx ++ [payload] }
        queued := relay.queued ++ [(target, payload)] }
    else relay

def onOpenReply (relay : UdpRelay) (peer : PeerAddr) (target : SocksUdpTarget)
    (reply : MuxReply) : UdpRelay :=
  match reply with
  | .error _ => { relay with stage := .receiving }
  | .ok resp =>
    if resp.e.isSome then { relay with stage := .receiving }
    else
      match resp.sid with
      | none => { relay with stage := .receiving }
      | some sid =>
        let told :=
          { relay with toClient := relay.toClient ++ sendUdpResponsePackets peer target resp }
        -- The session is already gone.
        if resp.isEof then { told with stage := .receiving }
        else
          { told with
            opened := relay.opened ++ [sid]
            tasks := relay.tasks ++ [{ sid, target, clientAddr := peer }]
            stage := .inserting target { sid, uplink := relay.tasks.length } }

def dispatch (relay : UdpRelay) : Option UdpRelay :=
  match relay.stage with
  | .looking peer target payload =>
    match relay.state.getUplink target with
    | some uplink => some { relay.trySend uplink target payload with stage := .receiving }
    | none => some { relay with stage := .evicting peer target payload }
  | .evicting peer target payload =>
    some { relay with
      state := relay.state.evictUntilUnder maxUdpSessionsPerAssociate
      calls := relay.calls ++ [.udpOpen target payload]
      stage := .opening peer target }
  | .inserting target session =>
    some { relay with state := relay.state.insert target session, stage := .receiving }
  | .ending => some { relay with state := {}, stage := .aborting relay.state.liveSids }
  | .aborting liveSids => some { relay with stage := .closing liveSids }
  | .closing (sid :: liveSids) =>
    some { relay with calls := relay.calls ++ [.closeSession sid], stage := .closing liveSids }
  | .closing [] => some { relay with stage := .returned }
  | .receiving | .opening .. | .returned => none

def aborted (relay : UdpRelay) : Bool :=
  match relay.stage with
  | .closing _ | .returned => true
  | _ => false

def holdsUplink (relay : UdpRelay) (id : Nat) : Bool :=
  relay.state.sessions.entries.any (fun entry => entry.2.uplink = id) ||
    match relay.stage with
    | .inserting _ session => session.uplink = id
    | _ => false

def setTask (relay : UdpRelay) (id : Nat) (task : UdpSessionTask) : UdpRelay :=
  { relay with tasks := relay.tasks.set id task }

def udpData (relay : UdpRelay) (id : Nat) (task : UdpSessionTask) (data : Bytes) : UdpRelay :=
  { relay.setTask id { task with stage := .calling } with
    calls := relay.calls ++ [.udpData task.target task.sid data] }

def leaveTask (relay : UdpRelay) (id : Nat) (task : UdpSessionTask) : UdpRelay :=
  { relay.setTask id { task with stage := .removing } with
    calls := relay.calls ++ [.closeSession task.sid] }

def onTaskReply (relay : UdpRelay) (id : Nat) (task : UdpSessionTask) (reply : MuxReply) :
    UdpRelay :=
  match reply with
  | .error _ => relay.leaveTask id task
  | .ok resp =>
    if resp.e.isSome || resp.isEof then relay.leaveTask id task
    else if (resp.pkts.getD []).isEmpty then
      relay.setTask id
        { task with backoff := min (task.backoff * 2) udpMaxPollDelay, stage := .selecting }
    else
      { relay.setTask id { task with backoff := udpInitialPollDelay, stage := .selecting } with
        toClient := relay.toClient ++ sendUdpResponsePackets task.clientAddr task.target resp }

def stepTask (relay : UdpRelay) (id : Nat) (task : UdpSessionTask) :
    UdpTaskEvent → Option UdpRelay
  | .uplink =>
    if task.stage ≠ .selecting then none
    else
      match task.uplinkRx with
      | payload :: rest =>
        some (relay.udpData id { task with uplinkRx := rest, backoff := udpInitialPollDelay }
          payload)
      | [] => if relay.holdsUplink id then none else some (relay.leaveTask id task)
  | .slept waited =>
    -- The channel is looked at first.
    if task.stage = .selecting ∧ task.uplinkRx = [] ∧ relay.holdsUplink id ∧
        task.backoff ≤ waited then
      some (relay.udpData id task [])
    else none
  | .reply reply =>
    if task.stage = .calling then some (relay.onTaskReply id task reply) else none
  | .cleanup =>
    if task.stage = .removing then
      some { relay.setTask id { task with stage := .finished } with
        state := relay.state.remove task.target }
    else none
  | .cancel =>
    if relay.aborted ∧ task.stage ≠ .finished ∧ task.stage ≠ .cancelled then
      some (relay.setTask id { task with stage := .cancelled })
    else none

def step (ctx : SocksCtx) (relay : UdpRelay) : RelayEvent → Option UdpRelay
  | .recv datagram =>
    if relay.stage = .receiving then some (relay.onDatagram ctx datagram) else none
  | .recvFails => if relay.stage = .receiving then some { relay with stage := .ending } else none
  | .control ends =>
    if relay.stage = .receiving then
      some (if ends then { relay with stage := .ending } else relay)
    else none
  | .openReply reply =>
    match relay.stage with
    | .opening peer target => some (relay.onOpenReply peer target reply)
    | _ => none
  | .dispatch => relay.dispatch
  | .task id event => (relay.tasks[id]?).bind fun task => relay.stepTask id task event

end UdpRelay

structure Socks5Listener where
  relays : List UdpRelay := []

inductive Socks5Event where
  -- A client connects while some hosts are known to be out of reach.
  | connect (clientPeerIp : IpAddr) (isUnreachable : Text → UInt16 → Bool)
      (bound : Option PeerAddr) (bytes : Bytes)
  | relay (id : Nat) (event : RelayEvent)

def Socks5Listener.step (ctx : SocksCtx) (listener : Socks5Listener) :
    Socks5Event → Option Socks5Listener
  | .connect clientPeerIp isUnreachable bound bytes =>
    match handleSocks5Client ctx isUnreachable bound bytes with
    | .relaying _ => some { relays := listener.relays ++ [UdpRelay.start clientPeerIp] }
    | _ => some listener
  | .relay id event =>
    (listener.relays[id]?).bind fun relay =>
      (relay.step ctx event).map fun after => { relays := listener.relays.set id after }

end Gvpn
