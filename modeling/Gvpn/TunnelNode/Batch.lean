import Gvpn.TunnelNode.Session

/-! A whole batch: dispatch, join the spawned tasks, drain, and answer by position. -/

namespace Gvpn

def isUdpgwDest (host : Text) (port : UInt16) : Bool :=
  port = 7300 ∧ (host = "192.0.2.1".toList ∨ host = "198.18.0.1".toList)

structure Dial where
  name : Text
  connectError : Option Text := none
  writeError : Option Text := none

inductive Outcome where
  | answered (response : TunnelResponse)
  | tcpDrain (sid : Text) (seq : Option Nat)
  | udpDrain (sid : Text) (seq : Option Nat)

structure Entry where
  index : Nat
  -- Whether a spawned task brings the outcome.
  spawned : Bool
  outcome : Outcome

structure View where
  rawEof : Bool
  readBuf : Bytes

structure Views where
  first : View
  later : List View

def Views.all (views : Views) : List View := views.first :: views.later

structure BatchEnv where
  -- What other tasks do to the tables before each entry.
  interfere : Nat → AppState → AppState
  dial : Nat → Dial
  -- The order in which the spawned tasks come back.
  joinOrder : List Entry → List Entry
  joins : ∀ jobs, (joinOrder jobs).Perm jobs
  tcpViews : Nat → Views
  udpView : Nat → List Bytes × Bool

def handleConnect (dial : Dial) (host : Option Text) (port : Option UInt16) : TunnelResponse :=
  match validateHostPort host port with
  | .error response => response
  | .ok (host, port) =>
    match if isUdpgwDest host port then none else dial.connectError with
    | some reason => .error ("connect failed: ".toList ++ reason)
    | none => { sid := some dial.name, eof := some false }

section

-- The Base64 library's text for what it refuses.
variable (decodeError : Text → Text)

def sendFirst (dial : Dial) (failed : Text) (d : Option Text) : Except TunnelResponse Text :=
  match decodePayload d with
  | .error text => .error (.error ("bad base64: ".toList ++ decodeError text))
  | .ok [] => .ok dial.name
  | .ok _ =>
    match dial.writeError with
    | some reason => .error (.error (failed ++ reason))
    | none => .ok dial.name

def handleConnectDataPhase1 (dial : Dial) (host : Option Text) (port : Option UInt16)
    (d : Option Text) : Except TunnelResponse Text :=
  match validateHostPort host port with
  | .error response => .error response
  | .ok (host, port) =>
    match if isUdpgwDest host port then none else dial.connectError with
    | some reason => .error (.error ("connect failed: ".toList ++ reason))
    | none => sendFirst decodeError dial "write failed: ".toList d

def handleUdpOpenPhase1 (dial : Dial) (host : Option Text) (port : Option UInt16)
    (d : Option Text) : Except TunnelResponse Text :=
  match validateHostPort host port with
  | .error response => .error response
  | .ok _ =>
    match dial.connectError with
    | some reason => .error (.error ("udp connect failed: ".toList ++ reason))
    | none => sendFirst decodeError dial "udp write failed: ".toList d

def newConn (dial : Dial) (op : BatchOp) : Outcome :=
  match op.op with
  | .connectData =>
    match handleConnectDataPhase1 decodeError dial op.host op.port op.d with
    | .ok sid => .tcpDrain sid none
    | .error response => .answered response
  | .udpOpen =>
    match handleUdpOpenPhase1 decodeError dial op.host op.port op.d with
    | .ok sid => .udpDrain sid none
    | .error response => .answered response
  | _ => .answered (handleConnect dial op.host op.port)

def phase1Loop (env : BatchEnv) (i : Nat) (state : AppState) : List BatchOp → List Entry
  | [] => []
  | op :: rest =>
    let (decided, state) := phase1 decodeError (env.interfere i state) op
    let entry : Entry :=
      match decided with
      | .answered response => ⟨i, false, .answered response⟩
      | .tcpDrain sid _ => ⟨i, false, .tcpDrain sid op.seq⟩
      | .udpDrain sid _ => ⟨i, false, .udpDrain sid op.seq⟩
      | .spawned => ⟨i, true, newConn decodeError (env.dial i) op⟩
    entry :: phase1Loop env (i + 1) state rest

end

def joined (env : BatchEnv) (entries : List Entry) : List Entry :=
  entries.filter (fun entry => !entry.spawned) ++
    env.joinOrder (entries.filter fun entry => entry.spawned)

def Entry.result (entry : Entry) : Option (Nat × TunnelResponse) :=
  match entry.outcome with
  | .answered response => some (entry.index, response)
  | _ => none

def Entry.tcp (entry : Entry) : Option (Nat × Text × Option Nat) :=
  match entry.outcome with
  | .tcpDrain sid seq => some (entry.index, sid, seq)
  | _ => none

def Entry.udp (entry : Entry) : Option (Nat × Text × Option Nat) :=
  match entry.outcome with
  | .udpDrain sid seq => some (entry.index, sid, seq)
  | _ => none

/-- Drain a session until it is empty, at its end, its cap, the budget or the deadline. -/
def drainLoop (budget : Nat) (allData : Bytes) (finalEof : Bool) : List View → Bytes × Bool
  -- The deadline has passed.
  | [] => (allData, finalEof)
  | view :: later =>
    let (data, eof, _) := drainNow view.rawEof view.readBuf (budget - allData.length)
    let finalEof := finalEof || eof
    if data.isEmpty then (allData, finalEof)
    else
      let hitSessionCap := tcpDrainMaxBytes ≤ data.length
      let allData := allData ++ data
      if finalEof ∨ hitSessionCap ∨ budget ≤ allData.length then (allData, finalEof)
      else drainLoop budget allData finalEof later

def tcpDrainPass (views : Nat → Views) (budget : Nat) :
    List (Nat × Text × Option Nat) → List (Nat × TunnelResponse)
  | [] => []
  | (i, sid, seq) :: rest =>
    let (data, eof) := drainLoop budget [] false (views i).all
    let remaining := budget - data.length
    (i, tcpDrainResponse sid data eof seq) ::
      if remaining = 0 then [] else tcpDrainPass views remaining rest

def udpDrainPass (views : Nat → List Bytes × Bool) :
    List (Nat × Text × Option Nat) → List (Nat × TunnelResponse) :=
  List.map fun (i, sid, seq) => (i, udpDrainResponse sid (views i).1 (views i).2 seq)

def batchResults (env : BatchEnv) (entries : List Entry) : List (Nat × TunnelResponse) :=
  let known := joined env entries
  known.filterMap Entry.result ++
    tcpDrainPass env.tcpViews batchResponseBudget (known.filterMap Entry.tcp) ++
    udpDrainPass env.udpView (known.filterMap Entry.udp)

def handleBatch (decodeError : Text → Text) (env : BatchEnv) (state : AppState)
    (ops : List BatchOp) : List TunnelResponse :=
  ((batchResults env (phase1Loop decodeError env 0 state ops)).insertionSort
    fun left right => left.1 ≤ right.1).map Prod.snd

end Gvpn
