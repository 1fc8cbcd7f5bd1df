import Gvpn.Data.Base64

/-! The batch protocol between the tunnel client and the tunnel node. -/

namespace Gvpn

inductive OpKind where
  | connect
  | connectData
  | udpOpen
  | data
  | udpData
  | close
  | other (name : Text)
  deriving DecidableEq, Repr

structure BatchOp where
  op : OpKind
  sid : Option Text := none
  host : Option Text := none
  port : Option UInt16 := none
  -- The payload, Base64-encoded.
  d : Option Text := none
  seq : Option Nat := none
  wseq : Option Nat := none
  deriving DecidableEq, Repr

structure TunnelResponse where
  sid : Option Text := none
  d : Option Text := none
  -- Datagrams are encoded one by one.
  pkts : Option (List Text) := none
  eof : Option Bool := none
  e : Option Text := none
  code : Option Text := none
  seq : Option Nat := none
  deriving DecidableEq, Repr

def codeUnsupportedOp : Text := "UNSUPPORTED_OP".toList

namespace TunnelResponse

def error (message : Text) : TunnelResponse := { e := some message }

def unsupportedOp (name : Text) : TunnelResponse :=
  { e := some ("unknown op: ".toList ++ name), code := some codeUnsupportedOp }

end TunnelResponse

def tcpDrainResponse (sid : Text) (data : Bytes) (eof : Bool) (seq : Option Nat) :
    TunnelResponse :=
  { sid := some sid
    d := if data.isEmpty then none else some (Base64.encode data)
    eof := some eof
    seq := seq }

def udpDrainResponse (sid : Text) (packets : List Bytes) (eof : Bool) (seq : Option Nat) :
    TunnelResponse :=
  { sid := some sid
    pkts := if packets.isEmpty then none else some (packets.map Base64.encode)
    eof := some eof
    seq := seq }

def eofResponse (sid : Text) (seq : Option Nat) : TunnelResponse :=
  { sid := some sid, eof := some true, seq := seq }

def validateHostPort (host : Option Text) (port : Option UInt16) :
    Except TunnelResponse (Text × UInt16) :=
  match host with
  | some (first :: rest) =>
    match port with
    | some number =>
      if 0 < number then .ok (first :: rest, number)
      else .error (.error "missing or invalid port".toList)
    | none => .error (.error "missing or invalid port".toList)
  | _ => .error (.error "missing host".toList)

def usableSid : Option Text → Option Text
  | some (first :: rest) => some (first :: rest)
  | _ => none

end Gvpn
