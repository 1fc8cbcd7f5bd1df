import Gvpn.Data.Json
import Gvpn.Data.Utf8

/-! The frames of the udpgw protocol, written and read from a stream. -/

namespace Gvpn

def u16FromBe (high low : UInt8) : UInt16 := UInt16.ofNat (high.toNat * 256 + low.toNat)

def u16ToBe (n : UInt16) : Bytes := [UInt8.ofNat (n.toNat / 256), UInt8.ofNat (n.toNat % 256)]

namespace Udpgw

def flagKeepalive : UInt8 := 0x01

def flagData : UInt8 := 0x02

def flagErr : UInt8 := 0x20

def atypIpv4 : UInt8 := 0x01

def atypDomain : UInt8 := 0x03

def atypIpv6 : UInt8 := 0x04

abbrev Octets (count : Nat) := { bytes : Bytes // bytes.length = count }

inductive DstAddr where
  | v4 (ip : Octets 4) (port : UInt16)
  | v6 (ip : Octets 16) (port : UInt16)
  | domain (name : Text) (port : UInt16)
  deriving DecidableEq

structure Frame where
  flags : UInt8
  connId : UInt16
  addr : Option DstAddr
  payload : Bytes
  deriving DecidableEq

def DstAddr.writeTo : DstAddr → Bytes
  | .v4 ip port => atypIpv4 :: (ip.val ++ u16ToBe port)
  | .v6 ip port => atypIpv6 :: (ip.val ++ u16ToBe port)
  | .domain name port =>
    -- The length is cut to one byte.
    atypDomain :: UInt8.ofNat (toUtf8 name).length :: (toUtf8 name ++ u16ToBe port)

def DstAddr.serialisedLen : DstAddr → Nat
  | .v4 .. => 1 + 4 + 2
  | .v6 .. => 1 + 16 + 2
  | .domain name _ => 1 + 1 + (toUtf8 name).length + 2

def DstAddr.port : DstAddr → UInt16
  | .v4 _ port | .v6 _ port | .domain _ port => port

def takeHost (count : Nat) (bytes : Bytes) : Option (Octets count × UInt16 × Bytes) :=
  if enough : count + 2 ≤ bytes.length then
    some (⟨bytes.take count, by simp; omega⟩,
      u16FromBe (bytes.getD count 0) (bytes.getD (count + 1) 0), bytes.drop (count + 2))
  else none

def parseAddr : Bytes → Except Text (DstAddr × Bytes)
  | [] => .error (lit "missing ATYP")
  | atyp :: more =>
    if atyp = atypIpv4 then
      match takeHost 4 more with
      | some (ip, port, payload) => .ok (.v4 ip port, payload)
      | none => .error (lit "short IPv4 addr")
    else if atyp = atypIpv6 then
      match takeHost 16 more with
      | some (ip, port, payload) => .ok (.v6 ip port, payload)
      | none => .error (lit "short IPv6 addr")
    else if atyp = atypDomain then
      match more with
      | [] => .error (lit "short domain addr")
      | dlen :: more =>
        match takeHost dlen.toNat more with
        | some (name, port, payload) => .ok (.domain (fromUtf8Lossy name.val) port, payload)
        | none => .error (lit "short domain addr")
    else
      .error (lit "unknown ATYP 0x" ++
        [Json.hexChar (atyp.toNat / 16), Json.hexChar (atyp.toNat % 16)])

def parseBody : Bytes → Except Text Frame
  | flags :: idHigh :: idLow :: rest =>
    let connId := u16FromBe idHigh idLow
    if flags &&& flagData ≠ 0 then
      match parseAddr rest with
      | .ok (addr, payload) => .ok { flags, connId, addr := some addr, payload }
      | .error message => .error message
    else .ok { flags, connId, addr := none, payload := rest }
  | _ => .error (lit "frame too short")

def tryParseFrame : Bytes → Except Text (Option (Frame × Nat))
  | high :: low :: behind =>
    let bodyLen := (u16FromBe high low).toNat
    if behind.length < bodyLen then .ok none
    else
      match parseBody (behind.take bodyLen) with
      | .ok frame => .ok (some (frame, 2 + bodyLen))
      | .error message => .error message
  | _ => .ok none

def Frame.bodyLen (frame : Frame) : Nat :=
  1 + 2 + frame.addr.elim 0 DstAddr.serialisedLen + frame.payload.length

def serialiseFrame (frame : Frame) : Bytes :=
  -- The length is cut to two bytes.
  u16ToBe (UInt16.ofNat frame.bodyLen) ++ frame.flags :: (u16ToBe frame.connId ++
    frame.addr.elim [] DstAddr.writeTo ++ frame.payload)

def bodyLength (buf : Bytes) : Nat := (u16FromBe (buf.getD 0 0) (buf.getD 1 0)).toNat

def readLimit : Nat := 65536

def bufMax : Nat := 65536 * 4

def parseLoop : Nat → Bytes → List Frame × Bytes
  | 0, buf => ([], buf)
  | fuel + 1, buf =>
    match tryParseFrame buf with
    | .ok (some (frame, consumed)) =>
      let later := parseLoop fuel (buf.drop consumed)
      (frame :: later.1, later.2)
    | .ok none => ([], if bufMax ≤ buf.length then [] else buf)
    | .error _ =>
      -- A malformed frame is passed, and ends the loop.
      ([], if 2 ≤ buf.length then buf.drop (min (2 + bodyLength buf) buf.length) else [])

def onRead (buf read : Bytes) : List Frame × Bytes :=
  -- Every frame has a length, so bytes bound the rounds.
  parseLoop (buf ++ read).length (buf ++ read)

def readLoop (buf : Bytes) : List Bytes → List Frame × Bytes
  | [] => ([], buf)
  | read :: reads =>
    let now := onRead buf read
    let later := readLoop now.2 reads
    (now.1 ++ later.1, later.2)

end Udpgw

end Gvpn
