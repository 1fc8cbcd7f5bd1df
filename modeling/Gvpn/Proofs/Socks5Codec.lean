import Gvpn.Proofs.UdpgwFrame
import Gvpn.Proxy.Socks5

/-! The packets of a relay are read exactly as they are written. -/

namespace Gvpn

open List Option
open Udpgw (Octets takeHost takeHost_eq_some_iff)

inductive SocksUdpTarget.WellFormed (target : SocksUdpTarget) : Prop
  | v4 (type : target.atyp = socksIpv4) (size : target.addr.length = 4)
      (host : target.host = ipv4Text target.addr)
  | domain (type : target.atyp = socksDomain) (named : target.addr ≠ [])
      (size : target.addr.length ≤ 255) (host : fromUtf8 target.addr = some target.host)
  | v6 (type : target.atyp = socksIpv6) (size : target.addr.length = 16)
      (host : target.host = ipv6Text target.addr)

def SocksUdpTarget.header (target : SocksUdpTarget) : Bytes := buildSocks5UdpPacket target []

theorem buildSocks5UdpPacket_eq (target : SocksUdpTarget) (payload : Bytes) :
    buildSocks5UdpPacket target payload = target.header ++ payload := by
  simp [SocksUdpTarget.header, buildSocks5UdpPacket]

variable {target : SocksUdpTarget}

theorem header_append_of_ip (type : target.atyp ≠ socksDomain) (payload : Bytes) :
    target.header ++ payload =
      0 :: 0 :: 0 :: target.atyp :: (target.addr ++ (u16ToBe target.port ++ payload)) := by
  simp [SocksUdpTarget.header, buildSocks5UdpPacket, type]

theorem header_append_of_domain (type : target.atyp = socksDomain) (payload : Bytes) :
    target.header ++ payload = 0 :: 0 :: 0 :: target.atyp ::
      UInt8.ofNat target.addr.length :: (target.addr ++ (u16ToBe target.port ++ payload)) := by
  simp [SocksUdpTarget.header, buildSocks5UdpPacket, type]

theorem length_header_of_ip (type : target.atyp ≠ socksDomain) :
    target.header.length = 4 + target.addr.length + 2 := by
  have whole := congrArg List.length (header_append_of_ip type [])
  simp only [append_nil, length_cons, length_append, length_u16ToBe] at whole
  omega

theorem toNat_ofNat_of_le {size : Nat} (small : size ≤ 255) : (UInt8.ofNat size).toNat = size := by
  rw [UInt8.toNat_ofNat']
  omega

theorem takeHost_addr {count : Nat} (size : target.addr.length = count) (payload : Bytes) :
    takeHost count (target.addr ++ (u16ToBe target.port ++ payload)) =
      some (⟨target.addr, size⟩, target.port, payload) :=
  takeHost_eq_some_iff.mpr rfl

theorem SocksUdpTarget.WellFormed.parse (wellFormed : target.WellFormed) (payload : Bytes) :
    parseSocks5UdpPacketOffsets (target.header ++ payload) =
      some (target, target.header.length) := by
  cases wellFormed with
  | v4 type size host =>
    have other : target.atyp ≠ socksDomain := by rw [type]; decide
    rw [header_append_of_ip other, length_header_of_ip other, size]
    show parseSocks5UdpTarget _ _ = _
    rw [parseSocks5UdpTarget.eq_def, if_pos type, takeHost_addr size]
    simp only [map_some, ← host]
  | domain type named size host =>
    have notIpv4 : target.atyp ≠ socksIpv4 := by rw [type]; decide
    have whole := toNat_ofNat_of_le size
    have some_ : UInt8.ofNat target.addr.length ≠ 0 := by
      intro zero
      rw [zero] at whole
      exact named (List.length_eq_zero_iff.mp whole.symm)
    have length : target.header.length = 4 + 1 + target.addr.length + 2 := by
      have := congrArg List.length (header_append_of_domain type [])
      simp only [append_nil, length_cons, length_append, length_u16ToBe] at this
      omega
    rw [header_append_of_domain type, length]
    show parseSocks5UdpTarget _ _ = _
    rw [parseSocks5UdpTarget.eq_def, if_neg notIpv4, if_pos type]
    simp only [some_, if_false, takeHost_addr whole.symm, bind_some, host, map_some,
      whole]
  | v6 type size host =>
    have notIpv4 : target.atyp ≠ socksIpv4 := by rw [type]; decide
    have other : target.atyp ≠ socksDomain := by rw [type]; decide
    rw [header_append_of_ip other, length_header_of_ip other, size]
    show parseSocks5UdpTarget _ _ = _
    rw [parseSocks5UdpTarget.eq_def, if_neg notIpv4, if_neg other, if_pos type, takeHost_addr size]
    simp only [map_some, ← host]

variable {off : Nat}

theorem wellFormed_of_parseTarget {atyp : UInt8} {rest : Bytes}
    (parsed : parseSocks5UdpTarget atyp rest = some (target, off)) :
    target.WellFormed ∧ ∃ payload, 0 :: 0 :: 0 :: atyp :: rest = target.header ++ payload := by
  unfold parseSocks5UdpTarget at parsed
  split at parsed
  · rename_i type
    obtain ⟨⟨addr, port, payload⟩, taken, same⟩ := Option.map_eq_some_iff.mp parsed
    obtain ⟨rfl, -⟩ := Prod.mk.inj same
    have other : atyp ≠ socksDomain := by rw [type]; decide
    refine ⟨.v4 type addr.property rfl, payload, ?_⟩
    rw [header_append_of_ip other, takeHost_eq_some_iff.mp taken]
  · split at parsed
    · rename_i type
      split at parsed
      · contradiction
      · rename_i len more
        obtain ⟨positive, parsed⟩ := Option.ite_none_left_eq_some.mp parsed
        obtain ⟨⟨addr, port, payload⟩, taken, decoded⟩ := Option.bind_eq_some_iff.mp parsed
        obtain ⟨host, text, same⟩ := Option.map_eq_some_iff.mp decoded
        obtain ⟨rfl, -⟩ := Prod.mk.inj same
        have size : addr.val.length = len.toNat := addr.property
        have small := len.toNat_lt
        refine ⟨.domain type ?_ (by dsimp only; omega) text, payload, ?_⟩
        · intro nothing
          dsimp only at nothing
          rw [nothing, length_nil] at size
          exact positive (UInt8.toNat_inj.mp size.symm)
        · rw [header_append_of_domain type, takeHost_eq_some_iff.mp taken]
          simp only [size, UInt8.ofNat_toNat]
    · rename_i other
      obtain ⟨type, parsed⟩ := Option.ite_none_right_eq_some.mp parsed
      obtain ⟨⟨addr, port, payload⟩, taken, same⟩ := Option.map_eq_some_iff.mp parsed
      obtain ⟨rfl, -⟩ := Prod.mk.inj same
      refine ⟨.v6 type addr.property rfl, payload, ?_⟩
      rw [header_append_of_ip other, takeHost_eq_some_iff.mp taken]

theorem wellFormed_of_parse {buf : Bytes}
    (parsed : parseSocks5UdpPacketOffsets buf = some (target, off)) :
    target.WellFormed ∧ ∃ payload, buf = target.header ++ payload := by
  unfold parseSocks5UdpPacketOffsets at parsed
  split at parsed
  · obtain ⟨zeros, parsed⟩ := Option.ite_none_left_eq_some.mp parsed
    simp only [ne_eq, not_or, not_not] at zeros
    obtain ⟨rfl, rfl, rfl⟩ := zeros
    exact wellFormed_of_parseTarget parsed
  · contradiction

theorem parseSocks5UdpPacketOffsets_eq_some_iff {buf : Bytes} :
    parseSocks5UdpPacketOffsets buf = some (target, off) ↔
      target.WellFormed ∧ off = target.header.length ∧
        ∃ payload, buf = target.header ++ payload := by
  constructor
  · -- What is accepted starts with a header, and a header is read in only one way.
    intro parsed
    obtain ⟨wellFormed, payload, rfl⟩ := wellFormed_of_parse parsed
    rw [wellFormed.parse, some.injEq, Prod.mk.injEq] at parsed
    exact ⟨wellFormed, parsed.2.symm, payload, rfl⟩
  · rintro ⟨wellFormed, rfl, payload, rfl⟩
    exact wellFormed.parse payload

theorem SocksUdpTarget.WellFormed.parse_build (wellFormed : target.WellFormed) (payload : Bytes) :
    parseSocks5UdpPacket (buildSocks5UdpPacket target payload) = some (target, payload) := by
  rw [parseSocks5UdpPacket, buildSocks5UdpPacket_eq, wellFormed.parse]
  simp

/--
A packet gives back the target and the payload it was written for, and every accepted packet is the
one written for what is read from it.
-/
theorem socks5_udp_codec (target : SocksUdpTarget) (payload buf : Bytes) (off : Nat) :
    (target.WellFormed →
      parseSocks5UdpPacket (buildSocks5UdpPacket target payload) = some (target, payload)) ∧
    (parseSocks5UdpPacketOffsets buf = some (target, off) →
      target.WellFormed ∧ off ≤ buf.length ∧
        buildSocks5UdpPacket target (buf.drop off) = buf) := by
  constructor
  · intro wellFormed
    exact wellFormed.parse_build payload
  · intro parsed
    obtain ⟨wellFormed, rfl, payload, rfl⟩ := parseSocks5UdpPacketOffsets_eq_some_iff.mp parsed
    refine ⟨wellFormed, by simp, ?_⟩
    rw [buildSocks5UdpPacket_eq, drop_left]

theorem socks5_udp_codec_name_server :
    ∃ target : SocksUdpTarget, target.WellFormed ∧ target.port = 53 ∧
      parseSocks5UdpPacket [0, 0, 0, 1, 8, 8, 8, 8, 0, 53, 7] = some (target, [7]) ∧
      buildSocks5UdpPacket target [7] = [0, 0, 0, 1, 8, 8, 8, 8, 0, 53, 7] := by
  have parsed : parseSocks5UdpPacketOffsets [0, 0, 0, 1, 8, 8, 8, 8, 0, 53, 7] =
      some (⟨ipv4Text [8, 8, 8, 8], 53, 1, [8, 8, 8, 8]⟩, 10) := by rfl
  obtain ⟨reads, writes⟩ := socks5_udp_codec ⟨ipv4Text [8, 8, 8, 8], 53, 1, [8, 8, 8, 8]⟩ [7]
    [0, 0, 0, 1, 8, 8, 8, 8, 0, 53, 7] 10
  obtain ⟨wellFormed, -, written⟩ := writes parsed
  have built : buildSocks5UdpPacket ⟨ipv4Text [8, 8, 8, 8], 53, 1, [8, 8, 8, 8]⟩ [7] =
      [0, 0, 0, 1, 8, 8, 8, 8, 0, 53, 7] := written
  refine ⟨_, wellFormed, rfl, ?_, built⟩
  exact reads wellFormed

end Gvpn
