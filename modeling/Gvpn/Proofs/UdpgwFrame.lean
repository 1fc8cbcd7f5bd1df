import Gvpn.TunnelNode.Udpgw
import Mathlib.Data.List.GetD

/-! Frames of the udpgw protocol read back, but for some names. -/

namespace Gvpn

open List Option

@[simp] theorem toNat_u16FromBe (high low : UInt8) :
    (u16FromBe high low).toNat = high.toNat * 256 + low.toNat := by
  have highBound := high.toNat_lt
  have lowBound := low.toNat_lt
  rw [u16FromBe, UInt16.toNat_ofNat']
  omega

@[simp] theorem length_u16ToBe (n : UInt16) : (u16ToBe n).length = 2 := rfl

theorem u16FromBe_u16ToBe (n : UInt16) :
    u16FromBe (UInt8.ofNat (n.toNat / 256)) (UInt8.ofNat (n.toNat % 256)) = n := by
  have bound := n.toNat_lt
  apply UInt16.toNat_inj.mp
  rw [toNat_u16FromBe, UInt8.toNat_ofNat', UInt8.toNat_ofNat']
  omega

theorem u16ToBe_u16FromBe (high low : UInt8) : u16ToBe (u16FromBe high low) = [high, low] := by
  have highBound := high.toNat_lt
  have lowBound := low.toNat_lt
  rw [u16ToBe, toNat_u16FromBe]
  congr 1
  · apply UInt8.toNat_inj.mp
    rw [UInt8.toNat_ofNat']
    omega
  · congr 1
    apply UInt8.toNat_inj.mp
    rw [UInt8.toNat_ofNat']
    omega

theorem cons_cons_eq_u16ToBe_append (high low : UInt8) (behind : Bytes) :
    high :: low :: behind = u16ToBe (u16FromBe high low) ++ behind := by
  rw [u16ToBe_u16FromBe]
  rfl

theorem u16ToBe_append_inj {left right : UInt16} {leftRest rightRest : Bytes} :
    u16ToBe left ++ leftRest = u16ToBe right ++ rightRest ↔
      left = right ∧ leftRest = rightRest := by
  refine ⟨fun same => ?_, fun ⟨numbers, rests⟩ => by rw [numbers, rests]⟩
  obtain ⟨heads, rests⟩ := append_inj same rfl
  simp only [u16ToBe, cons.injEq, and_true] at heads
  refine ⟨?_, rests⟩
  rw [← u16FromBe_u16ToBe left, ← u16FromBe_u16ToBe right, heads.1, heads.2]

namespace Udpgw

theorem takeHost_eq_some_iff {count : Nat} {bytes payload : Bytes} {ip : Octets count}
    {port : UInt16} :
    takeHost count bytes = some (ip, port, payload) ↔
      bytes = ip.val ++ (u16ToBe port ++ payload) := by
  constructor
  · intro taken
    unfold takeHost at taken
    split at taken
    · obtain ⟨rfl, rfl, rfl⟩ := taken
      obtain ⟨high, low, more, behind⟩ :
          ∃ high low more, bytes.drop count = high :: low :: more := by
        match split : bytes.drop count with
        | [] | [_] =>
          have := congrArg List.length split
          simp only [length_drop, length_cons, length_nil] at this
          omega
        | high :: low :: more => exact ⟨high, low, more, rfl⟩
      have first : bytes.getD count 0 = high := by
        have := congrArg (·[0]?) behind
        simp only [getElem?_drop, Nat.add_zero, getElem?_cons_zero] at this
        rw [getD_eq_getElem?_getD, this, getD_some]
      have second : bytes.getD (count + 1) 0 = low := by
        have := congrArg (·[1]?) behind
        simp only [getElem?_drop, getElem?_cons_succ, getElem?_cons_zero] at this
        rw [getD_eq_getElem?_getD, this, getD_some]
      have rest : bytes.drop (count + 2) = more := by
        rw [← drop_drop, behind]
        rfl
      rw [first, second, rest, u16ToBe_u16FromBe]
      change bytes = bytes.take count ++ high :: low :: more
      rw [← behind, take_append_drop]
    · contradiction
  · rintro rfl
    have size := ip.property
    have enough : count + 2 ≤ (ip.val ++ (u16ToBe port ++ payload)).length := by
      simp only [length_append, length_u16ToBe]
      omega
    have first : (ip.val ++ (u16ToBe port ++ payload)).getD count 0 =
        UInt8.ofNat (port.toNat / 256) := by
      rw [getD_append_right _ _ _ _ (by omega), size, Nat.sub_self]
      rfl
    have second : (ip.val ++ (u16ToBe port ++ payload)).getD (count + 1) 0 =
        UInt8.ofNat (port.toNat % 256) := by
      rw [getD_append_right _ _ _ _ (by omega), size, Nat.add_sub_cancel_left]
      rfl
    have host : (ip.val ++ (u16ToBe port ++ payload)).take count = ip.val :=
      take_left' size
    have rest : (ip.val ++ (u16ToBe port ++ payload)).drop (count + 2) = payload := by
      rw [← drop_drop, drop_left' size]
      rfl
    rw [takeHost, dif_pos enough]
    simp only [host, first, second, rest, u16FromBe_u16ToBe]

inductive Spelled : DstAddr → Bytes → Prop
  | v4 (ip : Octets 4) (port : UInt16) : Spelled (.v4 ip port) (DstAddr.v4 ip port).writeTo
  | v6 (ip : Octets 16) (port : UInt16) : Spelled (.v6 ip port) (DstAddr.v6 ip port).writeTo
  | domain {dlen : UInt8} {raw : Bytes} (size : raw.length = dlen.toNat) (port : UInt16) :
      Spelled (.domain (fromUtf8Lossy raw) port) (atypDomain :: dlen :: (raw ++ u16ToBe port))

variable {addr : DstAddr}

theorem parseAddr_eq_ok_iff {bytes payload : Bytes} :
    parseAddr bytes = .ok (addr, payload) ↔
      ∃ head, Spelled addr head ∧ bytes = head ++ payload := by
  constructor
  · intro parsed
    unfold parseAddr at parsed
    split at parsed
    · contradiction
    · split at parsed
      · rename_i atyp more isV4
        split at parsed
        · rename_i ip port rest taken
          obtain ⟨rfl, rfl⟩ := parsed
          refine ⟨_, .v4 ip port, ?_⟩
          rw [isV4, takeHost_eq_some_iff.mp taken]
          simp [DstAddr.writeTo]
        · contradiction
      · split at parsed
        · rename_i atyp more _ isV6
          split at parsed
          · rename_i ip port rest taken
            obtain ⟨rfl, rfl⟩ := parsed
            refine ⟨_, .v6 ip port, ?_⟩
            rw [isV6, takeHost_eq_some_iff.mp taken]
            simp [DstAddr.writeTo]
          · contradiction
        · split at parsed
          · rename_i isDomain
            split at parsed
            · contradiction
            · split at parsed
              · rename_i name port rest taken
                obtain ⟨rfl, rfl⟩ := parsed
                refine ⟨_, .domain name.property port, ?_⟩
                rw [isDomain, takeHost_eq_some_iff.mp taken]
                simp
              · contradiction
          · contradiction
  · rintro ⟨head, spelled, rfl⟩
    cases spelled with
    | v4 ip port =>
      have taken : takeHost 4 (ip.val ++ (u16ToBe port ++ payload)) = some (ip, port, payload) :=
        takeHost_eq_some_iff.mpr rfl
      simp [DstAddr.writeTo, parseAddr, taken]
    | v6 ip port =>
      have taken : takeHost 16 (ip.val ++ (u16ToBe port ++ payload)) = some (ip, port, payload) :=
        takeHost_eq_some_iff.mpr rfl
      simp [DstAddr.writeTo, parseAddr, taken, atypIpv4, atypIpv6]
    | @domain dlen raw size port =>
      have taken : takeHost dlen.toNat (raw ++ (u16ToBe port ++ payload)) =
          some (⟨raw, size⟩, port, payload) := takeHost_eq_some_iff.mpr rfl
      simp [parseAddr, taken, atypIpv4, atypIpv6, atypDomain]

def AddrSpelled (frame : Frame) (head : Bytes) : Prop :=
  match frame.addr with
  | none => frame.flags &&& flagData = 0 ∧ head = []
  | some addr => frame.flags &&& flagData ≠ 0 ∧ Spelled addr head

variable {frame : Frame}

theorem parseBody_eq_ok_iff {body : Bytes} :
    parseBody body = .ok frame ↔ ∃ head, AddrSpelled frame head ∧
      body = frame.flags :: (u16ToBe frame.connId ++ (head ++ frame.payload)) := by
  constructor
  · intro parsed
    unfold parseBody at parsed
    split at parsed
    · split at parsed
      · rename_i carries
        split at parsed
        · rename_i addr payload read
          obtain rfl := Except.ok.inj parsed
          obtain ⟨head, spelled, rfl⟩ := parseAddr_eq_ok_iff.mp read
          refine ⟨head, ⟨carries, spelled⟩, ?_⟩
          rw [u16ToBe_u16FromBe]
          rfl
        · contradiction
      · rename_i bare
        obtain rfl := Except.ok.inj parsed
        refine ⟨[], ⟨not_not.mp bare, rfl⟩, ?_⟩
        rw [u16ToBe_u16FromBe]
        rfl
    · contradiction
  · rintro ⟨head, spelled, rfl⟩
    obtain ⟨flags, connId, addr, payload⟩ := frame
    cases addr with
    | none =>
      obtain ⟨bare, rfl⟩ := spelled
      simp [u16ToBe, parseBody, bare, u16FromBe_u16ToBe]
    | some addr =>
      obtain ⟨carries, spelled⟩ := spelled
      have read : parseAddr (head ++ payload) = .ok (addr, payload) :=
        parseAddr_eq_ok_iff.mpr ⟨head, spelled, rfl⟩
      simp [u16ToBe, parseBody, carries, read, u16FromBe_u16ToBe]

theorem tryParseFrame_append {n : UInt16} {body : Bytes} (rest : Bytes)
    (size : body.length = n.toNat) :
    tryParseFrame (u16ToBe n ++ (body ++ rest)) =
      (parseBody body).map fun frame => some (frame, 2 + n.toNat) := by
  have whole : ¬ (body ++ rest).length < n.toNat := by
    rw [length_append]
    omega
  have cut : (body ++ rest).take n.toNat = body := take_left' size
  simp only [u16ToBe, cons_append, nil_append, tryParseFrame, u16FromBe_u16ToBe, whole,
    if_false, cut]
  cases parseBody body <;> rfl

theorem tryParseFrame_short {n : UInt16} {part : Bytes} (short : part.length < n.toNat) :
    tryParseFrame (u16ToBe n ++ part) = .ok none := by
  simp only [u16ToBe, cons_append, nil_append, tryParseFrame, u16FromBe_u16ToBe, short,
    if_true]

theorem buffer_cases (buf : Bytes) :
    buf.length < 2 ∨ (∃ n part, buf = u16ToBe n ++ part ∧ part.length < n.toNat) ∨
      ∃ n body rest, buf = u16ToBe n ++ (body ++ rest) ∧ body.length = n.toNat := by
  match buf with
  | [] | [_] => exact .inl (by simp)
  | high :: low :: behind =>
    refine .inr ?_
    have header := cons_cons_eq_u16ToBe_append high low behind
    by_cases short : behind.length < (u16FromBe high low).toNat
    · exact .inl ⟨_, behind, header, short⟩
    · refine .inr ⟨u16FromBe high low, behind.take (u16FromBe high low).toNat,
        behind.drop (u16FromBe high low).toNat, ?_, ?_⟩
      · rw [take_append_drop]
        exact header
      · rw [length_take]
        omega

variable {buf : Bytes}

theorem tryParseFrame_tiny (tiny : buf.length < 2) :
    tryParseFrame buf = .ok none := by
  match buf with
  | [] | [_] => rfl
  | _ :: _ :: behind => simp at tiny

variable {consumed : Nat}

theorem tryParseFrame_eq_some_iff :
    tryParseFrame buf = .ok (some (frame, consumed)) ↔
      ∃ n body rest, buf = u16ToBe n ++ (body ++ rest) ∧ body.length = n.toNat ∧
        parseBody body = .ok frame ∧ consumed = 2 + n.toNat := by
  constructor
  · intro parsed
    rcases buffer_cases buf with tiny | ⟨n, part, rfl, short⟩ | ⟨n, body, rest, rfl, size⟩
    · simp [tryParseFrame_tiny tiny] at parsed
    · simp [tryParseFrame_short short] at parsed
    · rw [tryParseFrame_append rest size] at parsed
      cases read : parseBody body with
      | error message => simp [read, Except.map] at parsed
      | ok found =>
        simp only [read, Except.map, Except.ok.injEq, some.injEq, Prod.mk.injEq] at parsed
        obtain ⟨rfl, rfl⟩ := parsed
        exact ⟨n, body, rest, rfl, size, read, rfl⟩
  · rintro ⟨n, body, rest, rfl, size, read, rfl⟩
    rw [tryParseFrame_append rest size, read]
    rfl

def DstAddr.NameFits : DstAddr → Prop
  | .domain name _ => (toUtf8 name).length ≤ 255
  | _ => True

@[simp] theorem DstAddr.length_writeTo (addr : DstAddr) :
    addr.writeTo.length = addr.serialisedLen := by
  cases addr with
  | v4 ip port =>
    simp only [writeTo, serialisedLen, length_cons, length_append, length_u16ToBe,
      ip.property]
  | v6 ip port =>
    simp only [writeTo, serialisedLen, length_cons, length_append, length_u16ToBe,
      ip.property]
  | domain name port =>
    simp only [writeTo, serialisedLen, length_cons, length_append, length_u16ToBe]
    omega

theorem DstAddr.spelled_writeTo (fits : addr.NameFits) :
    Spelled addr addr.writeTo := by
  cases addr with
  | v4 ip port => exact .v4 ip port
  | v6 ip port => exact .v6 ip port
  | domain name port =>
    have small : (toUtf8 name).length ≤ 255 := fits
    have size : (toUtf8 name).length = (UInt8.ofNat (toUtf8 name).length).toNat := by
      rw [UInt8.toNat_ofNat']
      omega
    have spelled := Spelled.domain size port
    rwa [fromUtf8Lossy_toUtf8] at spelled

theorem DstAddr.eq_writeTo_of_spelled {head more behind : Bytes}
    (spelled : Spelled addr head) (starts : head ++ more = addr.writeTo ++ behind) :
    head = addr.writeTo ∧ addr.NameFits := by
  cases spelled with
  | v4 ip port => exact ⟨rfl, trivial⟩
  | v6 ip port => exact ⟨rfl, trivial⟩
  | @domain dlen raw size port =>
    simp only [writeTo, cons_append, cons.injEq, true_and, append_assoc] at starts
    obtain ⟨rfl, bytes⟩ := starts
    rw [UInt8.toNat_ofNat'] at size
    have within : raw = (toUtf8 (fromUtf8Lossy raw)).take raw.length := by
      have := congrArg (List.take raw.length) bytes
      rwa [take_left, take_append_of_le_length (by omega)] at this
    by_cases small : (toUtf8 (fromUtf8Lossy raw)).length ≤ 255
    · have same : raw = toUtf8 (fromUtf8Lossy raw) := by
        rw [take_of_length_le (by omega)] at within
        exact within
      refine ⟨?_, small⟩
      rw [writeTo, ← same]
    · have missing : raw.length + 16 < (toUtf8 (fromUtf8Lossy raw)).length := by omega
      have lost := fromUtf8Lossy_take_ne missing
      rw [← within] at lost
      exact absurd rfl lost

structure Frame.Regular (frame : Frame) : Prop where
  body : frame.bodyLen ≤ 65535
  flagged : frame.addr.isSome ↔ frame.flags &&& flagData ≠ 0
  name : ∀ addr ∈ frame.addr, addr.NameFits

def Frame.body (frame : Frame) : Bytes :=
  frame.flags :: (u16ToBe frame.connId ++ (frame.addr.elim [] DstAddr.writeTo ++ frame.payload))

theorem serialiseFrame_eq (frame : Frame) :
    serialiseFrame frame = u16ToBe (UInt16.ofNat frame.bodyLen) ++ frame.body := by
  simp [serialiseFrame, Frame.body]

@[simp] theorem Frame.length_body (frame : Frame) : frame.body.length = frame.bodyLen := by
  obtain ⟨flags, connId, addr, payload⟩ := frame
  cases addr with
  | none =>
    simp only [body, bodyLen, elim_none, length_cons, length_append,
      length_u16ToBe, length_nil]
    omega
  | some addr =>
    simp only [body, bodyLen, elim_some, length_cons, length_append,
      length_u16ToBe, DstAddr.length_writeTo]
    omega

theorem Frame.Regular.toNat_bodyLen (regular : frame.Regular) :
    (UInt16.ofNat frame.bodyLen).toNat = frame.bodyLen := by
  have bound := regular.body
  rw [UInt16.toNat_ofNat']
  omega

theorem Frame.Regular.parseBody_body (regular : frame.Regular) :
    parseBody frame.body = .ok frame := by
  refine parseBody_eq_ok_iff.mpr ⟨frame.addr.elim [] DstAddr.writeTo, ?_, rfl⟩
  obtain ⟨-, flagged, name⟩ := regular
  unfold AddrSpelled
  cases held : frame.addr with
  | none =>
    simp only [held, isSome_none, Bool.false_eq_true, false_iff, not_not] at flagged
    exact ⟨flagged, rfl⟩
  | some addr =>
    simp only [held, isSome_some, true_iff] at flagged
    exact ⟨flagged, DstAddr.spelled_writeTo (name addr held)⟩

theorem Frame.regular_of_parses
    (parsed : tryParseFrame (serialiseFrame frame) = .ok (some (frame, consumed))) :
    frame.Regular := by
  rw [serialiseFrame_eq] at parsed
  obtain ⟨n, body, rest, same, size, read, -⟩ := tryParseFrame_eq_some_iff.mp parsed
  obtain ⟨rfl, split⟩ := u16ToBe_append_inj.mp same
  obtain ⟨head, spelled, rfl⟩ := parseBody_eq_ok_iff.mp read
  simp only [Frame.body, cons_append, cons.injEq, true_and, append_assoc] at split
  replace split := append_cancel_left split
  have whole : frame.body.length % 65536 = (frame.flags :: (u16ToBe frame.connId ++
      (head ++ frame.payload))).length := by
    rw [size, UInt16.toNat_ofNat', Frame.length_body]
  simp only [Frame.body, length_cons, length_append, length_u16ToBe] at whole
  unfold AddrSpelled at spelled
  cases held : frame.addr with
  | none =>
    simp only [held] at spelled
    refine ⟨?_, by simp [held, spelled.1], by simp [held]⟩
    have := Frame.length_body frame
    simp only [Frame.body, held, spelled.2, elim_none, length_cons,
      length_append, length_u16ToBe, length_nil] at whole this
    omega
  | some addr =>
    simp only [held] at spelled
    rw [held, elim_some] at split
    obtain ⟨same, fits⟩ := DstAddr.eq_writeTo_of_spelled spelled.2 split.symm
    refine ⟨?_, by simp [held, spelled.1], by simpa [held] using fits⟩
    have := Frame.length_body frame
    simp only [Frame.body, held, same, elim_some, length_cons,
      length_append, length_u16ToBe] at whole this
    omega

theorem Frame.Regular.tryParseFrame_serialise (regular : frame.Regular) (rest : Bytes) :
    tryParseFrame (serialiseFrame frame ++ rest) =
      .ok (some (frame, (serialiseFrame frame).length)) := by
  have size : frame.body.length = (UInt16.ofNat frame.bodyLen).toNat := by
    rw [regular.toNat_bodyLen, Frame.length_body]
  rw [serialiseFrame_eq, append_assoc, tryParseFrame_append rest size,
    regular.parseBody_body, length_append, length_u16ToBe, size]
  rfl

theorem Frame.Regular.tryParseFrame_part (regular : frame.Regular) {part : Bytes}
    (starts : part <+: serialiseFrame frame) (proper : part ≠ serialiseFrame frame) :
    tryParseFrame part = .ok none := by
  obtain ⟨rest, joined⟩ := starts
  have shorter : part.length < 2 + frame.bodyLen := by
    have lengths := congrArg List.length joined
    rw [serialiseFrame_eq, length_append, length_append, length_u16ToBe,
      Frame.length_body] at lengths
    have missing : rest ≠ [] := by
      rintro rfl
      exact proper (by rw [← joined, append_nil])
    have := List.length_pos_iff.mpr missing
    omega
  match part with
  | [] | [_] => exact tryParseFrame_tiny (by simp)
  | high :: low :: behind =>
    have header := cons_cons_eq_u16ToBe_append high low behind
    rw [serialiseFrame_eq, header, append_assoc] at joined
    obtain ⟨same, -⟩ := u16ToBe_append_inj.mp joined
    rw [header, same]
    apply tryParseFrame_short
    rw [regular.toNat_bodyLen]
    simp only [length_cons] at shorter
    omega

def nameBytes : Bytes → Option Bytes
  | _ :: _ :: flags :: _ :: _ :: atyp :: dlen :: behind =>
    if flags &&& flagData ≠ 0 ∧ atyp = atypDomain then some (behind.take dlen.toNat) else none
  | _ => none

def NameStillFits (buf : Bytes) : Prop :=
  ∀ raw, nameBytes buf = some raw →
    (toUtf8 (fromUtf8Lossy raw)).length ≤ 255 ∧
      bodyLength buf - raw.length + (toUtf8 (fromUtf8Lossy raw)).length ≤ 65535

theorem nameBytes_append (n connId : UInt16) (flags : UInt8) (behind : Bytes) :
    nameBytes (u16ToBe n ++ flags :: (u16ToBe connId ++ behind)) =
      match behind with
      | atyp :: dlen :: more =>
        if flags &&& flagData ≠ 0 ∧ atyp = atypDomain then some (more.take dlen.toNat) else none
      | _ => none := by
  match behind with
  | [] | [_] => rfl
  | atyp :: dlen :: more => rfl

theorem nameStillFits_of_none (none_ : nameBytes buf = none) : NameStillFits buf :=
  fun raw found => by simp [none_] at found

theorem regular_iff_nameStillFits (parsed : tryParseFrame buf = .ok (some (frame, consumed))) :
    frame.Regular ↔ NameStillFits buf := by
  obtain ⟨n, body, rest, rfl, size, read, -⟩ := tryParseFrame_eq_some_iff.mp parsed
  obtain ⟨head, spelled, rfl⟩ := parseBody_eq_ok_iff.mp read
  have limit : n.toNat < 65536 := n.toNat_lt
  have told : ∀ behind, bodyLength (u16ToBe n ++ behind) = n.toNat := fun behind =>
    congrArg UInt16.toNat (u16FromBe_u16ToBe n)
  obtain ⟨flags, connId, addr, payload⟩ := frame
  simp only [length_cons, length_append, length_u16ToBe] at size
  have shape : u16ToBe n ++ (flags :: (u16ToBe connId ++ (head ++ payload)) ++ rest) =
      u16ToBe n ++ flags :: (u16ToBe connId ++ (head ++ (payload ++ rest))) := by simp
  simp only [shape]
  cases addr with
  | none =>
    obtain ⟨bare, rfl⟩ := spelled
    refine iff_of_true ⟨?_, by simp [bare], by simp⟩ (nameStillFits_of_none ?_)
    · simp only [Frame.bodyLen, elim_none]
      omega
    · rw [nameBytes_append]
      split <;> simp [bare]
  | some addr =>
    obtain ⟨carries, spelled⟩ := spelled
    cases spelled with
    | v4 ip port | v6 ip port =>
      refine iff_of_true ⟨?_, by simp [carries], by simp [DstAddr.NameFits]⟩
        (nameStillFits_of_none ?_)
      · simp only [Frame.bodyLen, elim_some]
        simp only [DstAddr.length_writeTo] at size
        omega
      · rw [nameBytes_append]
        split
        · rename_i atyp dlen more same
          simp only [DstAddr.writeTo, cons_append, cons.injEq] at same
          rw [← same.1]
          simp [atypIpv4, atypIpv6, atypDomain]
        · rfl
    | @domain dlen raw sized port =>
      have name : nameBytes (u16ToBe n ++ flags :: (u16ToBe connId ++
          (atypDomain :: dlen :: (raw ++ u16ToBe port) ++ (payload ++ rest)))) = some raw := by
        rw [nameBytes_append]
        simp only [cons_append, append_assoc, ne_eq, carries, not_false_eq_true,
          true_and, if_true]
        rw [take_left' sized]
      simp only [length_cons, length_append, length_u16ToBe] at size
      unfold NameStillFits
      simp only [name, some.injEq, forall_eq', told]
      constructor
      · intro regular
        have bound := regular.body
        simp only [Frame.bodyLen, elim_some, DstAddr.serialisedLen] at bound
        exact ⟨regular.name _ rfl, by omega⟩
      · rintro ⟨fits, bound⟩
        refine ⟨?_, by simp [carries], by simpa [DstAddr.NameFits] using fits⟩
        simp only [Frame.bodyLen, elim_some, DstAddr.serialisedLen]
        omega

/--
A frame that fits is read from its bytes and no part of them; one that was read is read back exactly
when its domain name still fits as text.
-/
theorem frames_read_back (frame : Frame) (buf : Bytes) :
    (frame.Regular →
      (∀ rest, tryParseFrame (serialiseFrame frame ++ rest) =
        .ok (some (frame, (serialiseFrame frame).length))) ∧
      ∀ part, part <+: serialiseFrame frame → part ≠ serialiseFrame frame →
        tryParseFrame part = .ok none) ∧
    ∀ read consumed, tryParseFrame buf = .ok (some (read, consumed)) →
      ((∃ again, tryParseFrame (serialiseFrame read) = .ok (some (read, again))) ↔
        NameStillFits buf) := by
  refine ⟨fun regular => ⟨regular.tryParseFrame_serialise,
    fun part starts proper => regular.tryParseFrame_part starts proper⟩,
    fun read consumed parsed => ?_⟩
  rw [← regular_iff_nameStillFits parsed]
  constructor
  · rintro ⟨again, parses⟩
    exact Frame.regular_of_parses parses
  · intro regular
    have whole := regular.tryParseFrame_serialise []
    rw [append_nil] at whole
    exact ⟨_, whole⟩

def plainFrame : Frame :=
  { flags := 2, connId := 7, addr := some (.domain ['a', '.', 'b'] 5000), payload := [1, 2, 3] }

theorem frames_read_back_plain :
    (∀ rest, tryParseFrame (serialiseFrame plainFrame ++ rest) = .ok (some (plainFrame, 15))) ∧
    ∃ again, tryParseFrame (serialiseFrame plainFrame) = .ok (some (plainFrame, again)) := by
  obtain ⟨forward, backward⟩ := frames_read_back plainFrame (serialiseFrame plainFrame)
  have fits : NameStillFits (serialiseFrame plainFrame) := by
    have name : nameBytes (serialiseFrame plainFrame) = some [97, 46, 98] := by decide
    intro raw found
    obtain rfl : [97, 46, 98] = raw := some.inj (name.symm.trans found)
    decide
  have regular : plainFrame.Regular := by
    refine ⟨by decide, by decide, ?_⟩
    rintro addr ⟨⟩
    change (toUtf8 ['a', '.', 'b']).length ≤ 255
    decide
  have read := (forward regular).1
  refine ⟨read, (backward plainFrame 15 ?_).mpr fits⟩
  have whole := read []
  rwa [append_nil] at whole

def replacedName : Bytes :=
  [0x00, 0x5D, 0x02, 0x00, 0x07, 0x03, 0x56] ++ List.replicate 86 0xFF ++ [0x1F, 0x90]

def replacedFrame : Frame :=
  { flags := 2, connId := 7, addr := some (.domain (List.replicate 86 '\uFFFD') 8080),
    payload := [] }

def cutFrame : Frame :=
  { flags := 2, connId := 7, addr := some (.domain ['\uFFFD'] 0xBDEF),
    payload := (toUtf8 (List.replicate 86 '\uFFFD')).drop 4 ++ [0x1F, 0x90] }

theorem replaced_name_is_cut :
    tryParseFrame replacedName = .ok (some (replacedFrame, 95)) ∧
    tryParseFrame (serialiseFrame replacedFrame) = .ok (some (cutFrame, 267)) ∧
    cutFrame ≠ replacedFrame := by
  refine ⟨?_, ?_, ?_⟩
  · decide
  · decide +kernel
  · decide

end Udpgw

end Gvpn
