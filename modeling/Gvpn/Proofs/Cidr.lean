import Gvpn.Scan.Cidr

/-! The addresses a block is scanned for are in it, where its base leaves room. -/

namespace Gvpn

open List

theorem joinOctets_eq {a b c d : Nat} (bSmall : b < 256) (cSmall : c < 256) (dSmall : d < 256) :
    joinOctets a b c d = ((a * 256 + b) * 256 + c) * 256 + d := by
  have join : ∀ high low, low < 256 → high <<< 8 ||| low = high * 256 + low := by
    intro high low small
    rw [← Nat.shiftLeft_add_eq_or_of_lt (by omega), Nat.shiftLeft_eq]
  have whole : joinOctets a b c d = ((a <<< 8 ||| b) <<< 8 ||| c) <<< 8 ||| d := by
    simp only [joinOctets, Nat.shiftLeft_or_distrib, ← Nat.shiftLeft_add]
  rw [whole, join a b bSmall, join _ c cSmall, join _ d dSmall]

theorem ipToU32_dotted {ip : Nat} (small : ip < 2 ^ 32) : ipToU32 (dotted ip) = some ip := by
  have octet : ∀ n, n &&& 0xFF = n % 256 := fun n => Nat.and_two_pow_sub_one_eq_mod n 8
  have free : ∀ part ∈ [decimal (ip / 2 ^ 24 % 256), decimal (ip / 2 ^ 16 % 256),
      decimal (ip / 2 ^ 8 % 256), decimal (ip % 256)], '.' ∉ part := by
    have each : ∀ n, '.' ∉ decimal n := fun n member =>
      absurd (isDigit_of_mem_decimal member) (by decide)
    simp [each]
  have parts := splitOn_intercalate '.' free (by simp)
  have text : dotted ip = intercalate ['.'] [decimal (ip / 2 ^ 24 % 256),
      decimal (ip / 2 ^ 16 % 256), decimal (ip / 2 ^ 8 % 256), decimal (ip % 256)] := by
    simp [dotted, octet, Nat.shiftRight_eq_div_pow, intercalate]
  have read : ∀ n, parseUnsigned 256 (decimal (n % 256)) = some (n % 256) := fun n =>
    parseUnsigned_decimal (Nat.mod_lt n (by decide))
  rw [ipToU32, text, parts]
  simp only [filterMap_cons, filterMap_nil, read, length_cons, length_nil]
  rw [if_neg (by decide), joinOctets_eq (by omega) (by omega) (by omega)]
  exact congrArg some (by omega)

theorem subUnsigned_of_le {left right : Nat} (enough : right ≤ left) :
    subUnsigned left right = .ok (left - right) := if_pos enough

theorem shlU32_one {bits : Nat} (few : bits < 32) : shlU32 1 bits = .ok (2 ^ bits) := by
  rw [shlU32, if_pos few, Nat.one_shiftLeft,
    Nat.mod_eq_of_lt (Nat.pow_lt_pow_right (by decide) few)]

variable {prefixLen : Nat}

theorem cidrMask_eq (short : prefixLen ≤ 32) :
    cidrMask prefixLen = .ok (2 ^ 32 - 2 ^ (32 - prefixLen)) := by
  unfold cidrMask
  split_ifs with none_ whole
  · rw [none_]
    rfl
  · rw [show prefixLen = 32 by omega]
    rfl
  · have positive := Nat.two_pow_pos (32 - prefixLen)
    rw [subUnsigned_of_le short, ok_bind, shlU32_one (by omega), ok_bind,
      subUnsigned_of_le positive, ok_bind, pure_eq_ok]
    exact congrArg Except.ok (by omega)

theorem and_mask {ip bits : Nat} (small : ip < 2 ^ 32) (few : bits ≤ 32) :
    ip &&& (2 ^ 32 - 2 ^ bits) = ip / 2 ^ bits * 2 ^ bits := by
  have ones : 2 ^ 32 - 2 ^ bits = (2 ^ (32 - bits) - 1) * 2 ^ bits := by
    rw [Nat.sub_mul, ← Nat.pow_add, Nat.sub_add_cancel few, Nat.one_mul]
  apply Nat.eq_of_testBit_eq
  intro i
  rw [Nat.testBit_and, ones, Nat.testBit_mul_two_pow, Nat.testBit_mul_two_pow, Nat.testBit_div_two_pow,
    Nat.testBit_two_pow_sub_one]
  by_cases high : bits ≤ i
  · by_cases inside : i < 32
    · simp [high, show i - bits < 32 - bits by omega]
    · have zero : ip.testBit i = false :=
        Nat.testBit_lt_two_pow (small.trans_le (Nat.pow_le_pow_right (by decide) (by omega)))
      simp [high, zero]
  · simp [high]

theorem scannedCidr_eq_some {cidr : Text} {base : Nat}
    (scanned : scannedCidr cidr = some (base, prefixLen)) :
    base < 2 ^ 32 ∧ prefixLen ≤ 32 ∧ ∃ baseIp length, cidr.splitOn '/' = [baseIp, length] ∧
      parseUnsigned 256 length = some prefixLen ∧ ipToU32 baseIp = some base := by
  unfold scannedCidr at scanned
  split at scanned
  · rename_i baseIp length parts
    split at scanned
    · rename_i given a b c d sized read
      split_ifs at scanned with long
      cases scanned
      have four := congrArg List.length read
      rw [length_map] at four
      have kept : (baseIp.splitOn '.').filterMap (parseUnsigned 256) = [a, b, c, d] := by
        simpa [filterMap_map] using congrArg (List.filterMap id) read
      have small : ∀ value, some value ∈ [some a, some b, some c, some d] → value < 256 := by
        intro value member
        rw [← read] at member
        obtain ⟨octet, -, parsed⟩ := mem_map.mp member
        simp only [parseUnsigned, Option.ite_none_right_eq_some, Option.some.injEq] at parsed
        exact parsed.2 ▸ parsed.1.2.2
      have first := small a (by simp)
      have second := small b (by simp)
      have third := small c (by simp)
      have fourth := small d (by simp)
      refine ⟨?_, Nat.le_of_not_lt long, baseIp, length, parts, sized, ?_⟩
      · rw [joinOctets_eq second third fourth]
        omega
      · rw [ipToU32, if_neg (by simp [four]), kept]
    · cases scanned
  · cases scanned

theorem ipInCidr_dotted {cidr : Text} {base ip : Nat}
    (scanned : scannedCidr cidr = some (base, prefixLen)) (small : ip < 2 ^ 32) :
    ipInCidr (dotted ip) cidr =
      .ok (ip / 2 ^ (32 - prefixLen) = base / 2 ^ (32 - prefixLen)) := by
  obtain ⟨baseSmall, short, baseIp, length, parts, sized, read⟩ := scannedCidr_eq_some scanned
  have positive := Nat.two_pow_pos (32 - prefixLen)
  simp only [ipInCidr, parts, sized, read, ipToU32_dotted small, cidrMask_eq short, ok_bind,
    pure_eq_ok, and_mask small (Nat.sub_le _ _), and_mask baseSmall (Nat.sub_le _ _),
    Nat.mul_left_inj positive.ne']

theorem ipsFrom_eq_ok_iff {base : Nat} {distances : List Nat} {ips : List Text} :
    ipsFrom base distances = .ok ips ↔
      (∀ i ∈ distances, base + i < 2 ^ 32) ∧ ips = distances.map fun i => dotted (base + i) := by
  induction distances generalizing ips with
  | nil => simp [ipsFrom, eq_comm]
  | cons i later ih =>
    rw [ipsFrom, forall_mem_cons, map_cons]
    by_cases fits : base + i < 2 ^ 32
    · rw [addU32, if_pos fits, ok_bind]
      cases rest : ipsFrom base later with
      | error broken =>
        simp only [error_bind, reduceCtorEq, false_iff]
        rintro ⟨⟨-, small⟩, -⟩
        have made := ih.mpr ⟨small, rfl⟩
        rw [rest] at made
        cases made
      | ok others =>
        obtain ⟨small, rfl⟩ := ih.mp rest
        simp only [ok_bind, pure_eq_ok, Except.ok.injEq, fits, true_and, eq_comm]
        exact (and_iff_right small).symm
    · rw [addU32, if_neg fits, error_bind]
      simp only [reduceCtorEq, fits, false_and]

theorem cidrToIps_eq {cidr : Text} {base : Nat}
    (scanned : scannedCidr cidr = some (base, prefixLen)) :
    cidrToIps cidr = ipsFrom base (List.range' 1 (min (2 ^ (32 - prefixLen)) 256 - 2)) := by
  obtain ⟨-, short, -⟩ := scannedCidr_eq_some scanned
  obtain ⟨hosts, counted, limit⟩ : ∃ hosts, numHosts (32 - prefixLen) = .ok hosts ∧
      min hosts 256 = min (2 ^ (32 - prefixLen)) 256 := by
    unfold numHosts
    split_ifs with whole
    · rw [show prefixLen = 0 by omega]
      exact ⟨_, rfl, rfl⟩
    · exact ⟨_, shlU32_one (by omega), rfl⟩
  rw [cidrToIps, scanned]
  simp only [subUnsigned_of_le short, ok_bind, counted, limit]
  split_ifs with few
  · rw [Nat.sub_eq_zero_of_le (by omega)]
    rfl
  · rw [subUnsigned_of_le (by omega), ok_bind, Nat.sub_sub]

theorem block_eq_iff (base distance : Nat) {size : Nat} (positive : 0 < size) :
    (base + distance) / size = base / size ↔ base % size + distance < size := by
  have split : base + distance = size * (base / size) + (base % size + distance) := by
    have := Nat.div_add_mod base size
    omega
  rw [split, Nat.mul_add_div positive, Nat.add_eq_left, Nat.div_eq_zero_iff_lt positive]

/--
The addresses that a block is scanned for are all in the block, and no sum overflows, exactly when
the base of the block leaves room for the last of them.
-/
theorem cidrToIps_sound_iff {cidr : Text} {base prefixLen : Nat}
    (scanned : scannedCidr cidr = some (base, prefixLen)) :
    (∃ ips, cidrToIps cidr = .ok ips ∧ ∀ ip ∈ ips, ipInCidr ip cidr = .ok true) ↔
      base % 2 ^ (32 - prefixLen) + (min (2 ^ (32 - prefixLen)) 256 - 2) <
        2 ^ (32 - prefixLen) := by
  obtain ⟨baseSmall, short, -⟩ := scannedCidr_eq_some scanned
  have positive := Nat.two_pow_pos (32 - prefixLen)
  rw [cidrToIps_eq scanned]
  set size := 2 ^ (32 - prefixLen) with sizeIs
  constructor
  · rintro ⟨ips, made, inside⟩
    obtain ⟨fits, rfl⟩ := ipsFrom_eq_ok_iff.mp made
    rcases Nat.eq_zero_or_pos (min size 256 - 2) with nothing | some_
    · rw [nothing]
      exact Nat.mod_lt base positive
    · -- The last address decides.
      have last : min size 256 - 2 ∈ List.range' 1 (min size 256 - 2) := by
        rw [mem_range'_1]
        omega
      have found := inside _ (mem_map_of_mem last)
      rw [ipInCidr_dotted scanned (fits _ last), ← sizeIs] at found
      simpa [block_eq_iff base _ positive] using found
  · intro room
    have each : ∀ i ∈ List.range' 1 (min size 256 - 2), base + i < 2 ^ 32 ∧
        (base + i) / size = base / size := by
      intro i member
      rw [mem_range'_1] at member
      have same := (block_eq_iff base i positive).mpr (by omega)
      refine ⟨?_, same⟩
      have whole : size * 2 ^ prefixLen = 2 ^ 32 := by
        rw [sizeIs, ← Nat.pow_add, Nat.sub_add_cancel short]
      rw [← whole, Nat.mul_comm, ← Nat.div_lt_iff_lt_mul positive, same,
        Nat.div_lt_iff_lt_mul positive, Nat.mul_comm, whole]
      exact baseSmall
    refine ⟨_, ipsFrom_eq_ok_iff.mpr ⟨fun i member => (each i member).1, rfl⟩, ?_⟩
    intro ip member
    obtain ⟨i, listed, rfl⟩ := mem_map.mp member
    obtain ⟨small, same⟩ := each i listed
    rw [ipInCidr_dotted scanned small, ← sizeIs, same]
    simp

theorem cidrToIps_sound_aligned :
    ∃ ips, cidrToIps (lit "10.0.0.0/30") = .ok ips ∧
      ∀ ip ∈ ips, ipInCidr ip (lit "10.0.0.0/30") = .ok true :=
  (@cidrToIps_sound_iff (lit "10.0.0.0/30") (10 * 2 ^ 24) 30 (by with_unfolding_all rfl)).mpr
    (by decide)

theorem cidrToIps_leaves_block :
    cidrToIps (lit "10.0.0.3/30") = .ok [lit "10.0.0.4", lit "10.0.0.5"] ∧
      ipInCidr (lit "10.0.0.4") (lit "10.0.0.3/30") = .ok false ∧
      cidrToIps (lit "255.255.255.254/30") = .error .overflow := by
  refine ⟨?_, ?_, ?_⟩ <;> with_unfolding_all rfl

end Gvpn
