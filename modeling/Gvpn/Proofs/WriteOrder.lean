import Gvpn.Proofs.Uplink
import Gvpn.TunnelNode.Writes

/-! In which order, and how often, numbered payloads are written. -/

namespace Gvpn

open List Option

def SessionInner.unnumbered (inner : SessionInner) : SessionInner :=
  { inner with nextWriteSeq := none, pendingWrites := SeqMap.empty }

def byNumber (arrival : UInt64 × Bytes) : Nat × Bytes := (arrival.1.toNat, arrival.2)

def WrittenInTurn (before : SessionInner) (arrivals : List (UInt64 × Bytes))
    (log : List (Nat × Bytes)) (after : SessionInner) : Prop :=
  after.written = before.written ++ (log.map Prod.snd).flatten ∧
    match arrivals with
    | [] => log = [] ∧ after.nextWriteSeq = none ∧ after.pendingWrites = SeqMap.empty
    | (first, _) :: _ =>
      ∃ count, 0 < count ∧ log.map Prod.fst = List.range' first.toNat count ∧
        (∀ write ∈ log, write ∈ arrivals.map byNumber) ∧
        after.nextWriteSeq = some (first.toNat + count) ∧
        ∀ entry ∈ after.pendingWrites.entries, first.toNat + count < entry.1

def NumbersLeft : List (UInt64 × Bytes) → Prop
  | [] => True
  | (first, bytes) :: rest => ∃ wseq, first ≤ wseq ∧ wseq ∉ ((first, bytes) :: rest).map Prod.fst

theorem handleAll_eq_writeAll (inner : SessionInner) (ops : List NumberedOp) :
    NumberedOp.handleAll inner ops = inner.writeAll (ops.filterMap NumberedOp.arrival) := by
  induction ops generalizing inner with
  | nil => rfl
  | cons op rest ih =>
    cases decoded : decodePayload op.d with
    | error text =>
      simp [NumberedOp.handleAll, NumberedOp.handle, NumberedOp.arrival, decoded, ih]
    | ok bytes =>
      cases bytes with
      | nil =>
        simp [NumberedOp.handleAll, NumberedOp.handle, NumberedOp.arrival, decoded, ih]
      | cons byte bytes =>
        simp [NumberedOp.handleAll, NumberedOp.handle, NumberedOp.arrival, decoded, ih,
          SessionInner.writeAll]

namespace SessionInner

theorem writeNumbered_written (inner : SessionInner) (wseq : UInt64) (bytes : Bytes) :
    (inner.writeNumbered wseq bytes).2.written =
      inner.written ++ ((inner.writeNumbered wseq bytes).1.map Prod.snd).flatten := by
  unfold writeNumbered
  dsimp only
  split
  · simp
  · split
    · simp
    · simp

theorem writeNumbered_next {inner : SessionInner} {next : Nat}
    (waits : inner.nextWriteSeq = some next) (small : next < seqLimit) (wseq : UInt64)
    (bytes : Bytes) :
    ∃ later < seqLimit, (inner.writeNumbered wseq bytes).2.nextWriteSeq = some later := by
  have positive : 0 < seqLimit := by decide
  simp only [writeNumbered, waits, getD_some]
  split
  · exact ⟨next, small, rfl⟩
  · split
    · exact ⟨_, Nat.mod_lt _ positive, rfl⟩
    · exact ⟨next, small, rfl⟩

theorem writeNumbered_eq_offer {inner : SessionInner} {next : Nat}
    (waits : inner.nextWriteSeq = some next) (small : next < seqLimit)
    (held : ∀ pair ∈ inner.pendingWrites.entries, next < pair.1 ∧ pair.1 < seqLimit)
    (wseq : UInt64) (bytes : Bytes) :
    let step := (Reorder.mk next inner.pendingWrites).offer wseq.toNat bytes
    (inner.writeNumbered wseq bytes).1 = step.1 ∧
      (inner.writeNumbered wseq bytes).2.pendingWrites = step.2.early ∧
      (inner.writeNumbered wseq bytes).2.nextWriteSeq = some (step.2.next % seqLimit) := by
  have plain : next % seqLimit = next := Nat.mod_eq_of_lt small
  simp only [writeNumbered, waits, getD_some, Reorder.offer]
  by_cases stale : wseq.toNat < next
  · simp [stale, plain]
  · by_cases same : wseq.toNat = next
    · -- Where the counter wraps, nothing is held.
      have run : SeqMap.runLength ((next + 1) % seqLimit) inner.pendingWrites.entries =
          SeqMap.runLength (next + 1) inner.pendingWrites.entries := by
        rcases Nat.lt_or_ge (next + 1) seqLimit with inside | wraps
        · rw [Nat.mod_eq_of_lt inside]
        · have empty : inner.pendingWrites.entries = [] := by
            rw [eq_nil_iff_forall_not_mem]
            intro pair member
            have bounds := held pair member
            omega
          rw [empty]
          rfl
      simp only [same, if_false, if_true, run, Nat.lt_irrefl, true_and]
      rw [Nat.mod_add_mod]
    · simp [stale, same, plain]

end SessionInner

def Progress (base : Nat) (arrived : List (UInt64 × Bytes)) (log : List (Nat × Bytes))
    (inner : SessionInner) : Prop :=
  ∃ next < seqLimit, inner.nextWriteSeq = some next ∧
    (Reorder.Delivers base (arrived.map byNumber) ⟨next, inner.pendingWrites⟩ log ∨
      (seqLimit - base ≤ log.length ∧
        ∀ number, base ≤ number → number < seqLimit →
          number ∈ (arrived.map byNumber).map Prod.fst))

variable {arrived : List (UInt64 × Bytes)}

theorem byNumber_lt {pair : Nat × Bytes}
    (member : pair ∈ arrived.map byNumber) : pair.1 < seqLimit := by
  obtain ⟨arrival, -, rfl⟩ := List.mem_map.mp member
  exact arrival.1.toNat_lt

variable {log : List (Nat × Bytes)} {inner : SessionInner}

theorem Progress.write {base : Nat}
    (progress : Progress base arrived log inner) (begun : base < seqLimit)
    (wseq : UInt64) (bytes : Bytes) :
    Progress base (arrived ++ [(wseq, bytes)]) (log ++ (inner.writeNumbered wseq bytes).1)
      (inner.writeNumbered wseq bytes).2 := by
  obtain ⟨next, small, waits, delivers | ⟨long, all⟩⟩ := progress
  · have held : ∀ pair ∈ inner.pendingWrites.entries, next < pair.1 ∧ pair.1 < seqLimit := by
      intro pair member
      have both := delivers.held pair member
      exact ⟨both.1, byNumber_lt both.2⟩
    obtain ⟨logIs, pendingIs, nextIs⟩ :=
      SessionInner.writeNumbered_eq_offer waits small held wseq bytes
    have more := delivers.offer wseq.toNat bytes
    have arrivedIs : arrived.map byNumber ++ [(wseq.toNat, bytes)] =
        (arrived ++ [(wseq, bytes)]).map byNumber := by
      simp [byNumber]
    rw [arrivedIs] at more
    rw [logIs]
    rcases Nat.lt_or_ge ((Reorder.mk next inner.pendingWrites).offer wseq.toNat bytes).2.next
      seqLimit with inside | full
    · rw [Nat.mod_eq_of_lt inside] at nextIs
      refine ⟨_, inside, nextIs, .inl ?_⟩
      rw [pendingIs]
      exact more
    · -- The largest number has just been written.
      refine ⟨_, Nat.mod_lt _ (by decide), nextIs, .inr ⟨?_, ?_⟩⟩
      · have length := congrArg List.length more.inOrder
        rw [length_map, length_range'] at length
        omega
      · intro number above below
        exact more.all_below above (by omega)
  · -- Behind the wrap, the log only grows.
    obtain ⟨later, small', waits'⟩ := SessionInner.writeNumbered_next waits small wseq bytes
    refine ⟨later, small', waits', .inr ⟨?_, ?_⟩⟩
    · rw [length_append]
      omega
    · intro number above below
      rw [map_append, map_append]
      exact mem_append_left _ (all number above below)

theorem Progress.writeAll {base : Nat}
    (progress : Progress base arrived log inner) (begun : base < seqLimit)
    (more : List (UInt64 × Bytes)) :
    Progress base (arrived ++ more) (log ++ (inner.writeAll more).1) (inner.writeAll more).2 := by
  induction more generalizing arrived log inner with
  | nil => simpa [SessionInner.writeAll] using progress
  | cons arrival rest ih =>
    have step := ih (progress.write begun arrival.1 arrival.2)
    simpa [SessionInner.writeAll] using step

theorem writeAll_written (inner : SessionInner) (arrivals : List (UInt64 × Bytes)) :
    (inner.writeAll arrivals).2.written =
      inner.written ++ ((inner.writeAll arrivals).1.map Prod.snd).flatten := by
  induction arrivals generalizing inner with
  | nil => simp [SessionInner.writeAll]
  | cons arrival rest ih =>
    simp [SessionInner.writeAll, ih, inner.writeNumbered_written]

theorem writeAll_first (inner : SessionInner) (first : UInt64) (bytes : Bytes)
    (rest : List (UInt64 × Bytes)) :
    inner.unnumbered.writeAll ((first, bytes) :: rest) =
      SessionInner.writeAll { inner.unnumbered with nextWriteSeq := some first.toNat }
        ((first, bytes) :: rest) := by
  simp [SessionInner.writeAll, SessionInner.writeNumbered, SessionInner.unnumbered]

theorem writeNumbered_eq_writeSeq {wseq : UInt64} {bytes : Bytes}
    (inside : wseq.toNat + 1 + SeqMap.runLength (wseq.toNat + 1) inner.pendingWrites.entries <
      seqLimit) :
    (inner.writeNumbered wseq bytes).2 = inner.writeSeq wseq.toNat bytes := by
  unfold SessionInner.writeNumbered SessionInner.writeSeq
  dsimp only
  split
  · rfl
  · split
    · rename_i same
      rw [← same, Nat.mod_eq_of_lt (by omega), Nat.mod_eq_of_lt inside]
      rfl
    · rfl

theorem phase1_numbered (decodeError : Text → Text) {state : AppState} {sid : Text}
    (named : sid ≠ []) (found : state.sessions sid = some inner)
    (op : NumberedOp)
    (inside : op.wseq.toNat + 1 +
      SeqMap.runLength (op.wseq.toNat + 1) inner.pendingWrites.entries < seqLimit) :
    (phase1 decodeError state
      { op := .data, sid := some sid, d := op.d, wseq := some op.wseq.toNat }).2.sessions sid =
      some (NumberedOp.handle inner op).2 := by
  simp only [phase1, phase1Data, usableSid_of_ne_nil named, found, NumberedOp.handle]
  cases decodePayload op.d with
  | error text => exact found
  | ok bytes =>
    by_cases empty : bytes.isEmpty = true
    · simp only [empty, if_true]
      exact found
    · simp only [empty, Bool.false_eq_true, if_false, AppState.setSession_same,
        SessionInner.write, writeNumbered_eq_writeSeq inside]

theorem writtenInTurn_of_delivers {before after : SessionInner} {first : UInt64} {bytes : Bytes}
    {rest : List (UInt64 × Bytes)} {next : Nat}
    (written : after.written = before.written ++ (log.map Prod.snd).flatten)
    (small : next < seqLimit) (waits : after.nextWriteSeq = some next)
    (delivers : Reorder.Delivers first.toNat (((first, bytes) :: rest).map byNumber)
      ⟨next, after.pendingWrites⟩ log) :
    WrittenInTurn before ((first, bytes) :: rest) log after ∧
      NumbersLeft ((first, bytes) :: rest) := by
  have begun : first.toNat < next := by
    have arrived : byNumber (first, bytes) ∈ ((first, bytes) :: rest).map byNumber :=
      mem_cons_self
    have differs : first.toNat ≠ next := delivers.awaited arrived
    have started : first.toNat ≤ next := delivers.started
    omega
  have number : first.toNat + (next - first.toNat) = next := by omega
  constructor
  · refine ⟨written, next - first.toNat, by omega, delivers.inOrder, delivers.genuine, ?_, ?_⟩
    · rw [number, waits]
    · intro entry member
      rw [number]
      exact (delivers.held entry member).1
  · -- The awaited number is the one that is left.
    refine ⟨UInt64.ofNat next, ?_, ?_⟩
    · rw [UInt64.le_iff_toNat_le, UInt64.toNat_ofNat_of_lt' small]
      exact begun.le
    · intro member
      obtain ⟨arrival, inside, is⟩ := List.mem_map.mp member
      refine delivers.awaited (List.mem_map_of_mem inside) ?_
      show arrival.1.toNat = next
      rw [is, UInt64.toNat_ofNat_of_lt' small]

/--
Payloads are written in turn if and only if a number is left: behind the largest, the counter wraps
around.
-/
theorem writtenInTurn_iff (inner : SessionInner) (ops : List NumberedOp) :
    WrittenInTurn inner (ops.filterMap NumberedOp.arrival)
      (NumberedOp.handleAll inner.unnumbered ops).1
      (NumberedOp.handleAll inner.unnumbered ops).2 ↔
      NumbersLeft (ops.filterMap NumberedOp.arrival) := by
  rw [handleAll_eq_writeAll]
  have written := writeAll_written inner.unnumbered (ops.filterMap NumberedOp.arrival)
  cases arrivals : ops.filterMap NumberedOp.arrival with
  | nil => simp [WrittenInTurn, NumbersLeft, SessionInner.writeAll, SessionInner.unnumbered]
  | cons arrival rest =>
    obtain ⟨first, bytes⟩ := arrival
    rw [arrivals, writeAll_first] at written
    rw [writeAll_first]
    have begun : first.toNat < seqLimit := first.toNat_lt
    have start : Progress first.toNat [] []
        { inner.unnumbered with nextWriteSeq := some first.toNat } :=
      ⟨first.toNat, begun, rfl, .inl (Reorder.delivers_start first.toNat)⟩
    obtain ⟨next, small, waits, delivers | ⟨long, all⟩⟩ :=
      start.writeAll begun ((first, bytes) :: rest)
    · have both : WrittenInTurn inner _ _ _ ∧ _ :=
        writtenInTurn_of_delivers written small waits delivers
      exact ⟨fun _ => both.2, fun _ => both.1⟩
    · constructor
      · -- The counter is below the number behind the writes.
        rintro ⟨-, count, -, logIs, -, nextIs, -⟩
        have length := congrArg List.length logIs
        rw [length_map, length_range'] at length
        rw [waits, some.injEq] at nextIs
        rw [nil_append] at long
        omega
      · rintro ⟨wseq, above, missing⟩
        have arrived := all wseq.toNat (UInt64.le_iff_toNat_le.mp above) wseq.toNat_lt
        obtain ⟨pair, inside, is⟩ := List.mem_map.mp arrived
        obtain ⟨arrival, member, rfl⟩ := List.mem_map.mp inside
        refine absurd (List.mem_map.mpr ⟨arrival, member, ?_⟩) missing
        exact UInt64.toNat_inj.mp is

theorem largest_number_wraps :
    let ops : List NumberedOp :=
      [⟨18446744073709551615, some "eA==".toList⟩, ⟨0, some "eQ==".toList⟩]
    let result := NumberedOp.handleAll {} ops
    result.1 = [(18446744073709551615, [120]), (0, [121])] ∧
      result.2.nextWriteSeq = some 1 := by
  refine ⟨?_, ?_⟩ <;> decide +kernel

end Gvpn
