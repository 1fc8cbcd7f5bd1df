import Gvpn.Proofs.MuxLoop

/-! How large the batches of the multiplexer get. -/

namespace Gvpn

open List Option

variable {ρ : Type}

def PendingOp.size (op : PendingOp) : Nat := encodedLen (op.data.getD []).length

def PendingOp.carriesPayload (op : PendingOp) : Bool := !(op.data.getD []).isEmpty

def payloadSize (ops : List PendingOp) : Nat := (ops.map PendingOp.size).sum

def FiredBatch.PayloadCapped (batch : FiredBatch ρ) : Prop :=
  payloadSize batch.ops ≤ maxBatchPayloadBytes ∨ batch.ops.countP PendingOp.carriesPayload = 1

structure BatchAccum.Capped (accum : BatchAccum ρ) : Prop where
  count : accum.pendingOps.length ≤ maxBatchOps
  measured : accum.payloadBytes = payloadSize accum.pendingOps
  payload : accum.payloadBytes ≤ maxBatchPayloadBytes ∨ accum.pendingOps.length = 1

variable {op : PendingOp}

theorem size_of_batched {msg : MuxMsg ρ} {opBytes : Nat} {reply : ρ}
    (batched : msg.batched = some (op, opBytes, reply)) : opBytes = op.size := by
  have kept : ∀ data : Bytes, ((nonemptyData data).getD []).length = data.length := by
    intro data
    cases data <;> rfl
  cases msg with
  | connect | close => simp [MuxMsg.batched] at batched
  | connectData | data | udpOpen | udpData =>
    obtain ⟨rfl, rfl, -⟩ := batched
    simp [PendingOp.size, kept]

theorem size_eq_zero_iff : op.size = 0 ↔ op.carriesPayload = false := by
  unfold PendingOp.size PendingOp.carriesPayload encodedLen
  cases op.data.getD [] with
  | nil => simp
  | cons byte bytes =>
    simp only [length_cons, isEmpty_cons, Bool.not_false, Bool.true_eq_false, iff_false]
    omega

theorem payloadSize_closes (ops : List PendingOp) (sids : List Text) :
    payloadSize (ops ++ sids.map closeOp) = payloadSize ops := by
  have nothing : payloadSize (sids.map closeOp) = 0 := by
    induction sids with
    | nil => rfl
    | cons sid sids ih => simpa [payloadSize, PendingOp.size, encodedLen, closeOp] using ih
  simp only [payloadSize, map_append, sum_append] at nothing ⊢
  omega

theorem countP_closes (ops : List PendingOp) (sids : List Text) :
    (ops ++ sids.map closeOp).countP PendingOp.carriesPayload =
      ops.countP PendingOp.carriesPayload := by
  simp [Function.comp_def, PendingOp.carriesPayload, closeOp]

variable {accum : BatchAccum ρ}

theorem BatchAccum.Capped.payloadCapped (capped : accum.Capped)
    (sids : List Text) (replies : List (Nat × ρ)) :
    FiredBatch.PayloadCapped ⟨accum.pendingOps ++ sids.map closeOp, replies⟩ := by
  unfold FiredBatch.PayloadCapped
  rw [payloadSize_closes, countP_closes, ← capped.measured]
  by_cases within : accum.payloadBytes ≤ maxBatchPayloadBytes
  · exact .inl within
  · -- A single operation that is too large does carry a payload.
    obtain ⟨op, single⟩ := List.length_eq_one_iff.mp (capped.payload.resolve_left within)
    have large : op.size ≠ 0 := by
      have measured := capped.measured
      simp only [single, payloadSize, map_cons, map_nil, sum_cons,
        sum_nil] at measured
      omega
    right
    rw [single]
    simpa [countP_singleton] using mt size_eq_zero_iff.mpr large

theorem BatchAccum.Capped.pushOrFire (capped : accum.Capped)
    {opBytes : Nat} (measured : opBytes = op.size) (reply : ρ) :
    (∀ batch ∈ (accum.pushOrFire op opBytes reply).1,
      batch.ops.length ≤ maxBatchOps ∧ batch.PayloadCapped) ∧
    (accum.pushOrFire op opBytes reply).2.Capped := by
  unfold BatchAccum.pushOrFire
  by_cases fires : shouldFire accum.pendingOps.length accum.payloadBytes opBytes = true
  · simp only [if_pos fires, mem_singleton, forall_eq]
    refine ⟨⟨capped.count, ?_⟩, ?_⟩
    · simpa using capped.payloadCapped [] accum.dataReplies
    · -- The operation is the only one then.
      exact ⟨by simp [maxBatchOps], by simp [payloadSize, measured], .inr rfl⟩
  · simp only [if_neg fires]
    have fits : accum.pendingOps = [] ∨ accum.pendingOps.length < maxBatchOps ∧
        accum.payloadBytes + opBytes ≤ maxBatchPayloadBytes := by
      by_cases nothing : accum.pendingOps = []
      · exact .inl nothing
      · right
        have some_ := length_pos_of_ne_nil nothing
        simp only [shouldFire, some_, true_and, decide_eq_true_eq, not_or, not_le, not_lt] at fires
        have cap := fires.2
        rw [maxBatchPayloadBytes] at cap ⊢
        omega
    refine ⟨by simp, ?_, ?_, ?_⟩
    · rcases fits with nothing | ⟨room, -⟩
      · simp [nothing, maxBatchOps]
      · rw [length_append]
        exact room
    · simp [payloadSize, capped.measured, measured]
    · rcases fits with nothing | ⟨-, small⟩
      · simp [nothing]
      · exact .inl small

theorem BatchAccum.Capped.pushAll (capped : accum.Capped)
    {items : List (PendingOp × Nat × ρ)} (measured : ∀ item ∈ items, item.2.1 = item.1.size) :
    (∀ batch ∈ (accum.pushAll items).1,
      batch.ops.length ≤ maxBatchOps ∧ batch.PayloadCapped) ∧ (accum.pushAll items).2.Capped := by
  induction items generalizing accum with
  | nil => exact ⟨by simp [BatchAccum.pushAll], capped⟩
  | cons item items ih =>
    obtain ⟨op, opBytes, reply⟩ := item
    obtain ⟨first, later⟩ := List.forall_mem_cons.mp measured
    obtain ⟨firedNow, cappedNow⟩ := capped.pushOrFire first reply
    obtain ⟨firedLater, cappedLater⟩ := ih cappedNow later
    refine ⟨?_, cappedLater⟩
    intro batch member
    rcases List.mem_append.mp member with now | then_
    · exact firedNow batch now
    · exact firedLater batch then_

def windowRest (msgs : List (MuxMsg ρ)) : List (FiredBatch ρ) × BatchAccum ρ :=
  ({} : BatchAccum ρ).pushAll (msgs.filterMap MuxMsg.batched)

def ClosesFit (msgs : List (MuxMsg ρ)) : Prop :=
  (windowRest msgs).2.pendingOps.length + (msgs.filterMap MuxMsg.closed).length ≤ maxBatchOps

theorem windowRest_capped (msgs : List (MuxMsg ρ)) :
    (∀ batch ∈ (windowRest msgs).1, batch.ops.length ≤ maxBatchOps ∧ batch.PayloadCapped) ∧
      (windowRest msgs).2.Capped := by
  have nothing : ({} : BatchAccum ρ).Capped := ⟨by simp, rfl, .inl (by simp)⟩
  apply nothing.pushAll
  intro item member
  obtain ⟨msg, -, batched⟩ := List.mem_filterMap.mp member
  exact size_of_batched batched

theorem mem_muxWindow {msgs : List (MuxMsg ρ)} {batch : FiredBatch ρ}
    (member : batch ∈ muxWindow msgs) :
    batch ∈ (windowRest msgs).1 ∨
      batch = ⟨(windowRest msgs).2.pendingOps ++ (msgs.filterMap MuxMsg.closed).map closeOp,
        (windowRest msgs).2.dataReplies⟩ := by
  unfold muxWindow at member
  dsimp only at member
  split at member
  · exact .inl member
  · rcases List.mem_append.mp member with out | last
    · exact .inl out
    · exact .inr (List.mem_singleton.mp last)

theorem muxWindow_payloadCapped {msgs : List (MuxMsg ρ)} {batch : FiredBatch ρ}
    (member : batch ∈ muxWindow msgs) : batch.PayloadCapped := by
  obtain ⟨out, rest⟩ := windowRest_capped msgs
  rcases mem_muxWindow member with early | rfl
  · exact (out batch early).2
  · exact rest.payloadCapped _ _

theorem muxWindow_count_iff (msgs : List (MuxMsg ρ)) :
    (∀ batch ∈ muxWindow msgs, batch.ops.length ≤ maxBatchOps) ↔ ClosesFit msgs := by
  constructor
  · intro short
    unfold ClosesFit
    by_contra over_
    have last : ⟨(windowRest msgs).2.pendingOps ++ (msgs.filterMap MuxMsg.closed).map closeOp,
        (windowRest msgs).2.dataReplies⟩ ∈ muxWindow msgs := by
      unfold muxWindow
      dsimp only
      rw [if_neg]
      · exact mem_append_right _ (List.mem_singleton.mpr rfl)
      · intro empty
        have none_ := congrArg List.length (List.isEmpty_iff.mp empty)
        simp only [length_append, length_map, length_nil] at none_
        rw [windowRest] at over_
        omega
    have length := short _ last
    simp only [length_append, length_map] at length
    exact over_ length
  · intro fit batch member
    rcases mem_muxWindow member with early | rfl
    · exact ((windowRest_capped msgs).1 batch early).1
    · rw [length_append, length_map]
      exact fit

namespace MuxLoop

def due (mux : MuxLoop ρ) : Option (List (MuxMsg ρ)) :=
  match mux.stage, mux.queue with
  | .draining window, [] => if window.waitUntil ≤ mux.now then some window.msgs else none
  | .awaiting window, [] =>
    if mux.closed then none
    else if window.waitUntil ≤ mux.now then some window.msgs
    else none
  | _, _ => none

def FitsCloses (mux : MuxLoop ρ) : MuxLoopEvent ρ → Prop
  | .run _ _ => ∀ msgs, mux.due = some msgs → ClosesFit msgs
  | _ => True

variable {mux after : MuxLoop ρ} {event : MuxLoopEvent ρ}

theorem fired_of_step (taken : mux.step event = some after) :
    after.fired = mux.fired ∨ ∃ msgs, mux.due = some msgs ∧
      (∃ coalesceStep coalesceMax, event = .run coalesceStep coalesceMax) ∧
      after.fired = mux.fired ++ muxWindow msgs := by
  cases change_of_step taken with
  | sends | closes | waits | takes | rests | ends | abandons => exact .inl rfl
  | fires nothing stage late =>
    refine .inr ⟨_, ?_, ⟨_, _, rfl⟩, rfl⟩
    rcases stage with stage | ⟨stage, there⟩
    · simp [due, stage, nothing, late]
    · simp [due, stage, nothing, late, there]

theorem run_of_due {msgs : List (MuxMsg ρ)} (isDue : mux.due = some msgs)
    (coalesceStep coalesceMax : Nat) :
    mux.step (.run coalesceStep coalesceMax) = some (mux.fire msgs) := by
  unfold due at isDue
  split at isDue
  · rename_i stage nothing
    obtain ⟨late, same⟩ := Option.ite_none_right_eq_some.mp isDue
    cases same
    simp [step, run, stage, nothing, late]
  · rename_i stage nothing
    obtain ⟨there, same⟩ := Option.ite_none_left_eq_some.mp isDue
    obtain ⟨late, same⟩ := Option.ite_none_right_eq_some.mp same
    cases same
    simp [step, run, stage, nothing, late, there]
  · contradiction

theorem forall_fired {allowed : MuxLoop ρ → MuxLoopEvent ρ → Prop} {holds : FiredBatch ρ → Prop}
    (windows : ∀ {mux msgs coalesceStep coalesceMax}, allowed mux (.run coalesceStep coalesceMax) →
      mux.due = some msgs → ∀ batch ∈ muxWindow msgs, holds batch)
    (reached : Reachable step allowed {} mux) : ∀ batch ∈ mux.fired, holds batch := by
  refine reached.invariant (fun mux => ∀ batch ∈ mux.fired, holds batch) (by simp) ?_
  intro mux after event held permitted taken batch member
  rcases fired_of_step taken with same | ⟨msgs, isDue, ⟨_, _, rfl⟩, more⟩
  · exact held batch (same ▸ member)
  · -- A step adds the batches of one window to those that were there.
    rw [more] at member
    rcases List.mem_append.mp member with before | new
    · exact held batch before
    · exact windows permitted isDue batch new

/--
The batches of the multiplexer are within the caps as long as the closes of every window fit into
its last batch; a window whose closes do not fit breaks them.
-/
theorem batches_capped (ρ : Type) :
    (∀ mux : MuxLoop ρ, Reachable step (fun _ _ => True) {} mux →
      ∀ batch ∈ mux.fired, batch.PayloadCapped) ∧
    ∀ mux : MuxLoop ρ, Reachable step FitsCloses {} mux →
      (∀ batch ∈ mux.fired, batch.ops.length ≤ maxBatchOps) ∧
      ∀ event after, mux.step event = some after → ¬ mux.FitsCloses event →
        ∃ batch ∈ after.fired, maxBatchOps < batch.ops.length := by
  constructor
  · intro mux
    exact forall_fired fun _ _ _ member => muxWindow_payloadCapped member
  · intro mux reached
    constructor
    · refine forall_fired ?_ reached
      intro mux msgs _ _ permitted isDue
      exact (muxWindow_count_iff msgs).mpr (permitted msgs isDue)
    · -- The first window that does not fit is sent out by this very step.
      intro event after taken unfit
      cases event with
      | run coalesceStep coalesceMax =>
        simp only [FitsCloses, not_forall] at unfit
        obtain ⟨msgs, isDue, crowded⟩ := unfit
        rw [run_of_due isDue, some.injEq] at taken
        subst taken
        rw [← muxWindow_count_iff] at crowded
        simp only [not_forall, not_le] at crowded
        obtain ⟨batch, member, long⟩ := crowded
        exact ⟨batch, mem_append_right _ member, long⟩
      | send | close | wait => exact absurd trivial unfit

theorem fifty_one_closes_in_one_batch :
    ∃ mux : MuxLoop Nat, Reachable step (fun _ _ => True) {} mux ∧
      mux.accepted = List.replicate 51 (.close []) ∧
      ∃ batch ∈ mux.fired, batch.ops.length = 51 ∧ maxBatchOps < batch.ops.length := by
  obtain ⟨mux, run, accepted, fired⟩ : ∃ mux : MuxLoop Nat,
      runSteps step {} (List.replicate 51 (.send (.close [])) ++ List.replicate 51 (.run 50 300) ++
        [.wait 50, .run 50 300]) = some mux ∧ mux.accepted = List.replicate 51 (.close []) ∧
        mux.fired = [⟨List.replicate 51 (closeOp []), []⟩] := ⟨_, rfl, rfl, rfl⟩
  refine ⟨mux, Reachable.runSteps _ .begin (permits_of_forall_mem (fun _ _ _ => trivial) _) run,
    accepted, ⟨List.replicate 51 (closeOp []), []⟩, ?_, ?_, ?_⟩
  · simp [fired]
  · simp
  · simp [maxBatchOps]

end MuxLoop

end Gvpn
