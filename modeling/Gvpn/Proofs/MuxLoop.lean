import Gvpn.Proofs.Alignment
import Gvpn.TunnelClient.MuxLoop

/-! What becomes of the messages that the multiplexer is given. -/

namespace Gvpn

open List

variable {ρ : Type}

def FiredBatch.answers (batch : FiredBatch ρ) : List (Option PendingOp × ρ) :=
  batch.replies.map fun (idx, reply) => (batch.ops[idx]?, reply)

structure Lossless (fired : List (FiredBatch ρ)) (msgs : List (MuxMsg ρ)) : Prop where
  ordered : fired.flatMap FiredBatch.answers =
    (msgs.filterMap MuxMsg.batched).map fun (op, _, reply) => (some op, reply)
  indexed : ∀ batch ∈ fired, batch.replies.map Prod.fst = List.range batch.replies.length
  placed : (fired.flatMap FiredBatch.ops).Perm
    ((msgs.filterMap MuxMsg.batched).map Prod.fst ++ (msgs.filterMap MuxMsg.closed).map closeOp)

theorem lossless_nil : Lossless ([] : List (FiredBatch ρ)) [] where
  ordered := rfl
  indexed := by simp
  placed := List.Perm.refl _

theorem Lossless.append {first second : List (FiredBatch ρ)} {msgs more : List (MuxMsg ρ)}
    (left : Lossless first msgs) (right : Lossless second more) :
    Lossless (first ++ second) (msgs ++ more) where
  ordered := by
    simp only [flatMap_append, filterMap_append, map_append, left.ordered,
      right.ordered]
  indexed batch member := by
    rcases List.mem_append.mp member with early | late
    · exact left.indexed batch early
    · exact right.indexed batch late
  placed := by
    simp only [flatMap_append, filterMap_append, map_append]
    refine (left.placed.append right.placed).trans ?_
    rw [append_assoc, append_assoc]
    refine Perm.append_left _ ?_
    rw [← append_assoc, ← append_assoc]
    exact Perm.append_right _ perm_append_comm

structure Gathers (accum : BatchAccum ρ) (items : List (PendingOp × Nat × ρ)) : Prop where
  ops : accum.pendingOps = items.map Prod.fst
  replies : accum.dataReplies = (List.range items.length).zip (items.map fun item => item.2.2)

variable {accum : BatchAccum ρ} {items : List (PendingOp × Nat × ρ)}

theorem Gathers.answers (gathers : Gathers accum items) (closes : List PendingOp) :
    FiredBatch.answers ⟨accum.pendingOps ++ closes, accum.dataReplies⟩ =
      items.map fun (op, _, reply) => (some op, reply) := by
  have length : accum.dataReplies.length = items.length := by simp [gathers.replies]
  apply ext_getElem
  · simp [FiredBatch.answers, length]
  · intro i _ inside
    simp only [length_map] at inside
    simp [FiredBatch.answers, gathers.ops, gathers.replies, getElem?_append, inside]

theorem Gathers.indexed (gathers : Gathers accum items) :
    accum.dataReplies.map Prod.fst = List.range accum.dataReplies.length := by
  rw [gathers.replies, map_fst_zip (by simp)]
  simp

theorem Gathers.push (gathers : Gathers accum items) (op : PendingOp) (opBytes : Nat) (reply : ρ) :
    Gathers
      { pendingOps := accum.pendingOps ++ [op]
        dataReplies := accum.dataReplies ++ [(accum.pendingOps.length, reply)]
        payloadBytes := accum.payloadBytes + opBytes } (items ++ [(op, opBytes, reply)]) where
  ops := by simp [gathers.ops]
  replies := by
    simp only [gathers.ops, gathers.replies, length_append, length_singleton,
      range_succ, map_append, length_map, map_cons, map_nil]
    rw [zip_append (by simp)]
    rfl

theorem gathers_nil : Gathers ({} : BatchAccum ρ) [] := ⟨rfl, rfl⟩

structure Carries (fired : List (FiredBatch ρ)) (items : List (PendingOp × Nat × ρ)) : Prop where
  ordered : fired.flatMap FiredBatch.answers = items.map fun (op, _, reply) => (some op, reply)
  indexed : ∀ batch ∈ fired, batch.replies.map Prod.fst = List.range batch.replies.length
  ops : fired.flatMap FiredBatch.ops = items.map Prod.fst

theorem Carries.append {first second : List (FiredBatch ρ)} {more : List (PendingOp × Nat × ρ)}
    (left : Carries first items) (right : Carries second more) :
    Carries (first ++ second) (items ++ more) where
  ordered := by simp only [flatMap_append, map_append, left.ordered, right.ordered]
  indexed batch member := by
    rcases List.mem_append.mp member with early | late
    · exact left.indexed batch early
    · exact right.indexed batch late
  ops := by simp only [flatMap_append, map_append, left.ops, right.ops]

theorem Gathers.carries (gathers : Gathers accum items) :
    Carries [⟨accum.pendingOps, accum.dataReplies⟩] items where
  ordered := by
    have answers := gathers.answers []
    simpa using answers
  indexed batch member := by
    rw [List.mem_singleton.mp member]
    exact gathers.indexed
  ops := by simp [gathers.ops]

theorem pushAll_carries (gathers : Gathers accum items) (rest : List (PendingOp × Nat × ρ)) :
    ∃ early late, items ++ rest = early ++ late ∧ Carries (accum.pushAll rest).1 early ∧
      Gathers (accum.pushAll rest).2 late := by
  induction rest generalizing accum items with
  | nil => exact ⟨[], items, by simp, ⟨rfl, by simp [BatchAccum.pushAll], rfl⟩, gathers⟩
  | cons item rest ih =>
    obtain ⟨op, opBytes, reply⟩ := item
    by_cases fires : shouldFire accum.pendingOps.length accum.payloadBytes opBytes = true
    · -- What was gathered so far makes a batch, and the item starts the next one.
      obtain ⟨early, late, whole, carries, left⟩ := ih (gathers_nil.push op opBytes reply)
      refine ⟨items ++ early, late, ?_, ?_, ?_⟩
      · rw [append_assoc, ← whole]
        rfl
      · simpa [BatchAccum.pushAll, BatchAccum.pushOrFire, fires] using
          gathers.carries.append carries
      · simpa [BatchAccum.pushAll, BatchAccum.pushOrFire, fires] using left
    · obtain ⟨early, late, whole, carries, left⟩ := ih (gathers.push op opBytes reply)
      refine ⟨early, late, ?_, ?_, ?_⟩
      · rw [← whole]
        simp
      · simpa [BatchAccum.pushAll, BatchAccum.pushOrFire, fires] using carries
      · simpa [BatchAccum.pushAll, BatchAccum.pushOrFire, fires] using left

theorem muxWindow_lossless (msgs : List (MuxMsg ρ)) : Lossless (muxWindow msgs) msgs := by
  obtain ⟨early, late, whole, carries, left⟩ :=
    pushAll_carries gathers_nil (msgs.filterMap MuxMsg.batched)
  rw [nil_append] at whole
  unfold muxWindow
  dsimp only
  split
  · -- Nothing is left, so everything has gone out on the way and there are no closes.
    rename_i nothing
    obtain ⟨noOps, noCloses⟩ := List.append_eq_nil_iff.mp (List.isEmpty_iff.mp nothing)
    have gone : late = [] := by
      rw [left.ops] at noOps
      exact List.map_eq_nil_iff.mp noOps
    rw [gone, append_nil] at whole
    refine ⟨?_, carries.indexed, ?_⟩
    · rw [carries.ordered, whole]
    · rw [carries.ops, whole, noCloses, append_nil]
  · -- The last batch has the closes behind what is left.
    refine ⟨?_, ?_, ?_⟩
    · rw [flatMap_append, flatMap_singleton, carries.ordered, left.answers, whole,
        map_append]
    · intro batch member
      rcases List.mem_append.mp member with out | last
      · exact carries.indexed batch out
      · rw [List.mem_singleton.mp last]
        exact left.indexed
    · rw [flatMap_append, flatMap_singleton, carries.ops, left.ops, whole,
        map_append, append_assoc]

def opCount (msgs : List (MuxMsg ρ)) : Nat :=
  (msgs.filterMap MuxMsg.batched).length + (msgs.filterMap MuxMsg.closed).length

theorem opCount_eq_zero_iff {msgs : List (MuxMsg ρ)} :
    opCount msgs = 0 ↔ ∀ msg ∈ msgs, msg.plainConnect.isSome = true := by
  rw [opCount, Nat.add_eq_zero_iff, length_eq_zero_iff, length_eq_zero_iff,
    filterMap_eq_nil_iff, filterMap_eq_nil_iff]
  constructor
  · rintro ⟨noReplies, noCloses⟩ msg member
    have unanswered := noReplies msg member
    have unclosed := noCloses msg member
    cases msg <;> simp_all [MuxMsg.batched, MuxMsg.closed, MuxMsg.plainConnect]
  · intro plain
    constructor
    all_goals
      intro msg member
      have connect := plain msg member
      cases msg <;> simp_all [MuxMsg.batched, MuxMsg.closed, MuxMsg.plainConnect]

theorem Lossless.length_ops {fired : List (FiredBatch ρ)} {msgs : List (MuxMsg ρ)}
    (lossless : Lossless fired msgs) : (fired.flatMap FiredBatch.ops).length = opCount msgs := by
  have same := lossless.placed.length_eq
  simpa [opCount] using same

theorem Lossless.append_iff {fired : List (FiredBatch ρ)} {msgs more : List (MuxMsg ρ)}
    (lossless : Lossless fired msgs) :
    Lossless fired (msgs ++ more) ↔ ∀ msg ∈ more, msg.plainConnect.isSome = true := by
  rw [← opCount_eq_zero_iff]
  constructor
  · -- The batches have no operations left for messages that come to any.
    intro both
    have count := lossless.length_ops.symm.trans both.length_ops
    simp only [opCount, filterMap_append, length_append] at count ⊢
    omega
  · intro nothing
    have replies : more.filterMap MuxMsg.batched = [] :=
      List.length_eq_zero_iff.mp (by rw [opCount] at nothing; omega)
    have closes : more.filterMap MuxMsg.closed = [] :=
      List.length_eq_zero_iff.mp (by rw [opCount] at nothing; omega)
    refine ⟨?_, lossless.indexed, ?_⟩
    · rw [filterMap_append, replies, append_nil]
      exact lossless.ordered
    · rw [filterMap_append, filterMap_append, replies, closes, append_nil,
        append_nil]
      exact lossless.placed

def MuxStage.msgs : MuxStage ρ → List (MuxMsg ρ)
  | .idle => []
  | .draining window | .awaiting window => window.msgs
  | .stopped abandoned => abandoned

namespace MuxLoop

def abandons (mux : MuxLoop ρ) : MuxLoopEvent ρ → List (MuxMsg ρ)
  | .run _ _ =>
    match mux.stage, mux.queue, mux.closed with
    | .awaiting window, [], true => window.msgs
    | _, _, _ => []
  | _ => []

def Keeps (mux : MuxLoop ρ) (event : MuxLoopEvent ρ) : Prop :=
  ∀ msg ∈ mux.abandons event, msg.plainConnect.isSome = true

def Settled (mux : MuxLoop ρ) : Prop :=
  mux.queue = [] ∧ (mux.stage = .idle ∨ ∃ abandoned, mux.stage = .stopped abandoned)

structure Accounted (mux : MuxLoop ρ) : Prop where
  whole : ∃ out, Lossless mux.fired out ∧ mux.accepted = out ++ mux.stage.msgs ++ mux.queue
  stopped : ∀ abandoned, mux.stage = .stopped abandoned → mux.queue = [] ∧ mux.closed = true

inductive Change (mux : MuxLoop ρ) : MuxLoopEvent ρ → MuxLoop ρ → Prop
  | sends {msg : MuxMsg ρ} (there : mux.closed = false) :
      Change mux (.send msg)
        { mux with queue := mux.queue ++ [msg], accepted := mux.accepted ++ [msg] }
  | closes : Change mux .close { mux with closed := true }
  | waits {time : Nat} : Change mux (.wait time) { mux with now := mux.now + time }
  | takes {coalesceStep coalesceMax : Nat} {msg : MuxMsg ρ} {queue : List (MuxMsg ρ)}
      {window : CoalesceWindow ρ} (held : mux.queue = msg :: queue)
      (running : ∀ abandoned, mux.stage ≠ .stopped abandoned)
      (gathered : window.msgs = mux.stage.msgs ++ [msg]) :
      Change mux (.run coalesceStep coalesceMax) { mux with queue, stage := .draining window }
  | rests {coalesceStep coalesceMax : Nat} {window : CoalesceWindow ρ} (nothing : mux.queue = [])
      (stage : mux.stage = .draining window) (early : mux.now < window.waitUntil) :
      Change mux (.run coalesceStep coalesceMax) { mux with stage := .awaiting window }
  | fires {coalesceStep coalesceMax : Nat} {window : CoalesceWindow ρ} (nothing : mux.queue = [])
      (stage : mux.stage = .draining window ∨
        mux.stage = .awaiting window ∧ mux.closed = false)
      (due : window.waitUntil ≤ mux.now) :
      Change mux (.run coalesceStep coalesceMax) (mux.fire window.msgs)
  | ends {coalesceStep coalesceMax : Nat} (nothing : mux.queue = []) (stage : mux.stage = .idle)
      (gone : mux.closed = true) :
      Change mux (.run coalesceStep coalesceMax) { mux with stage := .stopped [] }
  | abandons {coalesceStep coalesceMax : Nat} {window : CoalesceWindow ρ}
      (nothing : mux.queue = []) (stage : mux.stage = .awaiting window)
      (gone : mux.closed = true) :
      Change mux (.run coalesceStep coalesceMax) { mux with stage := .stopped window.msgs }

variable {mux after : MuxLoop ρ} {event : MuxLoopEvent ρ}

theorem change_of_step (taken : mux.step event = some after) : Change mux event after := by
  cases event with
  | send msg =>
    obtain ⟨there, taken⟩ := Option.ite_none_left_eq_some.mp taken
    cases taken
    exact .sends (Bool.eq_false_iff.mpr there)
  | close =>
    cases taken
    exact .closes
  | wait time =>
    cases taken
    exact .waits
  | run coalesceStep coalesceMax =>
    simp only [step, run] at taken
    split at taken
    · rename_i stage held
      cases taken
      exact .takes held (by simp [stage]) (by simp [stage, MuxStage.msgs])
    · rename_i stage nothing
      obtain ⟨gone, taken⟩ := Option.ite_none_right_eq_some.mp taken
      cases taken
      exact .ends nothing stage gone
    · rename_i stage held
      cases taken
      exact .takes held (by simp [stage]) (by simp [stage, MuxStage.msgs, CoalesceWindow.push])
    · rename_i window stage nothing
      split at taken
      · rename_i due
        cases taken
        exact .fires nothing (.inl stage) due
      · cases taken
        exact .rests nothing stage (by omega)
    · rename_i stage held
      cases taken
      exact .takes held (by simp [stage]) (by simp [stage, MuxStage.msgs, CoalesceWindow.push])
    · rename_i window stage nothing
      split at taken
      · rename_i gone
        cases taken
        exact .abandons nothing stage gone
      · rename_i there
        obtain ⟨due, taken⟩ := Option.ite_none_right_eq_some.mp taken
        cases taken
        exact .fires nothing (.inr ⟨stage, Bool.eq_false_iff.mpr there⟩) due
    · contradiction

theorem accounted_start : Accounted ({} : MuxLoop ρ) where
  whole := ⟨[], lossless_nil, rfl⟩
  stopped := by simp

theorem Accounted.change (accounted : Accounted mux) (change : Change mux event after) :
    Accounted after := by
  obtain ⟨⟨out, lossless, whole⟩, stopped⟩ := accounted
  cases change with
  | sends there =>
    refine ⟨⟨out, lossless, ?_⟩, ?_⟩
    · simp [whole]
    · intro abandoned stage
      have gone := (stopped abandoned stage).2
      rw [there] at gone
      contradiction
  | closes =>
    refine ⟨⟨out, lossless, whole⟩, ?_⟩
    intro abandoned stage
    exact ⟨(stopped abandoned stage).1, rfl⟩
  | waits => exact ⟨⟨out, lossless, whole⟩, stopped⟩
  | takes held running gathered =>
    refine ⟨⟨out, lossless, ?_⟩, by simp⟩
    rw [whole, held]
    simp [MuxStage.msgs, gathered]
  | rests nothing stage early =>
    refine ⟨⟨out, lossless, ?_⟩, by simp⟩
    rw [whole, stage]
    rfl
  | @fires _ _ window nothing stage due =>
    have gathered : mux.stage.msgs = window.msgs := by
      rcases stage with stage | ⟨stage, -⟩ <;> rw [stage] <;> rfl
    refine ⟨⟨out ++ window.msgs, lossless.append (muxWindow_lossless _), ?_⟩, by simp [fire]⟩
    rw [gathered, nothing] at whole
    simp [fire, whole, nothing, MuxStage.msgs]
  | ends nothing stage gone =>
    refine ⟨⟨out, lossless, ?_⟩, fun _ _ => ⟨nothing, gone⟩⟩
    rw [whole, stage]
    rfl
  | abandons nothing stage gone =>
    refine ⟨⟨out, lossless, ?_⟩, fun _ _ => ⟨nothing, gone⟩⟩
    rw [whole, stage]
    rfl

def alone (_ : MuxLoop ρ) : MuxLoopEvent ρ → Prop
  | .wait _ | .run _ _ => True
  | _ => False

def CanSettle (mux : MuxLoop ρ) : Prop :=
  ∃ final, Reachable step (fun mux event => mux.Keeps event ∧ mux.alone event) mux final ∧
    final.Settled ∧ final.accepted = mux.accepted

theorem keeps_of_open (there : mux.closed = false) (event : MuxLoopEvent ρ) :
    mux.Keeps event := by
  intro msg given
  unfold abandons at given
  split at given
  · simp [there] at given
  · simp at given

theorem CanSettle.of_step (there : mux.closed = false) (taken : mux.step event = some after)
    (own : mux.alone event) (same : after.accepted = mux.accepted) (later : after.CanSettle) :
    mux.CanSettle := by
  obtain ⟨final, reached, settled, accepted⟩ := later
  have first : Reachable step (fun mux event => mux.Keeps event ∧ mux.alone event) mux after :=
    Reachable.begin.next ⟨keeps_of_open there event, own⟩ taken
  exact ⟨final, first.trans reached, settled, accepted.trans same⟩

theorem canSettle_of_empty {window : CoalesceWindow ρ} (there : mux.closed = false)
    (nothing : mux.queue = [])
    (stage : mux.stage = .draining window ∨ mux.stage = .awaiting window) : mux.CanSettle := by
  have waited : mux.step (.wait window.waitUntil) =
      some { mux with now := mux.now + window.waitUntil } := rfl
  have fires : step { mux with now := mux.now + window.waitUntil } (.run 0 0) =
      some (fire { mux with now := mux.now + window.waitUntil } window.msgs) := by
    rcases stage with stage | stage <;> simp [step, run, stage, nothing, there]
  refine CanSettle.of_step there waited trivial rfl ?_
  refine CanSettle.of_step there fires trivial rfl ?_
  exact ⟨_, .begin, ⟨nothing, .inl rfl⟩, rfl⟩

theorem canSettle_of_draining {queue : List (MuxMsg ρ)} {window : CoalesceWindow ρ}
    (there : mux.closed = false) (held : mux.queue = queue) (stage : mux.stage = .draining window) :
    mux.CanSettle := by
  induction queue generalizing mux window with
  | nil => exact canSettle_of_empty there held (.inl stage)
  | cons msg queue ih =>
    have takes : mux.step (.run 0 0) = some { mux with
        queue, stage := .draining (window.push mux.now msg) } := by
      simp [step, run, stage, held]
    refine CanSettle.of_step there takes trivial rfl ?_
    exact ih there rfl rfl

theorem canSettle (accounted : Accounted mux) (there : mux.closed = false) : mux.CanSettle := by
  cases stage : mux.stage with
  | stopped abandoned =>
    have gone := (accounted.stopped abandoned stage).2
    rw [there] at gone
    contradiction
  | draining window => exact canSettle_of_draining there rfl stage
  | awaiting window =>
    cases held : mux.queue with
    | nil => exact canSettle_of_empty there held (.inr stage)
    | cons msg queue =>
      have takes : mux.step (.run 0 0) = some { mux with
          queue, stage := .draining (window.push mux.now msg) } := by
        simp [step, run, stage, held]
      refine CanSettle.of_step there takes trivial rfl ?_
      exact canSettle_of_draining there rfl rfl
  | idle =>
    cases held : mux.queue with
    | nil => exact ⟨mux, .begin, ⟨held, .inl stage⟩, rfl⟩
    | cons msg queue =>
      have takes : mux.step (.run 0 0) = some { mux with
          queue
          stage := .draining
            { msgs := [msg]
              coalesceStep := 0
              hardDeadline := mux.now
              softDeadline := mux.now } } := by
        simp [step, run, stage, held]
      refine CanSettle.of_step there takes trivial rfl ?_
      exact canSettle_of_draining there rfl rfl

theorem plain_of_reachable (reached : Reachable step Keeps ({} : MuxLoop ρ) mux) :
    ∀ abandoned, mux.stage = .stopped abandoned →
      ∀ msg ∈ abandoned, msg.plainConnect.isSome = true := by
  refine reached.invariant (fun mux => ∀ abandoned, mux.stage = .stopped abandoned →
    ∀ msg ∈ abandoned, msg.plainConnect.isSome = true) (by simp) ?_
  intro mux after event plain permitted taken
  cases change_of_step taken with
  | sends | closes | waits => exact plain
  | takes | rests | fires => simp [fire]
  | ends nothing stage gone =>
    intro abandoned same
    obtain rfl := MuxStage.stopped.inj same
    simp
  | abandons nothing stage gone =>
    intro abandoned same
    obtain rfl := MuxStage.stopped.inj same
    simpa [Keeps, MuxLoop.abandons, stage, nothing, gone] using permitted

theorem stopped_of_not_keeps (taken : mux.step event = some after) (gives : ¬ mux.Keeps event) :
    ∃ window, after = { mux with stage := .stopped window.msgs } ∧ mux.queue = [] ∧
      mux.stage = .awaiting window ∧ ¬ ∀ msg ∈ window.msgs, msg.plainConnect.isSome = true := by
  unfold Keeps MuxLoop.abandons at gives
  split at gives
  · split at gives
    · rename_i window stage nothing gone
      refine ⟨window, ?_, nothing, stage, gives⟩
      simpa [step, run, stage, nothing, gone] using taken.symm
    · simp at gives
  · simp at gives

/--
No message but a plain connect is lost, unless the last sender goes away while the loop waits for
more.
-/
theorem mux_lossless (reached : Reachable step Keeps ({} : MuxLoop ρ) mux) :
    (mux.Settled → Lossless mux.fired mux.accepted) ∧
      (mux.closed = false → mux.CanSettle) ∧
      ∀ event after, mux.step event = some after → ¬ mux.Keeps event →
        after.Settled ∧ ¬ Lossless after.fired after.accepted := by
  have accounted : Accounted mux := reached.invariant Accounted accounted_start
    fun accounted _ taken => accounted.change (change_of_step taken)
  obtain ⟨out, lossless, whole⟩ := accounted.whole
  refine ⟨?_, canSettle accounted, ?_⟩
  · -- Nothing is in the channel, and nothing but plain connects is in a window.
    rintro ⟨nothing, stage⟩
    rw [whole, nothing, append_nil]
    rcases stage with idle | ⟨abandoned, stopped⟩
    · rw [idle]
      simpa [MuxStage.msgs] using lossless
    · rw [stopped]
      exact lossless.append_iff.mpr (plain_of_reachable reached abandoned stopped)
  · -- The batches carry what came before the window, so they do not carry the window too.
    intro event after taken gives
    obtain ⟨window, rfl, nothing, stage, lost⟩ := stopped_of_not_keeps taken gives
    refine ⟨⟨nothing, .inr ⟨_, rfl⟩⟩, ?_⟩
    intro kept
    rw [nothing, append_nil, stage] at whole
    rw [whole] at kept
    exact lost (lossless.append_iff.mp kept)

theorem mux_lossless_in_time :
    ∃ mux : MuxLoop Nat, Reachable step Keeps {} mux ∧ mux.accepted = [.close []] ∧
      mux.fired.map FiredBatch.ops = [[closeOp []]] ∧ Lossless mux.fired mux.accepted := by
  obtain ⟨mux, is, run⟩ : ∃ mux : MuxLoop Nat,
      mux = { now := 50, fired := [⟨[closeOp []], []⟩], accepted := [.close []] } ∧
      runSteps step {} [.send (.close []), .run 50 300, .run 50 300, .wait 50, .run 50 300] =
        some mux := ⟨_, rfl, rfl⟩
  have reached : Reachable step Keeps {} mux := by
    refine Reachable.runSteps _ .begin ?_ run
    exact ⟨keeps_of_open rfl _, keeps_of_open rfl _, keeps_of_open rfl _, keeps_of_open rfl _,
      keeps_of_open rfl _, trivial⟩
  have lossless := (mux_lossless reached).1
  subst is
  exact ⟨_, reached, rfl, rfl, lossless ⟨rfl, .inl rfl⟩⟩

theorem close_lost_in_window :
    ∃ mux : MuxLoop Nat, Reachable step (fun _ _ => True) {} mux ∧ mux.Settled ∧
      mux.accepted = [.close []] ∧ mux.fired = [] ∧ ¬ Lossless mux.fired mux.accepted := by
  have run : runSteps step ({} : MuxLoop Nat)
      [.send (.close []), .run 50 300, .run 50 300, .close, .run 50 300] =
        some { closed := true, stage := .stopped [.close []], accepted := [.close []] } := rfl
  refine ⟨_, Reachable.runSteps _ .begin (permits_of_forall_mem (fun _ _ _ => trivial) _) run,
    ⟨rfl, .inr ⟨_, rfl⟩⟩, rfl, rfl, ?_⟩
  intro lossless
  have count := lossless.length_ops
  simp [opCount, MuxMsg.batched, MuxMsg.closed] at count

end MuxLoop

end Gvpn
