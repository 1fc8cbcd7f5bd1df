import Gvpn.TunnelClient.Mux
import Gvpn.TunnelNode.Batch

/-! Every answer of a batch stands at the position of its entry. -/

namespace Gvpn

open List Option

def offered : List View → Nat
  | [] => 0
  | view :: later =>
    let taken := min view.readBuf.length tcpDrainMaxBytes
    if taken = 0 ∨ tcpDrainMaxBytes ≤ taken ∨ view.rawEof = true then taken
    else taken + offered later

def offeredBeforeLast (views : Nat → Views) (drains : List (Nat × Text × Option Nat)) : Nat :=
  (drains.dropLast.map fun drain => offered (views drain.1).all).sum

theorem tcpDrainMaxBytes_pos : 0 < tcpDrainMaxBytes := by decide

variable {budget : Nat}

theorem drainLoop_length {allData : Bytes} (views : List View) (within : allData.length < budget) :
    (drainLoop budget allData false views).1.length =
      min budget (allData.length + offered views) := by
  induction views generalizing allData with
  | nil =>
    simp only [drainLoop, offered]
    omega
  | cons view later ih =>
    have capPos := tcpDrainMaxBytes_pos
    simp only [drainLoop, offered, drainNow, Bool.false_or]
    by_cases fits : view.readBuf.length ≤ min (budget - allData.length) tcpDrainMaxBytes
    · -- The whole buffer is taken, so the amounts agree and the exits do too.
      have taken : min view.readBuf.length tcpDrainMaxBytes = view.readBuf.length := by omega
      simp only [if_pos fits, taken]
      by_cases empty : view.readBuf = []
      · simp only [empty, isEmpty_nil, if_true, length_nil, true_or]
        omega
      · have some_ : 0 < view.readBuf.length := List.length_pos_iff.mpr empty
        have notZero : view.readBuf.length ≠ 0 := by omega
        simp only [List.isEmpty_iff, empty, if_false, length_append, notZero, false_or]
        by_cases last : view.rawEof = true ∨ tcpDrainMaxBytes ≤ view.readBuf.length
        · have exits : view.rawEof = true ∨ tcpDrainMaxBytes ≤ view.readBuf.length ∨
              budget ≤ allData.length + view.readBuf.length := by
            rcases last with ended | capped
            · exact .inl ended
            · exact .inr (.inl capped)
          rw [if_pos exits, if_pos (Or.comm.mp last)]
          simp only [length_append]
          omega
        · rw [if_neg (fun either => last (Or.comm.mp either))]
          by_cases full : budget ≤ allData.length + view.readBuf.length
          · rw [if_pos (.inr (.inr full))]
            simp only [length_append]
            omega
          · have goesOn : ¬ (view.rawEof = true ∨ tcpDrainMaxBytes ≤ view.readBuf.length ∨
                budget ≤ allData.length + view.readBuf.length) := by
              rw [not_or] at last
              simp only [not_or]
              exact ⟨last.1, last.2, full⟩
            have open_ : view.rawEof = false := by
              rw [not_or] at last
              simpa using last.1
            rw [if_neg goesOn, open_, ih (by rw [length_append]; omega), length_append]
            omega
    · -- The buffer is cut, either at the cap of one drain or at the budget.
      simp only [if_neg fits]
      have cut : (view.readBuf.take (min (budget - allData.length) tcpDrainMaxBytes)).length =
          min (budget - allData.length) tcpDrainMaxBytes := by
        rw [length_take]
        omega
      have taken : view.readBuf.take (min (budget - allData.length) tcpDrainMaxBytes) ≠ [] := by
        intro empty
        rw [empty, length_nil] at cut
        omega
      simp only [List.isEmpty_iff, taken, if_false, length_append, cut]
      by_cases capped : tcpDrainMaxBytes ≤ budget - allData.length
      · rw [if_pos (.inr (.inl (by omega))), if_pos (.inr (.inl (by omega)))]
        simp only [length_append, cut]
        omega
      · rw [if_pos (.inr (.inr (by omega)))]
        simp only [length_append, cut]
        split <;> omega

theorem drainLoop_length_start (views : List View) (positive : 0 < budget) :
    (drainLoop budget [] false views).1.length = min budget (offered views) := by
  have started := drainLoop_length views (show ([] : Bytes).length < budget from positive)
  simpa using started

theorem tcpDrainPass_isPrefix (views : Nat → Views) (budget : Nat)
    (drains : List (Nat × Text × Option Nat)) :
    (tcpDrainPass views budget drains).map Prod.fst <+: drains.map Prod.fst := by
  induction drains generalizing budget with
  | nil => simp [tcpDrainPass]
  | cons drain rest ih =>
    simp only [tcpDrainPass, map_cons]
    split
    · -- The pass ends here, and one answer is the start of any longer list.
      exact List.cons_prefix_cons.mpr ⟨rfl, nil_prefix⟩
    · exact List.cons_prefix_cons.mpr ⟨rfl, ih _⟩

theorem tcpDrainPass_complete_iff (views : Nat → Views) (positive : 0 < budget)
    (drains : List (Nat × Text × Option Nat)) :
    (tcpDrainPass views budget drains).length = drains.length ↔
      offeredBeforeLast views drains < budget := by
  induction drains generalizing budget with
  | nil => simp [tcpDrainPass, offeredBeforeLast, positive]
  | cons drain rest ih =>
    obtain ⟨i, sid, seq⟩ := drain
    have drained := drainLoop_length_start (views i).all positive
    simp only [tcpDrainPass, length_cons]
    cases rest with
    | nil => split <;> simp [tcpDrainPass, offeredBeforeLast, positive]
    | cons next others =>
      have sum : offeredBeforeLast views ((i, sid, seq) :: next :: others) =
          offered (views i).all + offeredBeforeLast views (next :: others) := by
        simp [offeredBeforeLast]
      split
      · rename_i spent
        simp only [length_nil, length_cons]
        omega
      · rename_i left
        rw [Nat.add_right_cancel_iff, ih (by omega)]
        omega

theorem mem_tcpDrainPass {views : Nat → Views}
    {drains : List (Nat × Text × Option Nat)} {i : Nat} {response : TunnelResponse}
    (member : (i, response) ∈ tcpDrainPass views budget drains) :
    ∃ sid seq left, (i, sid, seq) ∈ drains ∧
      response = tcpDrainResponse sid (drainLoop left [] false (views i).all).1
        (drainLoop left [] false (views i).all).2 seq := by
  induction drains generalizing budget with
  | nil => simp [tcpDrainPass] at member
  | cons drain rest ih =>
    obtain ⟨at_, sid, seq⟩ := drain
    simp only [tcpDrainPass, mem_cons, Prod.mk.injEq] at member
    rcases member with ⟨rfl, responseIs⟩ | member
    · exact ⟨sid, seq, budget, mem_cons_self, responseIs⟩
    · split at member
      · simp at member
      · obtain ⟨sid, seq, left, listed, responseIs⟩ := ih member
        exact ⟨sid, seq, left, mem_cons_of_mem _ listed, responseIs⟩

theorem phase1Loop_index (decodeError : Text → Text) (env : BatchEnv) (i : Nat) (state : AppState)
    (ops : List BatchOp) :
    (phase1Loop decodeError env i state ops).map (fun entry => entry.index) =
      List.range' i ops.length := by
  induction ops generalizing i state with
  | nil => rfl
  | cons op rest ih =>
    simp only [phase1Loop, map_cons, ih, length_cons, range'_succ]
    cases (phase1 decodeError (env.interfere i state) op).1 <;> rfl

variable (env : BatchEnv)

theorem joined_perm (entries : List Entry) : (joined env entries).Perm entries := by
  have reordered : (joined env entries).Perm
      (entries.filter (fun entry => !entry.spawned) ++
        entries.filter fun entry => entry.spawned) := (env.joins _).append_left _
  refine reordered.trans (List.perm_append_comm.trans ?_)
  exact filter_append_perm (fun entry : Entry => entry.spawned) entries

theorem entries_split (entries : List Entry) :
    ((entries.filterMap Entry.result).map Prod.fst ++ (entries.filterMap Entry.tcp).map Prod.fst ++
      (entries.filterMap Entry.udp).map Prod.fst).Perm
      (entries.map fun entry => entry.index) := by
  induction entries with
  | nil => simp
  | cons entry rest ih =>
    obtain ⟨index, spawned, outcome⟩ := entry
    cases outcome with
    | answered response =>
      simp only [filterMap_cons, Entry.result, Entry.tcp, Entry.udp, map_cons,
        cons_append] at ih ⊢
      exact ih.cons index
    | tcpDrain sid seq =>
      simp only [filterMap_cons, Entry.result, Entry.tcp, Entry.udp, map_cons,
        append_assoc, cons_append] at ih ⊢
      exact List.perm_middle.trans (ih.cons index)
    | udpDrain sid seq =>
      exact List.perm_middle.trans (ih.cons index)

def Outcome.answer (env : BatchEnv) (i left : Nat) : Outcome → TunnelResponse
  | .answered response => response
  | .tcpDrain sid seq =>
    let (data, eof) := drainLoop left [] false (env.tcpViews i).all
    tcpDrainResponse sid data eof seq
  | .udpDrain sid seq => udpDrainResponse sid (env.udpView i).1 (env.udpView i).2 seq

theorem mem_batchResults {env : BatchEnv} {entries : List Entry} {i : Nat}
    {response : TunnelResponse} (member : (i, response) ∈ batchResults env entries) :
    ∃ entry ∈ entries, entry.index = i ∧ ∃ left, response = entry.outcome.answer env i left := by
  have back : ∀ entry ∈ joined env entries, entry ∈ entries := fun entry inside =>
    (joined_perm env entries).subset inside
  simp only [batchResults, mem_append] at member
  -- The answer came from one of three places.
  rcases member with (known | drained) | drained
  · obtain ⟨entry, inside, isResult⟩ := List.mem_filterMap.mp known
    refine ⟨entry, back entry inside, ?_⟩
    cases outcome : entry.outcome with
    | answered answer =>
      simp only [Entry.result, outcome, some.injEq, Prod.mk.injEq] at isResult
      exact ⟨isResult.1, 0, isResult.2.symm⟩
    | tcpDrain sid seq => simp [Entry.result, outcome] at isResult
    | udpDrain sid seq => simp [Entry.result, outcome] at isResult
  · obtain ⟨sid, seq, left, listed, responseIs⟩ := mem_tcpDrainPass drained
    obtain ⟨entry, inside, isTcp⟩ := List.mem_filterMap.mp listed
    refine ⟨entry, back entry inside, ?_⟩
    cases outcome : entry.outcome with
    | answered answer => simp [Entry.tcp, outcome] at isTcp
    | udpDrain name number => simp [Entry.tcp, outcome] at isTcp
    | tcpDrain name number =>
      simp only [Entry.tcp, outcome, some.injEq, Prod.mk.injEq] at isTcp
      obtain ⟨indexIs, rfl, rfl⟩ := isTcp
      exact ⟨indexIs, left, responseIs⟩
  · obtain ⟨⟨at_, sid, seq⟩, listed, pairIs⟩ := List.mem_map.mp drained
    simp only [Prod.mk.injEq] at pairIs
    obtain ⟨rfl, responseIs⟩ := pairIs
    obtain ⟨entry, inside, isUdp⟩ := List.mem_filterMap.mp listed
    refine ⟨entry, back entry inside, ?_⟩
    cases outcome : entry.outcome with
    | answered answer => simp [Entry.udp, outcome] at isUdp
    | tcpDrain name number => simp [Entry.udp, outcome] at isUdp
    | udpDrain name number =>
      simp only [Entry.udp, outcome, some.injEq, Prod.mk.injEq] at isUdp
      obtain ⟨indexIs, rfl, rfl⟩ := isUdp
      exact ⟨indexIs, 0, responseIs.symm⟩

def tcpDrains (env : BatchEnv) (entries : List Entry) : List (Nat × Text × Option Nat) :=
  (joined env entries).filterMap Entry.tcp

theorem batchResults_tags (entries : List Entry) :
    (batchResults env entries).map Prod.fst =
      ((joined env entries).filterMap Entry.result).map Prod.fst ++
        (tcpDrainPass env.tcpViews batchResponseBudget (tcpDrains env entries)).map Prod.fst ++
        ((joined env entries).filterMap Entry.udp).map Prod.fst := by
  simp [batchResults, udpDrainPass, tcpDrains, Function.comp_def]

theorem batchResults_length (entries : List Entry) :
    (batchResults env entries).length + (tcpDrains env entries).length =
      entries.length +
        (tcpDrainPass env.tcpViews batchResponseBudget (tcpDrains env entries)).length := by
  have total := ((entries_split (joined env entries)).trans
    ((joined_perm env entries).map _)).length_eq
  have count := congrArg List.length (batchResults_tags env entries)
  have drainsAre : (joined env entries).filterMap Entry.tcp = tcpDrains env entries := rfl
  simp only [length_append, length_map, drainsAre] at total count
  omega

theorem batchResults_perm {env : BatchEnv} {entries : List Entry}
    (complete : (tcpDrainPass env.tcpViews batchResponseBudget (tcpDrains env entries)).length =
      (tcpDrains env entries).length) :
    ((batchResults env entries).map Prod.fst).Perm (entries.map fun entry => entry.index) := by
  have reached := tcpDrainPass_isPrefix env.tcpViews batchResponseBudget (tcpDrains env entries)
  have same := reached.eq_of_length (by simpa using complete)
  rw [batchResults_tags, same]
  exact (entries_split (joined env entries)).trans ((joined_perm env entries).map _)

def ProducedFor (decodeError : Text → Text) (env : BatchEnv) (state : AppState)
    (ops : List BatchOp) (i : Nat) (response : TunnelResponse) : Prop :=
  ∃ entry left, (phase1Loop decodeError env 0 state ops)[i]? = some entry ∧
    response = entry.outcome.answer env i left

structure Aligned (decodeError : Text → Text) (env : BatchEnv) (state : AppState)
    (ops : List BatchOp) (answers : List TunnelResponse) : Prop where
  length : answers.length = ops.length
  produced : ∀ i, i < ops.length → ∃ response, answers[i]? = some response ∧
    ProducedFor decodeError env state ops i response

def DispatchedToOwn {ρ : Type} (decodeError : Text → Text) (env : BatchEnv) (state : AppState)
    (scriptId : Text) (msgs : List (MuxMsg ρ)) (fired : FiredBatch ρ)
    (answers : List TunnelResponse) : Prop :=
  ∀ (k : Nat) (delivered : ρ × Except Text (TunnelResponse × Text)),
    (dispatchReplies scriptId fired.replies answers)[k]? = some delivered →
    ∃ (idx : Nat) (reply : ρ) (pending : PendingOp) (opBytes : Nat) (response : TunnelResponse),
      fired.replies[k]? = some (idx, reply) ∧ delivered = (reply, Except.ok (response, scriptId)) ∧
      (pending, opBytes, reply) ∈ msgs.filterMap MuxMsg.batched ∧
      fired.ops[idx]? = some pending ∧
      ProducedFor decodeError env state (fired.ops.map encodePending) idx response

def WellIndexed {ρ : Type} (items : List (PendingOp × Nat × ρ)) (ops : List PendingOp)
    (replies : List (Nat × ρ)) : Prop :=
  ∀ idx reply, (idx, reply) ∈ replies →
    ∃ pending opBytes, (pending, opBytes, reply) ∈ items ∧ ops[idx]? = some pending

variable {ρ : Type}

variable {items : List (PendingOp × Nat × ρ)}

theorem WellIndexed.append {ops more : List PendingOp} {replies : List (Nat × ρ)}
    (indexed : WellIndexed items ops replies) : WellIndexed items (ops ++ more) replies := by
  intro idx reply member
  obtain ⟨pending, opBytes, handed, found⟩ := indexed idx reply member
  obtain ⟨bound, -⟩ := List.getElem?_eq_some_iff.mp found
  exact ⟨pending, opBytes, handed, by rw [getElem?_append_left bound, found]⟩

theorem pushOrFire_wellIndexed {accum : BatchAccum ρ} {op : PendingOp} {opBytes : Nat} {reply : ρ}
    (indexed : WellIndexed items accum.pendingOps accum.dataReplies)
    (handed : (op, opBytes, reply) ∈ items) :
    (∀ fired ∈ (accum.pushOrFire op opBytes reply).1, WellIndexed items fired.ops fired.replies) ∧
      WellIndexed items (accum.pushOrFire op opBytes reply).2.pendingOps
        (accum.pushOrFire op opBytes reply).2.dataReplies := by
  have filed : ∀ ops replies, WellIndexed items ops replies →
      WellIndexed items (ops ++ [op]) (replies ++ [(ops.length, reply)]) := by
    intro ops replies before idx channel member
    rcases List.mem_append.mp member with old | new
    · exact before.append idx channel old
    · simp only [mem_singleton, Prod.mk.injEq] at new
      obtain ⟨rfl, rfl⟩ := new
      exact ⟨op, opBytes, handed, by simp⟩
  have nothing : WellIndexed items [] ([] : List (Nat × ρ)) := by simp [WellIndexed]
  unfold BatchAccum.pushOrFire
  by_cases fires : shouldFire accum.pendingOps.length accum.payloadBytes opBytes = true
  · simp only [if_pos fires, mem_singleton, forall_eq]
    exact ⟨indexed, filed [] [] nothing⟩
  · simp only [if_neg fires]
    exact ⟨by simp, filed _ _ indexed⟩

theorem pushAll_wellIndexed {rest : List (PendingOp × Nat × ρ)} {accum : BatchAccum ρ}
    (indexed : WellIndexed items accum.pendingOps accum.dataReplies)
    (handed : ∀ item ∈ rest, item ∈ items) :
    (∀ fired ∈ (accum.pushAll rest).1, WellIndexed items fired.ops fired.replies) ∧
      WellIndexed items (accum.pushAll rest).2.pendingOps (accum.pushAll rest).2.dataReplies := by
  induction rest generalizing accum with
  | nil => exact ⟨by simp [BatchAccum.pushAll], indexed⟩
  | cons item rest ih =>
    obtain ⟨op, opBytes, reply⟩ := item
    obtain ⟨firedNow, indexedNow⟩ := pushOrFire_wellIndexed indexed
      (handed (op, opBytes, reply) mem_cons_self)
    obtain ⟨firedLater, indexedLater⟩ := ih indexedNow
      fun item member => handed item (mem_cons_of_mem _ member)
    refine ⟨?_, indexedLater⟩
    intro fired member
    rcases List.mem_append.mp member with now | later
    · exact firedNow fired now
    · exact firedLater fired later

theorem muxWindow_wellIndexed {msgs : List (MuxMsg ρ)} {fired : FiredBatch ρ}
    (member : fired ∈ muxWindow msgs) :
    WellIndexed (msgs.filterMap MuxMsg.batched) fired.ops fired.replies := by
  have nothing : WellIndexed (msgs.filterMap MuxMsg.batched) ({} : BatchAccum ρ).pendingOps
      ({} : BatchAccum ρ).dataReplies := by simp [WellIndexed]
  obtain ⟨firedEarly, indexed⟩ := pushAll_wellIndexed nothing fun item inside => inside
  unfold muxWindow at member
  simp only at member
  split at member
  · exact firedEarly fired member
  · rcases List.mem_append.mp member with early | last
    · exact firedEarly fired early
    · -- The last batch carries the closes behind everything else.
      rw [List.mem_singleton.mp last]
      exact indexed.append

section

variable (decodeError : Text → Text) (env : BatchEnv) (state : AppState)

theorem handleBatch_aligned {ops : List BatchOp}
    (complete : offeredBeforeLast env.tcpViews
      (tcpDrains env (phase1Loop decodeError env 0 state ops)) < batchResponseBudget) :
    Aligned decodeError env state ops (handleBatch decodeError env state ops) := by
  set entries := phase1Loop decodeError env 0 state ops with entriesAre
  have indices : entries.map (fun entry => entry.index) = List.range ops.length := by
    rw [entriesAre, phase1Loop_index, range_eq_range']
  have reached := (tcpDrainPass_complete_iff env.tcpViews (by decide) _).mpr complete
  have numbered : ((batchResults env entries).map Prod.fst).Perm (List.range ops.length) := by
    rw [← indices]
    exact batchResults_perm reached
  refine ⟨?_, ?_⟩
  · have := numbered.length_eq
    simpa [handleBatch, ← entriesAre, length_insertionSort] using this
  · intro i inside
    obtain ⟨response, member, found⟩ := getElem?_insertionSort_fst numbered inside
    obtain ⟨entry, listed, indexIs, left, responseIs⟩ := mem_batchResults member
    obtain ⟨position, bound, entryIs⟩ := getElem_of_mem listed
    have same : position = i := by
      have at_ : (entries.map fun entry => entry.index)[position]? = some i := by
        simp [getElem?_eq_getElem bound, entryIs, indexIs]
      have count : entries.length = ops.length := by
        have := congrArg List.length indices
        simpa using this
      rw [indices, getElem?_range (by omega)] at at_
      exact some.inj at_
    subst same
    exact ⟨response, found, entry, left, by rw [← entriesAre, getElem?_eq_getElem bound, entryIs],
      responseIs⟩

theorem dispatched_of_aligned (scriptId : Text) {msgs : List (MuxMsg ρ)} {fired : FiredBatch ρ}
    {answers : List TunnelResponse} (member : fired ∈ muxWindow msgs)
    (aligned : Aligned decodeError env state (fired.ops.map encodePending) answers) :
    DispatchedToOwn decodeError env state scriptId msgs fired answers := by
  intro k delivered found
  simp only [dispatchReplies, getElem?_map, map_eq_some_iff] at found
  obtain ⟨⟨idx, reply⟩, filed, deliveredIs⟩ := found
  obtain ⟨pending, opBytes, handed, opIs⟩ :=
    muxWindow_wellIndexed member idx reply (mem_of_getElem? filed)
  obtain ⟨bound, -⟩ := List.getElem?_eq_some_iff.mp opIs
  obtain ⟨response, answer, produced⟩ := aligned.produced idx (by simpa using bound)
  refine ⟨idx, reply, pending, opBytes, response, filed, ?_, handed, opIs, produced⟩
  rw [← deliveredIs]
  simp [answer]

/--
A batch has one answer for each entry, at its place, exactly if its TCP drains do not use up the
budget early: behind that, sessions get none and the later answers move up.
-/
theorem handleBatch_aligned_iff {ρ : Type} (scriptId : Text) (ops : List BatchOp) :
    (Aligned decodeError env state ops (handleBatch decodeError env state ops) ∧
      ∀ (msgs : List (MuxMsg ρ)) (fired : FiredBatch ρ), fired ∈ muxWindow msgs →
        fired.ops.map encodePending = ops →
        DispatchedToOwn decodeError env state scriptId msgs fired
          (handleBatch decodeError env state ops)) ↔
      offeredBeforeLast env.tcpViews (tcpDrains env (phase1Loop decodeError env 0 state ops)) <
        batchResponseBudget := by
  constructor
  · intro ⟨aligned, _⟩
    rw [← tcpDrainPass_complete_iff env.tcpViews (by decide)]
    have count := batchResults_length env (phase1Loop decodeError env 0 state ops)
    have entries := congrArg List.length (phase1Loop_index decodeError env 0 state ops)
    have answers := aligned.length
    simp only [handleBatch, length_map, length_insertionSort] at answers
    simp only [length_map, length_range'] at entries
    omega
  · intro complete
    have aligned := handleBatch_aligned decodeError env state complete
    refine ⟨aligned, ?_⟩
    intro msgs fired member opsAre
    subst opsAre
    exact dispatched_of_aligned decodeError env state scriptId member aligned

end

theorem drainLoop_full {buffer : Bytes} (full : buffer.length = tcpDrainMaxBytes)
    (enough : tcpDrainMaxBytes ≤ budget) (later : List View) :
    drainLoop budget [] false (⟨false, buffer⟩ :: later) = (buffer, false) := by
  have some_ : buffer ≠ [] := by
    intro empty
    rw [empty, length_nil] at full
    exact absurd full (by decide)
  simp [drainLoop, drainNow, full, enough, some_]

def crowdedState : AppState where
  sessions name := if name = ['a'] ∨ name = ['b'] ∨ name = ['c'] then some {} else none
  udpSessions _ := none

def crowdedEnv (buffer : Bytes) : BatchEnv where
  interfere _ state := state
  dial _ := { name := [] }
  joinOrder := id
  joins := .refl
  tcpViews i := if i < 2 then ⟨⟨false, buffer⟩, []⟩ else ⟨⟨false, [7]⟩, []⟩
  udpView _ := ([], false)

def crowdedOps : List BatchOp :=
  [{ op := .data, sid := some ['a'] }, { op := .data, sid := some ['b'] },
    { op := .data, sid := some ['c'] }, { op := .close, sid := some ['d'] }]

theorem handleBatch_crowded {buffer : Bytes} (full : buffer.length = tcpDrainMaxBytes) :
    handleBatch id (crowdedEnv buffer) crowdedState crowdedOps =
      [tcpDrainResponse ['a'] buffer false none, tcpDrainResponse ['b'] buffer false none,
        { sid := some ['d'], eof := some true }] := by
  have entries : phase1Loop id (crowdedEnv buffer) 0 crowdedState crowdedOps =
      [⟨0, false, .tcpDrain ['a'] none⟩, ⟨1, false, .tcpDrain ['b'] none⟩,
        ⟨2, false, .tcpDrain ['c'] none⟩,
        ⟨3, false, .answered { sid := some ['d'], eof := some true }⟩] := rfl
  have first : drainLoop batchResponseBudget [] false [⟨false, buffer⟩] = (buffer, false) :=
    drainLoop_full full (by decide) []
  have second : drainLoop (batchResponseBudget - tcpDrainMaxBytes) [] false [⟨false, buffer⟩] =
      (buffer, false) := drainLoop_full full (by decide) []
  have left : batchResponseBudget - tcpDrainMaxBytes ≠ 0 := by decide
  have nothing : batchResponseBudget - tcpDrainMaxBytes - tcpDrainMaxBytes = 0 := by decide
  have results : batchResults (crowdedEnv buffer)
      (phase1Loop id (crowdedEnv buffer) 0 crowdedState crowdedOps) =
      [(3, { sid := some ['d'], eof := some true }),
        (0, tcpDrainResponse ['a'] buffer false none),
        (1, tcpDrainResponse ['b'] buffer false none)] := by
    rw [entries]
    simp [batchResults, joined, crowdedEnv, Entry.result, Entry.tcp, Entry.udp, tcpDrainPass,
      filterMap_cons,
      udpDrainPass, Views.all, first, second, full, left, nothing]
  simp [handleBatch, results, List.insertionSort, List.orderedInsert]

theorem handleBatch_shifted :
    let answers := handleBatch id (crowdedEnv (List.replicate tcpDrainMaxBytes 0)) crowdedState
      crowdedOps
    crowdedOps.length = 4 ∧ answers.length = 3 ∧
      answers[2]? = some { sid := some ['d'], eof := some true } := by
  intro answers
  have answersAre := handleBatch_crowded (length_replicate : (List.replicate
    tcpDrainMaxBytes (0 : UInt8)).length = tcpDrainMaxBytes)
  refine ⟨rfl, ?_, ?_⟩
  · simp only [answers, answersAre, length_cons, length_nil]
  · simp only [answers, answersAre, getElem?_cons_succ, getElem?_cons_zero]

end Gvpn
