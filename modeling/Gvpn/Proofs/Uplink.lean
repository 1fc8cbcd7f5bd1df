import Gvpn.TunnelClient.Send
import Gvpn.TunnelNode.Node

namespace Gvpn

open List Option

def uplinkOf (sid : Text) (op : BatchOp) : Option (Nat × Bytes) :=
  if op.op = .data ∧ op.sid = some sid then
    match op.wseq, decodePayload op.d with
    | some wseq, .ok (byte :: bytes) => some (wseq, byte :: bytes)
    | _, _ => none
  else none

def concerns (sid : Text) (op : BatchOp) : Bool :=
  decide ((op.op = .data ∨ op.op = .close) ∧ op.sid = some sid)

def firstUplink (sid : Text) (order : List BatchOp) : Option Nat :=
  (order.filterMap (uplinkOf sid)).head?.map Prod.fst

structure SameWriter (before after : SessionInner) : Prop where
  written : after.written = before.written
  nextWriteSeq : after.nextWriteSeq = before.nextWriteSeq
  pendingWrites : after.pendingWrites = before.pendingWrites

theorem usableSid_eq_some_iff {sid : Option Text} {name : Text} :
    usableSid sid = some name ↔ sid = some name ∧ name ≠ [] := by
  -- Only a present, nonempty text passes.
  rcases sid with - | - | ⟨first, rest⟩
  · simp [usableSid]
  · simp +contextual [usableSid, eq_comm]
  · simp +contextual [usableSid, eq_comm]

theorem usableSid_of_ne_nil {name : Text} (named : name ≠ []) :
    usableSid (some name) = some name :=
  usableSid_eq_some_iff.mpr ⟨rfl, named⟩

section

variable (decodeError : Text → Text)

variable {op : BatchOp}

theorem phase1Data_state (state : AppState) :
    (phase1Data decodeError state op).2 = state ∨ ∃ sid inner bytes, op.sid = some sid ∧
      decodePayload op.d = .ok bytes ∧ bytes ≠ [] ∧
      (phase1Data decodeError state op).2 = state.setSession sid inner := by
  unfold phase1Data
  split
  · exact .inl rfl
  · rename_i sid usable
    split
    · exact .inl rfl
    · split
      · exact .inl rfl
      · rename_i bytes decoded
        split
        · exact .inl rfl
        · rename_i some_
          exact .inr ⟨sid, _, bytes, (usableSid_eq_some_iff.mp usable).1, decoded,
            by simpa using some_, rfl⟩

theorem phase1_sessions_other {sid : Text} (state : AppState)
    (unrelated : concerns sid op = false) :
    (phase1 decodeError state op).2.sessions sid = state.sessions sid := by
  simp only [concerns, decide_eq_false_iff_not, not_and] at unrelated
  unfold phase1
  cases kind : op.op with
  | connect | connectData | udpOpen | other => rfl
  | data =>
    rcases phase1Data_state decodeError state with same | ⟨name, inner, bytes, named, -, -, wrote⟩
    · exact congrArg (fun state => state.sessions sid) same
    · have differs : sid ≠ name := fun same => unrelated (.inl kind) (same ▸ named)
      dsimp only
      rw [wrote, AppState.setSession_other _ _ differs]
  | udpData =>
    -- A datagram only touches the other table.
    simp only [phase1UdpData]
    split
    · rfl
    · split
      · rfl
      · split
        · rfl
        · split <;> rfl
  | close =>
    simp only [handleClose]
    split
    · rfl
    · rename_i usable
      have named := (usableSid_eq_some_iff.mp usable).1
      exact AppState.setSession_other _ _ fun same => unrelated (.inr kind) (same ▸ named)

theorem phase1_sessions_poll (state : AppState) (poll : op.op = .data)
    (empty : op.d = none) : (phase1 decodeError state op).2.sessions = state.sessions := by
  simp only [phase1, poll]
  rcases phase1Data_state decodeError state with same | ⟨_, _, bytes, _, decoded, some_, _⟩
  · rw [same]
  · rw [empty, decodePayload] at decoded
    cases decoded
    exact absurd rfl some_

theorem phase1_sessions_uplink {sid : Text} {state : AppState}
    {inner : SessionInner} {wseq : Nat} {bytes : Bytes} (named : sid ≠ [])
    (found : state.sessions sid = some inner) (carried : uplinkOf sid op = some (wseq, bytes)) :
    (phase1 decodeError state op).2.sessions sid = some (inner.writeSeq wseq bytes) := by
  unfold uplinkOf at carried
  split at carried
  · rename_i own
    obtain ⟨kind, sidIs⟩ := own
    split at carried
    · rename_i number byte rest numbered decoded
      obtain ⟨rfl, rfl⟩ := carried
      simp [phase1, kind, phase1Data, sidIs, usableSid_of_ne_nil named, found, decoded,
        SessionInner.write, numbered]
    · simp at carried
  · simp at carried

theorem modifySession_sameWriter {sid : Text} {state : AppState} {inner : SessionInner}
    (found : state.sessions sid = some inner) (name : Text) {change : SessionInner → SessionInner}
    (same : ∀ inner, SameWriter inner (change inner)) :
    ∃ after, (state.modifySession name change).sessions sid = some after ∧
      SameWriter inner after := by
  by_cases here : sid = name
  · subst here
    exact ⟨change inner, by simp [AppState.modifySession, found], same inner⟩
  · exact ⟨inner, by rw [AppState.modifySession, AppState.setSession_other _ _ here, found],
      rfl, rfl, rfl⟩

theorem nodeStep_sameWriter {sid : Text} {state : AppState} {inner : SessionInner}
    {event : NodeEvent} (found : state.sessions sid = some inner)
    (kept : event ≠ .dropped sid)
    (quiet : ∀ op, event.entry = some op → concerns sid op = true → op.op = .data ∧ op.d = none) :
    ∃ after, (nodeStep decodeError state event).sessions sid = some after ∧
      SameWriter inner after := by
  cases event with
  | op entry =>
    refine ⟨inner, ?_, rfl, rfl, rfl⟩
    by_cases own : concerns sid entry = true
    · obtain ⟨poll, empty⟩ := quiet entry rfl own
      simp only [nodeStep, phase1_sessions_poll decodeError state poll empty, found]
    · simp only [nodeStep, phase1_sessions_other decodeError state (by simpa using own), found]
  | opened name fresh =>
    refine ⟨inner, ?_, rfl, rfl, rfl⟩
    simp only [nodeStep]
    cases taken : state.sessions name with
    | some other => exact found
    | none =>
      have differs : sid ≠ name := by
        intro same
        rw [← same, found] at taken
        simp at taken
      simp [AppState.setSession_other _ _ differs, found]
  | readerAppend name | readerEof name | drain name =>
    exact modifySession_sameWriter found name fun _ => ⟨rfl, rfl, rfl⟩
  | dropped name =>
    have differs : sid ≠ name := fun same => kept (same ▸ rfl)
    exact ⟨inner, by simp [nodeStep, AppState.setSession_other _ _ differs, found],
      rfl, rfl, rfl⟩

end

variable {inner : SessionInner}

theorem writeSeq_eq_accept {next wseq : Nat} (bytes : Bytes)
    (awaited : inner.nextWriteSeq = some next) (notStale : next ≤ wseq) :
    inner.writeSeq wseq bytes =
      let step := (Reorder.mk next inner.pendingWrites).accept wseq bytes
      { inner with
        written := inner.written ++ step.1.flatten
        nextWriteSeq := some step.2.next
        pendingWrites := step.2.early } := by
  have current : ¬ wseq < next := by omega
  by_cases same : wseq = next
  · simp [SessionInner.writeSeq, awaited, same, Reorder.accept]
  · simp [SessionInner.writeSeq, awaited, current, same, Reorder.accept]

def UplinkTracks (old : Bytes) (payload : Nat → Bytes) : List Nat → SessionInner → Prop
  | [], inner =>
    inner.nextWriteSeq = none ∧ inner.pendingWrites = SeqMap.empty ∧ inner.written = old
  | base :: rest, inner =>
    ∃ next out, inner.nextWriteSeq = some next ∧ inner.written = old ++ out.flatten ∧
      Reorder.Tracks base payload ((base :: rest).toFinset.filter (base ≤ ·))
        ⟨next, inner.pendingWrites⟩ out

variable {old : Bytes} {payload : Nat → Bytes}

theorem UplinkTracks.sameWriter {arrived : List Nat}
    {before after : SessionInner} (tracks : UplinkTracks old payload arrived before)
    (same : SameWriter before after) : UplinkTracks old payload arrived after := by
  cases arrived with
  | nil => simpa [UplinkTracks, same.written, same.nextWriteSeq, same.pendingWrites] using tracks
  | cons base rest =>
    simpa [UplinkTracks, same.written, same.nextWriteSeq, same.pendingWrites] using tracks

theorem UplinkTracks.writeSeq {arrived : List Nat}
    (tracks : UplinkTracks old payload arrived inner) {wseq : Nat}
    (fresh : wseq ∉ arrived) :
    UplinkTracks old payload (arrived ++ [wseq]) (inner.writeSeq wseq (payload wseq)) := by
  cases arrived with
  | nil =>
    obtain ⟨unset, empty, writtenIs⟩ := tracks
    have started := (Reorder.tracks_start wseq payload).accept (Nat.le_refl wseq)
      (Finset.notMem_empty wseq)
    have learned : inner.writeSeq wseq (payload wseq) =
        { inner with nextWriteSeq := some wseq }.writeSeq wseq (payload wseq) := by
      simp [SessionInner.writeSeq, unset]
    rw [learned, writeSeq_eq_accept (payload wseq) rfl (Nat.le_refl wseq)]
    refine ⟨_, ((Reorder.mk wseq SeqMap.empty).accept wseq (payload wseq)).1, rfl,
      by simp [writtenIs, empty], ?_⟩
    simpa [empty, Finset.filter_singleton] using started
  | cons base rest =>
    obtain ⟨next, out, awaited, writtenIs, tracked⟩ := tracks
    have given : (base :: (rest ++ [wseq])).toFinset = insert wseq (base :: rest).toFinset := by
      ext number
      simp [or_left_comm]
    rw [cons_append]
    by_cases stale : wseq < next
    · -- A stale number lies below the base, so it was never going to be tracked.
      have below : ¬ base ≤ wseq := by
        intro above
        have := tracked.contiguous wseq above stale
        exact fresh (List.mem_toFinset.mp (Finset.mem_filter.mp this).1)
      have skipped : inner.writeSeq wseq (payload wseq) = inner := by
        simp [SessionInner.writeSeq, awaited, stale]
        rw [← awaited]
      rw [skipped]
      refine ⟨next, out, awaited, writtenIs, ?_⟩
      rw [given, Finset.filter_insert, if_neg below]
      exact tracked
    · have current : next ≤ wseq := by omega
      have above : base ≤ wseq := Nat.le_trans tracked.started current
      rw [writeSeq_eq_accept (payload wseq) awaited current]
      refine ⟨_, out ++ ((Reorder.mk next inner.pendingWrites).accept wseq (payload wseq)).1, rfl,
        by simp [writtenIs], ?_⟩
      rw [given, Finset.filter_insert, if_pos above]
      exact tracked.accept above fun member =>
        fresh (List.mem_toFinset.mp (Finset.mem_filter.mp member).1)

theorem UplinkTracks.complete {base count : Nat} {rest : List Nat}
    (tracks : UplinkTracks old payload (base :: rest) inner)
    (all : (base :: rest).Perm (List.range count)) :
    inner.written = old ++ ((List.range' base (count - base)).map payload).flatten ∧
      inner.pendingWrites = SeqMap.empty := by
  obtain ⟨next, out, awaited, writtenIs, tracked⟩ := tracks
  have bounded : base < count := List.mem_range.mp (all.subset mem_cons_self)
  have interval : (base :: rest).toFinset.filter (base ≤ ·) = Finset.Ico base count := by
    ext number
    rw [Finset.mem_filter, List.mem_toFinset, all.mem_iff, mem_range, Finset.mem_Ico]
    exact And.comm
  rw [interval] at tracked
  obtain ⟨-, empty, outIs⟩ := tracked.complete (Nat.le_of_lt bounded)
  exact ⟨by rw [writtenIs, outIs], empty⟩

theorem concerns_of_uplinkOf {sid : Text} {op : BatchOp} {carried : Nat × Bytes}
    (found : uplinkOf sid op = some carried) : concerns sid op = true := by
  unfold uplinkOf at found
  split at found
  · rename_i own
    simp [concerns, own]
  · simp at found

theorem sendAll_spec (sid : Text) (seqs : SendSeqs) {sends : List (Option Bytes)}
    (nonempty : ∀ data, some data ∈ sends → data ≠ []) :
    ((sendAll sid seqs sends).filterMap MuxMsg.wireOp).filterMap (uplinkOf sid) =
        ((sends.filterMap id).zipIdx seqs.nextDataWriteSeq).map Prod.swap ∧
      ∀ op ∈ (sendAll sid seqs sends).filterMap MuxMsg.wireOp,
        (op.op = .data ∧ op.d = none) ∨ (uplinkOf sid op).isSome := by
  induction sends generalizing seqs with
  | nil => simp [sendAll]
  | cons send rest ih =>
    have later := fun seqs => ih seqs fun data member => nonempty data (mem_cons_of_mem _ member)
    rcases send with - | - | ⟨byte, bytes⟩
    · simpa [sendAll, sendEmptyPoll, MuxMsg.wireOp, MuxMsg.batched, nonemptyData, encodePending,
        uplinkOf] using later _
    · simp at nonempty
    · simpa [sendAll, sendDataOp, MuxMsg.wireOp, MuxMsg.batched, nonemptyData, encodePending,
        uplinkOf, decodePayload] using later _

section

variable (decodeError : Text → Text)

theorem nodeRun_uplinkTracks {sid : Text} (named : sid ≠ []) {events : List NodeEvent}
    {state : AppState} {arrived : List Nat} (found : state.sessions sid = some inner)
    (tracks : UplinkTracks old payload arrived inner) (kept : NodeEvent.dropped sid ∉ events)
    (own : ∀ op ∈ events.filterMap NodeEvent.entry, concerns sid op = true → (op.op = .data ∧ op.d = none) ∨ ∃ wseq, uplinkOf sid op = some (wseq, payload wseq))
    (distinct : (arrived ++ ((events.filterMap NodeEvent.entry).filterMap (uplinkOf sid)).map Prod.fst).Nodup) :
    ∃ final, (nodeRun decodeError state events).sessions sid = some final ∧
      UplinkTracks old payload (arrived ++ ((events.filterMap NodeEvent.entry).filterMap
        (uplinkOf sid)).map Prod.fst) final := by
  rw [filterMap_filterMap] at distinct ⊢
  induction events generalizing state inner arrived with
  | nil => exact ⟨inner, found, by simpa using tracks⟩
  | cons event rest ih =>
    simp only [mem_cons, not_or] at kept
    have keptFirst : event ≠ NodeEvent.dropped sid := fun same => kept.1 same.symm
    have ownRest := fun op member => own op (((sublist_cons_self event rest).filterMap _).subset member)
    cases carried : event.entry.bind (uplinkOf sid) with
    | none =>
      have quiet : ∀ op, event.entry = some op → concerns sid op = true →
          op.op = .data ∧ op.d = none := by
        intro op entryIs related
        rcases own op (by simp [entryIs]) related with poll | ⟨wseq, uplink⟩
        · exact poll
        · simp [entryIs, uplink] at carried
      obtain ⟨after, foundAfter, same⟩ :=
        nodeStep_sameWriter decodeError found keptFirst quiet
      simp only [filterMap_cons, carried] at distinct ⊢
      exact ih foundAfter (tracks.sameWriter same) kept.2 ownRest distinct
    | some numbered =>
      obtain ⟨wseq, bytes⟩ := numbered
      obtain ⟨op, entryIs, uplink⟩ := Option.bind_eq_some_iff.mp carried
      have eventIs : event = .op op := by
        cases event <;> simp_all [NodeEvent.entry]
      have bytesIs : bytes = payload wseq := by
        rcases own op (by simp [entryIs]) (concerns_of_uplinkOf uplink) with poll | ⟨number, same⟩
        · simp [uplinkOf, poll, decodePayload] at uplink
        · rw [uplink] at same
          simp only [some.injEq, Prod.mk.injEq] at same
          rw [same.2, same.1]
      subst bytesIs
      have foundAfter : (nodeStep decodeError state event).sessions sid =
          some (inner.writeSeq wseq (payload wseq)) := by
        rw [eventIs]
        exact phase1_sessions_uplink decodeError named found uplink
      simp only [filterMap_cons, carried, map_cons] at distinct ⊢
      have fresh : wseq ∉ arrived := fun member =>
        (nodup_cons.mp (nodup_middle.mp distinct)).1 (mem_append_left _ member)
      rw [append_cons] at distinct ⊢
      exact ih foundAfter (tracks.writeSeq fresh) kept.2 ownRest distinct

theorem flatten_from_eq_iff {payloads : List Bytes} (nonempty : ∀ data ∈ payloads, data ≠ [])
    {base : Nat} (bounded : base < payloads.length) :
    ((List.range' base (payloads.length - base)).map fun i => payloads.getD i []).flatten =
      payloads.flatten ↔ base = 0 := by
  have dropped : (List.range' base (payloads.length - base)).map (fun i => payloads.getD i []) =
      payloads.drop base := by
    apply ext_getElem
    · simp
    · intro i left right
      simp at left
      have inside : base + i < payloads.length := by omega
      simp [getD_eq_getElem?_getD, getElem?_eq_getElem inside]
  rw [dropped]
  constructor
  · intro same
    by_contra positive
    have split : (payloads.take base).flatten ++ (payloads.drop base).flatten =
        payloads.flatten := by rw [← flatten_append, take_append_drop]
    rw [same] at split
    have gone : (payloads.take base).flatten = [] := List.append_left_eq_self.mp split
    cases payloads with
    | nil => simp at bounded
    | cons first rest =>
      obtain ⟨count, rfl⟩ := Nat.exists_eq_succ_of_ne_zero positive
      simp only [take_succ_cons, flatten_cons, append_eq_nil_iff] at gone
      exact nonempty first mem_cons_self gone.1
  · intro zero
    simp [zero]

theorem uplink_lossless_iff {sid : Text} (named : sid ≠ []) {sends : List (Option Bytes)}
    (nonempty : ∀ data, some data ∈ sends → data ≠ []) {batches : List (List BatchOp)}
    (emitted : (batches.flatten.filter (concerns sid)).Perm (sessionOps sid sends))
    {events : List NodeEvent}
    (interleaved : Interleaved batches (events.filterMap NodeEvent.entry))
    (kept : NodeEvent.dropped sid ∉ events) {state : AppState} {inner : SessionInner}
    (found : state.sessions sid = some inner) (unset : inner.nextWriteSeq = none)
    (noneHeld : inner.pendingWrites = SeqMap.empty) :
    ∃ final, (nodeRun decodeError state events).sessions sid = some final ∧
      ((final.written = inner.written ++ (sends.filterMap id).flatten ∧
          final.pendingWrites = SeqMap.empty) ↔
        ∀ first, firstUplink sid (events.filterMap NodeEvent.entry) = some first → first = 0) := by
  set order := events.filterMap NodeEvent.entry with orderIs
  set payloads := sends.filterMap id with payloadsAre
  have present : ∀ data ∈ payloads, data ≠ [] := fun data member =>
    nonempty data (by simpa [payloadsAre] using member)
  have ownPerm : (order.filter (concerns sid)).Perm (sessionOps sid sends) :=
    (interleaved.perm.filter _).trans emitted
  have sameUplinks : order.filterMap (uplinkOf sid) =
      (order.filter (concerns sid)).filterMap (uplinkOf sid) := by
    rw [filterMap_filter]
    apply filterMap_congr
    intro op member
    cases carried : uplinkOf sid op with
    | none => simp
    | some numbered => simp [concerns_of_uplinkOf carried]
  have uplinksPerm : (order.filterMap (uplinkOf sid)).Perm (payloads.zipIdx.map Prod.swap) := by
    rw [sameUplinks, payloadsAre, ← (sendAll_spec sid {} nonempty).1]
    exact ownPerm.filterMap _
  have keysPerm : ((order.filterMap (uplinkOf sid)).map Prod.fst).Perm
      (List.range payloads.length) := by
    have numbers : (payloads.zipIdx.map Prod.swap).map Prod.fst = List.range payloads.length := by
      rw [List.map_map, range_eq_range', ← zipIdx_map_snd 0 payloads]
      rfl
    rw [← numbers]
    exact uplinksPerm.map _
  have own : ∀ op ∈ order, concerns sid op = true → (op.op = .data ∧ op.d = none) ∨
      ∃ wseq, uplinkOf sid op = some (wseq, payloads.getD wseq []) := by
    intro op member related
    have sent : op ∈ sessionOps sid sends :=
      ownPerm.subset (List.mem_filter.mpr ⟨member, related⟩)
    rcases (sendAll_spec sid {} nonempty).2 op sent with poll | some_
    · exact .inl poll
    · obtain ⟨⟨wseq, bytes⟩, carried⟩ := Option.isSome_iff_exists.mp some_
      -- The number a payload travels under is its position.
      have numbered : (wseq, bytes) ∈ payloads.zipIdx.map Prod.swap :=
        uplinksPerm.subset (List.mem_filterMap.mpr ⟨op, member, carried⟩)
      obtain ⟨⟨data, position⟩, inside, swapped⟩ := List.mem_map.mp numbered
      obtain ⟨rfl, rfl⟩ := swapped
      have at_ := List.mem_zipIdx_iff_getElem?.mp inside
      exact .inr ⟨position, by simp [carried, getD_eq_getElem?_getD, at_]⟩
  have start : UplinkTracks inner.written (fun i => payloads.getD i []) [] inner :=
    ⟨unset, noneHeld, rfl⟩
  obtain ⟨final, foundFinal, tracks⟩ := nodeRun_uplinkTracks decodeError named found start kept own
    (by simpa using keysPerm.nodup_iff.mpr nodup_range)
  refine ⟨final, foundFinal, ?_⟩
  unfold firstUplink
  cases arrivals : order.filterMap (uplinkOf sid) with
  | nil =>
    rw [arrivals] at tracks keysPerm
    have none_ : payloads = [] := by
      have := keysPerm.length_eq
      simpa using this.symm
    obtain ⟨-, empty, writtenIs⟩ := tracks
    simp [none_, empty, writtenIs]
  | cons first rest =>
    rw [arrivals, map_cons] at tracks keysPerm
    obtain ⟨writtenIs, empty⟩ := tracks.complete keysPerm
    have bounded : first.1 < payloads.length :=
      List.mem_range.mp (keysPerm.subset mem_cons_self)
    simp only [writtenIs, empty, and_true, append_cancel_left_eq,
      flatten_from_eq_iff present bounded, head?_cons, map_some, some.injEq,
      forall_eq']

end

def freshNode (sid : Text) : AppState where
  sessions name := if name = sid then some {} else none
  udpSessions _ := none

def firstOp : BatchOp :=
  { op := .data, sid := some ['s'], d := some (Base64.encode [1]), seq := some 0, wseq := some 0 }

def secondOp : BatchOp :=
  { op := .data, sid := some ['s'], d := some (Base64.encode [2]), seq := some 1, wseq := some 1 }

theorem uplink_lossless_in_order :
    ∃ final, (nodeRun id (freshNode ['s']) [.op firstOp, .op secondOp]).sessions ['s'] = some final ∧
      final.written = [1, 2] ∧ final.pendingWrites = SeqMap.empty := by
  have interleaved : Interleaved [[firstOp], [secondOp]] [firstOp, secondOp] :=
    @Interleaved.step _ [] _ _ _ _ (@Interleaved.step _ [[]] _ _ _ _ (.done (by simp)))
  obtain ⟨final, found, lossless⟩ := @uplink_lossless_iff id ['s'] (by simp)
    [some [1], some [2]] (by simp) _ (by decide) [.op firstOp, .op secondOp] interleaved (by simp)
    (freshNode ['s']) {} rfl rfl rfl
  have inOrder : firstUplink ['s'] [firstOp, secondOp] = some 0 := by decide
  exact ⟨final, found, lossless.mpr fun first arrived => some.inj (arrived.symm.trans inOrder)⟩

theorem uplink_overtaken_loses_first :
    sessionOps ['s'] [some [1], some [2]] = [firstOp, secondOp] ∧
      Interleaved [[firstOp], [secondOp]] [secondOp, firstOp] ∧
      ∃ final, (nodeRun id (freshNode ['s']) [.op secondOp, .op firstOp]).sessions ['s'] = some final ∧
        final.written = [2] ∧ final.written ≠ [1] ++ [2] := by
  refine ⟨by decide, ?_, _, rfl, by decide, by decide⟩
  exact @Interleaved.step _ [[firstOp]] _ _ _ _ (@Interleaved.step _ [] _ _ _ _ (.done (by simp)))

end Gvpn
