import Gvpn.Tunnel.Downlink

/-! What reaches the local client, with drains and replies in any order. -/

namespace Gvpn

open List Option

theorem drainNow_split (rawEof : Bool) (readBuf : Bytes) (maxBytes : Nat) :
    (drainNow rawEof readBuf maxBytes).1 ++ (drainNow rawEof readBuf maxBytes).2.2 = readBuf := by
  unfold drainNow
  by_cases fits : readBuf.length ≤ min maxBytes tcpDrainMaxBytes
  · simp only [fits, if_true, append_nil]
  · simp only [fits, if_false, take_append_drop]

theorem drainNow_nil {rawEof : Bool} {readBuf : Bytes} {maxBytes : Nat}
    (nothing : readBuf = [] ∨ maxBytes = 0) : (drainNow rawEof readBuf maxBytes).1 = [] := by
  unfold drainNow
  rcases nothing with empty | broke
  · simp [empty]
  · -- A buffer that fits into no budget is itself empty.
    by_cases fits : readBuf.length ≤ min maxBytes tcpDrainMaxBytes
    · have : readBuf.length = 0 := by
        omega
      simp [List.length_eq_zero_iff.mp this]
    · rw [if_neg fits, broke, Nat.zero_min, take_zero]

theorem writeTunnelResponse_tcpDrainResponse (sid : Text) (data : Bytes) (eof : Bool)
    (seq : Option Nat) :
    writeTunnelResponse (tcpDrainResponse sid data eof seq) =
      if data = [] then .noData else .wrote data := by
  cases data with
  | nil => rfl
  | cons byte bytes => simp [writeTunnelResponse, tcpDrainResponse]

def Decodes (response : TunnelResponse) : Prop := writeTunnelResponse response ≠ .badBase64

def repliesBytes (responses : List TunnelResponse) : Bytes :=
  (responses.map fun response => (writeTunnelResponse response).written).flatten

@[simp] theorem repliesBytes_cons (response : TunnelResponse) (rest : List TunnelResponse) :
    repliesBytes (response :: rest) =
      (writeTunnelResponse response).written ++ repliesBytes rest := by simp [repliesBytes]

theorem flushReplies_eq (next : Nat) (eofSeen : Bool) {entries : List (Nat × TunnelResponse)}
    (decodes : ∀ pair ∈ entries, Decodes pair.2) :
    ∃ ended, flushReplies next eofSeen entries =
      (SeqMap.runLength next entries, next + SeqMap.runLength next entries, ended,
        repliesBytes ((entries.take (SeqMap.runLength next entries)).map Prod.snd)) := by
  induction entries generalizing next eofSeen with
  | nil => exact ⟨eofSeen, rfl⟩
  | cons entry rest ih =>
    obtain ⟨key, response⟩ := entry
    by_cases turn : key = next
    · -- The first entry is written, and the rest goes on from the next number.
      subst turn
      obtain ⟨ended, flushed⟩ := ih (key + 1) (eofSeen || response.isEof)
        fun pair member => decodes pair (mem_cons_of_mem _ member)
      have fine := decodes (key, response) mem_cons_self
      have stop : key + 1 + SeqMap.runLength (key + 1) rest =
          key + (SeqMap.runLength (key + 1) rest + 1) := by omega
      simp only [flushReplies, SeqMap.runLength, ne_eq, not_true_eq_false, if_false, if_true]
      cases outcome : writeTunnelResponse response with
      | badBase64 => exact absurd outcome fine
      | noData => simp [flushed, outcome, stop]
      | wrote bytes => simp [flushed, outcome, stop]
    · exact ⟨eofSeen, by simp [flushReplies, SeqMap.runLength, turn, repliesBytes]⟩

theorem recv_eq_accept {state : LoopState} {seq : Nat} {response : TunnelResponse}
    (noError : response.e = none) (decodes : Decodes response)
    (held : ∀ pair ∈ state.pendingWrites.entries, Decodes pair.2) :
    ∃ ended, state.recv seq response =
      let step := (Reorder.mk state.nextWriteSeq state.pendingWrites).accept seq response
      { state with
        nextWriteSeq := step.2.next
        pendingWrites := step.2.early
        eofSeen := ended
        output := state.output ++ repliesBytes step.1 } := by
  unfold LoopState.recv
  by_cases turn : seq = state.nextWriteSeq
  · -- It is the awaited reply, which also releases what was held behind it.
    cases state.eofSeen with
    | true =>
      exact ⟨state.eofSeen, by simp [LoopState.recvGrace, turn, Reorder.accept, repliesBytes]⟩
    | false =>
      obtain ⟨ended, flushed⟩ := flushReplies_eq (state.nextWriteSeq + 1)
        (state.eofSeen || response.isEof) held
      cases outcome : writeTunnelResponse response with
      | badBase64 => exact absurd outcome decodes
      | noData =>
        simp [LoopState.recvReply, noError, turn, outcome, flushed, Reorder.accept, repliesBytes,
          SeqMap.popRun]
      | wrote bytes =>
        simp [LoopState.recvReply, noError, turn, outcome, flushed, Reorder.accept, repliesBytes,
          SeqMap.popRun]
  · -- It came early, so it is held and nothing is written.
    by_cases grace : state.eofSeen = true
    · simp [LoopState.recvGrace, grace, turn, Reorder.accept, repliesBytes]
    · simp [LoopState.recvReply, grace, noError, turn, Reorder.accept, repliesBytes]

theorem flatten_update_last {parts : Nat → Bytes} {seq : Nat} {more : Bytes}
    (last : ∀ later, seq < later → parts later = []) {count : Nat} (inside : seq < count) :
    ((List.range count).map (Function.update parts seq (parts seq ++ more))).flatten =
      ((List.range count).map parts).flatten ++ more := by
  induction count with
  | zero => omega
  | succ count ih =>
    simp only [range_succ, map_append, map_singleton, flatten_append,
      flatten_singleton]
    by_cases here : seq = count
    · subst here
      have before : (List.range seq).map (Function.update parts seq (parts seq ++ more)) =
          (List.range seq).map parts := by
        apply map_congr_left
        intro i below
        have differs : i ≠ seq := Nat.ne_of_lt (List.mem_range.mp below)
        simp [differs]
      simp [before]
    · have later : seq < count := by omega
      have differs : count ≠ seq := fun same => here same.symm
      simp [ih later, last count later, differs]

namespace Downlink

structure Ordered (sid : Text) (world : Downlink) : Prop where
  stream : world.received =
    ((List.range world.client.seqs.nextSendSeq).map world.allData).flatten ++ world.inner.readBuf
  unsent : ∀ seq, world.client.seqs.nextSendSeq ≤ seq →
    world.stage seq = .unsent ∧ world.allData seq = []
  tracked : ∃ given out, (∀ seq, seq ∈ given ↔ world.stage seq = .delivered) ∧
    Reorder.Tracks 0 (world.reply sid) given
      ⟨world.client.nextWriteSeq, world.client.pendingWrites⟩ out ∧
    world.client.output = repliesBytes out

theorem decodes_reply (sid : Text) (world : Downlink) (seq : Nat) :
    Decodes (world.reply sid seq) := by
  unfold Decodes reply
  rw [writeTunnelResponse_tcpDrainResponse]
  split <;> simp

theorem repliesBytes_reply (sid : Text) (world : Downlink) (seqs : List Nat) :
    repliesBytes (seqs.map (world.reply sid)) = (seqs.map world.allData).flatten := by
  induction seqs with
  | nil => rfl
  | cons seq rest ih =>
    rw [map_cons, repliesBytes_cons, ih]
    unfold reply
    rw [writeTunnelResponse_tcpDrainResponse]
    by_cases empty : world.allData seq = []
    · simp [empty, WriteOutcome.written]
    · simp [empty, WriteOutcome.written]

variable {sid : Text} {world : Downlink}

theorem Ordered.output_isPrefix (ordered : world.Ordered sid) :
    world.client.output <+: world.received := by
  obtain ⟨given, out, delivered, tracks, outputIs⟩ := ordered.tracked
  have behind : world.client.nextWriteSeq ≤ world.client.seqs.nextSendSeq := by
    by_contra ahead
    have passed := tracks.contiguous world.client.seqs.nextSendSeq (Nat.zero_le _)
      (Nat.lt_of_not_le ahead)
    rw [delivered, (ordered.unsent _ (Nat.le_refl _)).1] at passed
    simp at passed
  obtain ⟨gap, gapIs⟩ := Nat.exists_eq_add_of_le behind
  rw [outputIs, tracks.written, repliesBytes_reply, ordered.stream, gapIs, Nat.sub_zero,
    range_eq_range', ← range'_append_1, map_append, flatten_append,
    append_assoc]
  exact prefix_append _ _

theorem Ordered.start (sid : Text) : ({} : Downlink).Ordered sid where
  stream := rfl
  unsent seq _ := ⟨rfl, rfl⟩
  tracked := ⟨∅, [], by simp, Reorder.tracks_start 0 _, rfl⟩

variable {after : Downlink}

theorem Ordered.send {data : Option Bytes}
    (ordered : world.Ordered sid) (taken : world.step sid (.send data) = some after) :
    after.Ordered sid := by
  simp only [step] at taken
  split at taken
  · rw [some.injEq] at taken
    subst taken
    set next := world.client.seqs.nextSendSeq with nextIs
    have advanced : (sent sid world.client.seqs data).nextSendSeq = next + 1 := by
      cases data with
      | none => rfl
      | some data => rfl
    obtain ⟨freshStage, freshData⟩ := ordered.unsent next (Nat.le_refl _)
    refine ⟨?_, ?_, ?_⟩
    · -- The new operation contributes nothing to the join.
      simp only [advanced, setStage, range_succ, map_append, map_singleton,
        flatten_append, flatten_singleton, freshData, append_nil]
      exact ordered.stream
    · intro seq above
      simp only [advanced] at above
      have differs : seq ≠ next := by omega
      obtain ⟨stageIs, dataIs⟩ := ordered.unsent seq (by omega)
      exact ⟨by simp [setStage, differs, stageIs], dataIs⟩
    · obtain ⟨given, out, delivered, tracks, outputIs⟩ := ordered.tracked
      refine ⟨given, out, ?_, tracks, outputIs⟩
      intro seq
      rw [delivered]
      by_cases here : seq = next
      · simp [setStage, here, freshStage]
      · simp [setStage, here]
  · simp at taken

theorem Ordered.drain {seq maxBytes : Nat} {rawEof : Bool} (ordered : world.Ordered sid)
    (inOrder : world.drainsInOrder (.drain seq rawEof maxBytes))
    (taken : world.step sid (.drain seq rawEof maxBytes) = some after) : after.Ordered sid := by
  simp only [step] at taken
  split at taken
  · rename_i possible
    rw [some.injEq] at taken
    subst taken
    obtain ⟨stageIs, -⟩ := possible
    set drained := drainNow rawEof world.inner.readBuf maxBytes with drainedIs
    have parts : drained.1 ++ drained.2.2 = world.inner.readBuf := drainNow_split _ _ _
    have inside : seq < world.client.seqs.nextSendSeq := by
      by_contra beyond
      have := (ordered.unsent seq (by omega)).1
      rw [stageIs] at this
      simp at this
    refine ⟨?_, ?_, ?_⟩
    · have joined : ((List.range world.client.seqs.nextSendSeq).map
          (Function.update world.allData seq (world.allData seq ++ drained.1))).flatten =
          ((List.range world.client.seqs.nextSendSeq).map world.allData).flatten ++ drained.1 := by
        by_cases idle : world.inner.readBuf = [] ∨ maxBytes = 0
        · -- Nothing was taken, so nothing changes.
          have nothing : drained.1 = [] := drainNow_nil idle
          simp [nothing]
        · rw [not_or] at idle
          exact flatten_update_last (inOrder idle.1 (Nat.pos_of_ne_zero idle.2)) inside
      simp only [joined, append_assoc, parts]
      exact ordered.stream
    · intro other above
      have differs : other ≠ seq := by
        intro same
        simp only at above
        omega
      simpa [differs] using ordered.unsent other above
    · -- Only an operation not yet answered changes, so the delivered replies stay the same.
      obtain ⟨given, out, delivered, tracks, outputIs⟩ := ordered.tracked
      refine ⟨given, out, delivered, ?_, outputIs⟩
      apply tracks.congr
      intro other member
      have differs : other ≠ seq := by
        intro same
        rw [delivered, same, stageIs] at member
        simp at member
      simp [reply, differs]
  · simp at taken

theorem Ordered.deliver {seq : Nat}
    (ordered : world.Ordered sid) (taken : world.step sid (.deliver seq) = some after) :
    after.Ordered sid := by
  simp only [step] at taken
  split at taken
  · rename_i possible
    rw [some.injEq] at taken
    obtain ⟨stageIs, -⟩ := possible
    obtain ⟨given, out, delivered, tracks, outputIs⟩ := ordered.tracked
    have fresh : seq ∉ given := by
      rw [delivered, stageIs]
      simp
    have held : ∀ pair ∈ world.client.pendingWrites.entries, Decodes pair.2 := by
      intro pair member
      rw [((tracks.held pair.1 pair.2).mp member).2.2]
      exact decodes_reply sid world pair.1
    obtain ⟨ended, received⟩ := @recv_eq_accept world.client seq (world.reply sid seq) rfl
      (decodes_reply sid world seq) held
    rw [received] at taken
    subst taken
    refine ⟨ordered.stream, ?_, ?_⟩
    · intro other above
      have differs : other ≠ seq := by
        intro same
        have := (ordered.unsent other above).1
        rw [same, stageIs] at this
        simp at this
      simpa [setStage, differs] using ordered.unsent other above
    · refine ⟨insert seq given, _, ?_, tracks.accept (Nat.zero_le seq) fresh, ?_⟩
      · intro other
        rw [Finset.mem_insert, delivered]
        by_cases here : other = seq
        · simp [setStage, here]
        · simp [setStage, here]
      · simp [outputIs, repliesBytes]
  · simp at taken

theorem Ordered.step {event : DownlinkEvent}
    (ordered : world.Ordered sid) (inOrder : world.drainsInOrder event)
    (taken : world.step sid event = some after) : after.Ordered sid := by
  cases event with
  | send data => exact ordered.send taken
  | drain seq rawEof maxBytes => exact ordered.drain inOrder taken
  | deliver seq => exact ordered.deliver taken
  | readerAppend chunk =>
    simp only [Downlink.step] at taken
    split at taken
    · simp at taken
    · rw [some.injEq] at taken
      subst taken
      refine ⟨?_, ordered.unsent, ordered.tracked⟩
      simp [SessionInner.readerAppend, ordered.stream]
  | readerEof =>
    simp only [Downlink.step, some.injEq] at taken
    subst taken
    exact ⟨ordered.stream, ordered.unsent, ordered.tracked⟩
  | stop =>
    simp only [Downlink.step, some.injEq] at taken
    subst taken
    exact ⟨ordered.stream, ordered.unsent, ordered.tracked⟩
  | answer seq =>
    simp only [Downlink.step] at taken
    split at taken
    · rename_i stageIs
      rw [some.injEq] at taken
      subst taken
      refine ⟨ordered.stream, ?_, ?_⟩
      · intro other above
        have differs : other ≠ seq := by
          intro same
          have := (ordered.unsent other above).1
          rw [same, stageIs] at this
          simp at this
        simpa [setStage, differs] using ordered.unsent other above
      · obtain ⟨given, out, delivered, tracks, outputIs⟩ := ordered.tracked
        refine ⟨given, out, ?_, tracks, outputIs⟩
        intro other
        rw [delivered]
        by_cases here : other = seq
        · simp [setStage, here, stageIs]
        · simp [setStage, here]
    · simp at taken

/--
The client receives a prefix of the stream in every run whose drains keep the order of their
numbers, by which the loop orders the replies.
-/
theorem output_isPrefix_of_drainsInOrder {sid : Text} {world : Downlink}
    (reached : Reachable (Downlink.step sid) drainsInOrder {} world) :
    world.client.output <+: world.received :=
  (reached.invariant (Ordered sid) (Ordered.start sid) Ordered.step).output_isPrefix

def swappedReplies : List DownlinkEvent :=
  [.send none, .send none, .readerAppend [1], .drain 0 false 9, .readerAppend [2],
    .drain 1 false 9, .answer 1, .deliver 1, .answer 0, .deliver 0]

theorem output_isPrefix_replies_swapped :
    ∃ world, Reachable (Downlink.step ['s']) drainsInOrder {} world ∧
      world.client.output = [1, 2] ∧ world.client.output <+: world.received := by
  have first : ∀ later, 0 < later → (({} : Downlink).allData later) = [] := fun _ _ => rfl
  have second : ∀ later, 1 < later → Function.update ({} : Downlink).allData 0 [1] later = [] := by
    intro later above
    have differs : later ≠ 0 := by omega
    simp [differs]
  have permitted : Permits (Downlink.step ['s']) drainsInOrder {} swappedReplies :=
    ⟨trivial, trivial, trivial, fun _ _ => first, trivial, fun _ _ => second, trivial, trivial,
      trivial, trivial, trivial⟩
  have swapped := Reachable.runSteps swappedReplies .begin permitted rfl
  exact ⟨_, swapped, by decide, output_isPrefix_of_drainsInOrder swapped⟩

def swappedDrains : List DownlinkEvent :=
  [.send none, .send none, .readerAppend [1], .drain 1 false 9, .readerAppend [2],
    .drain 0 false 9, .answer 0, .answer 1, .deliver 0, .deliver 1]

theorem output_reordered :
    ∃ world, Reachable (Downlink.step ['s']) (fun _ _ => True) {} world ∧
      world.client.output = [2, 1] ∧ world.received = [1, 2] ∧
      ¬ world.client.output <+: world.received := by
  have reordered := Reachable.runSteps swappedDrains
    (.begin : Reachable (Downlink.step ['s']) (fun _ _ => True) {} {})
    (permits_of_forall_mem (fun _ _ _ => trivial) _) rfl
  exact ⟨_, reordered, by decide, by decide, by decide⟩

end Downlink

end Gvpn
