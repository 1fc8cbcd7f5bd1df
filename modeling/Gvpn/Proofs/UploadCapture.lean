import Gvpn.Proofs.LoopSteps

/-! A session's loop sends what the client says, by its write numbers. -/

namespace Gvpn

def MuxMsg.numberedPayload : MuxMsg Nat → Option (Nat × Bytes)
  | .data _ payload _ (some wseq) _ => some (wseq, payload)
  | _ => none

def MuxMsg.unnumberedPayload : MuxMsg Nat → Bytes
  | .data _ payload _ none _ => payload
  | _ => []

def inWriteOrder (sent : List (MuxMsg Nat)) : Bytes :=
  ((sent.filterMap MuxMsg.numberedPayload).insertionSort
    fun left right => left.1 ≤ right.1).flatMap Prod.snd

def LoopEvent.bytesRead : LoopEvent → Bytes
  | .idle _ (some (.data bytes)) => bytes
  | .read (.data bytes) => bytes
  | _ => []

namespace TunnelLoop

def moveReading (maxElevated : Nat) (state : TunnelLoop × Bytes) (event : Nat × LoopEvent) :
    Option (TunnelLoop × Bytes) :=
  (state.1.move maxElevated event).map fun after => (after, state.2 ++ event.2.bytesRead)

structure Uplink where
  numbered : List (Nat × Bytes)
  unnumbered : Bytes
  next : Nat
  buffered : Option Bytes

def uplink (loop : TunnelLoop) : Uplink where
  numbered := loop.sent.filterMap MuxMsg.numberedPayload
  unnumbered := loop.sent.flatMap MuxMsg.unnumberedPayload
  next := loop.seqs.nextDataWriteSeq
  buffered := loop.bufferedUpload

def Uplink.send (uplink : Uplink) (data : Bytes) : Uplink :=
  { uplink with numbered := uplink.numbered ++ [(uplink.next, data)], next := uplink.next + 1 }

section Fields

variable (loop : TunnelLoop)

@[simp] theorem uplink_pushPoll : loop.pushPoll.uplink = loop.uplink := by
  simp [uplink, pushPoll, sendEmptyPoll, MuxMsg.numberedPayload, MuxMsg.unnumberedPayload]

@[simp] theorem uplink_pushData (data : Bytes) :
    (loop.pushData data).uplink = loop.uplink.send data := by
  simp [uplink, pushData, sendDataOp, Uplink.send, MuxMsg.numberedPayload,
    MuxMsg.unnumberedPayload]

@[simp] theorem uplink_countEmpty (wasEmptyPoll : Bool) :
    (loop.countEmpty wasEmptyPoll).uplink = loop.uplink := by
  unfold countEmpty
  split <;> rfl

@[simp] theorem uplink_scheduleRefill : loop.scheduleRefill.uplink = loop.uplink := by
  unfold scheduleRefill
  split <;> rfl

@[simp] theorem uplink_manageDepth : loop.manageDepth.1.uplink = loop.uplink := by
  unfold manageDepth
  repeat' split
  all_goals first
    | rfl
    | exact uplink_scheduleRefill _

@[simp] theorem uplink_narrow (response : TunnelResponse) :
    (loop.narrow response).uplink = loop.uplink := by
  unfold narrow
  split <;> rfl

end Fields

@[simp]
theorem uplink_pushPolls (count : Nat) (loop : TunnelLoop) :
    (pushPolls count loop).uplink = loop.uplink := by
  induction count generalizing loop with
  | zero => rfl
  | succ count ih => rw [pushPolls, ih, uplink_pushPoll]

@[simp]
theorem uplink_flush (rounds : Nat) (working : Option Nat) (loop : TunnelLoop) :
    (loop.flush rounds working).uplink = loop.uplink := by
  induction rounds generalizing working loop with
  | zero => rfl
  | succ rounds ih =>
    rw [flush]
    split
    · rfl
    · rename_i key held rest same
      split
      · rfl
      · split
        · rfl
        · rw [ih]
          exact uplink_countEmpty loop.popHeld held.wasEmptyPoll
        · split
          · rfl
          · rw [ih]
            rfl

@[simp]
theorem uplink_deliver (loop : TunnelLoop) (info : InflightMeta) (response : TunnelResponse)
    (working : Option Nat) : (loop.deliver info response working).uplink = loop.uplink := by
  unfold deliver
  split
  · split
    · rfl
    · rw [uplink_flush]
      exact uplink_countEmpty loop info.wasEmptyPoll
    · split
      · rfl
      · rw [uplink_flush]
        rfl
  · rfl

@[simp]
theorem uplink_onGrace (loop : TunnelLoop) (info : InflightMeta) (outcome : ReplyOutcome) :
    (loop.onGrace info outcome).uplink = loop.uplink := by
  cases outcome with
  | ok response =>
    unfold onGrace
    dsimp only
    split <;> rfl
  | batchErr | timeout | dropped => rfl

variable {loop : TunnelLoop}

theorem sendBuffered_of_none (nothing : loop.bufferedUpload = none) :
    loop.sendBuffered = loop := by
  rw [sendBuffered, nothing]

theorem uplink_onReply (loop : TunnelLoop) (nothing : loop.bufferedUpload = none)
    (info : InflightMeta) (outcome : ReplyOutcome) (working : Option Nat) :
    (loop.onReply info outcome working).1.uplink = loop.uplink := by
  cases outcome with
  | batchErr | timeout | dropped => rfl
  | ok response =>
    have waits : ((loop.narrow response).deliver info response working).bufferedUpload = none := by
      have same := congrArg Uplink.buffered
        (uplink_deliver (loop.narrow response) info response working)
      rw [uplink_narrow] at same
      exact same.trans nothing
    have handled := handled_onOk loop info response working
    show (loop.onOk info response working).1.uplink = loop.uplink
    generalize loop.onOk info response working = result at handled ⊢
    cases handled with
    | error carried => exact uplink_narrow loop response
    | out fine out => simp
    | numbered fine stays => simp [sendBuffered_of_none waits]
    | unnumbered fine stays => simp [sendBuffered_of_none waits]

variable {after : TunnelLoop}

theorem uplink_onIdle {allLegacy : Bool} {read : Option ClientRead}
    (idle : loop.onIdle allLegacy read = some after) :
    (after.uplink = loop.uplink ∧ (LoopEvent.idle allLegacy read).bytesRead = []) ∨
      after.uplink = loop.uplink.send (LoopEvent.idle allLegacy read).bytesRead := by
  have reads : ∀ read, ((loop.onIdleRead read).uplink = loop.uplink ∧
        (LoopEvent.idle allLegacy (some read)).bytesRead = []) ∨
      (loop.onIdleRead read).uplink =
        loop.uplink.send (LoopEvent.idle allLegacy (some read)).bytesRead := by
    intro read
    cases read with
    | data bytes =>
      exact .inr (uplink_pushData { loop with consecutiveEmpty := 0, idleTier := 0 } bytes)
    | closed => exact .inl ⟨rfl, rfl⟩
  unfold onIdle at idle
  split at idle
  · obtain ⟨found, rfl, rfl⟩ := Option.map_eq_some_iff.mp idle
    exact reads found
  · split at idle
    · cases idle
      exact .inl ⟨uplink_pushPoll loop, rfl⟩
    · obtain ⟨-, same⟩ := Option.ite_none_right_eq_some.mp idle
      cases same
      exact reads _

theorem uplink_onRefill (nothing : loop.bufferedUpload = none) :
    loop.onRefill.uplink = loop.uplink := by
  unfold onRefill
  dsimp only
  split
  · split
    · -- Nothing waits, so the timer sends a poll.
      have polls := uplink_pushPoll { loop with refillArmed := false }
      simp only [nothing] at polls ⊢
      refine polls.trans ?_
      rw [uplink, uplink, nothing]
    · rfl
  · rfl

variable {maxElevated : Nat}

theorem canRead_of_step {taken : Nat} {permit : Permit}
    {read : ClientRead} (steps : loop.step maxElevated taken (.read read) = some (after, permit)) :
    loop.canRead = true := by
  unfold step at steps
  split at steps
  · -- Of the four states at the top of the loop only one lets the client be read from.
    unfold stepTop at steps
    split at steps
    · contradiction
    · split at steps
      · contradiction
      · split at steps
        · contradiction
        · exact (Option.ite_none_right_eq_some.mp steps).1
  all_goals contradiction

theorem uplink_onRead (room : loop.canRead = true) (read : ClientRead) :
    ((loop.onRead read).uplink = loop.uplink ∧ (LoopEvent.read read).bytesRead = []) ∨
      (loop.onRead read).uplink = loop.uplink.send (LoopEvent.read read).bytesRead := by
  cases read with
  | closed => exact .inl ⟨rfl, rfl⟩
  | data bytes =>
    simp only [canRead, Bool.and_eq_true, decide_eq_true_eq] at room
    right
    rw [onRead, if_pos room.2]
    exact uplink_pushData loop bytes

theorem uplink_of_step {taken : Nat} {permit : Permit}
    {event : LoopEvent} (nothing : loop.bufferedUpload = none)
    (steps : loop.step maxElevated taken event = some (after, permit)) :
    (after.uplink = loop.uplink ∧ event.bytesRead = []) ∨
      after.uplink = loop.uplink.send event.bytesRead := by
  cases change_of_step steps with
  | finish | graceOver | leave | loadFree => exact .inl ⟨rfl, rfl⟩
  | grace top ended found => exact .inl ⟨uplink_onGrace _ _ _, rfl⟩
  | idle top idle => exact uplink_onIdle idle
  | refill top => exact .inl ⟨uplink_onRefill nothing, rfl⟩
  | @reply id _ _ _ top open_ found fails =>
    refine .inl ⟨?_, rfl⟩
    exact uplink_onReply { loop with inflight := loop.inflight.eraseIdx id } nothing _ _ _
  | read top => exact uplink_onRead (canRead_of_step steps) _
  | loadFull | add => exact .inl ⟨uplink_scheduleRefill _, rfl⟩

structure Uplink.Captured (uplink : Uplink) (said : Bytes) : Prop where
  buffered : uplink.buffered = none
  unnumbered : uplink.unnumbered = []
  numbers : uplink.numbered.map Prod.fst = List.range uplink.next
  payloads : uplink.numbered.flatMap Prod.snd = said

theorem Uplink.Captured.send {uplink : Uplink} {said : Bytes} (captured : uplink.Captured said)
    (data : Bytes) : (uplink.send data).Captured (said ++ data) where
  buffered := captured.buffered
  unnumbered := captured.unnumbered
  numbers := by simp [Uplink.send, captured.numbers, List.range_succ]
  payloads := by simp [Uplink.send, captured.payloads]

theorem captured_start (sid : Text) (pendingClientData : Option Bytes) :
    (start sid pendingClientData).uplink.Captured (pendingClientData.getD []) := by
  have opened : (opening sid pendingClientData).uplink.Captured (pendingClientData.getD []) := by
    have fresh : ({ sid } : TunnelLoop).uplink.Captured [] := ⟨rfl, rfl, rfl, rfl⟩
    unfold opening
    split
    · exact fresh.send _
    · rename_i none_
      cases pendingClientData with
      | none => exact fresh
      | some bytes =>
        cases bytes with
        | nil => exact fresh
        | cons byte bytes => exact absurd rfl (none_ byte bytes)
  have same : (start sid pendingClientData).uplink = (opening sid pendingClientData).uplink := by
    unfold start
    dsimp only
    split <;> exact uplink_pushPolls _ _
  rw [same]
  exact opened

theorem captured_of_reachable {sid : Text} {pendingClientData : Option Bytes}
    {state : TunnelLoop × Bytes}
    (reached : Reachable (moveReading maxElevated) (fun _ _ => True)
      (start sid pendingClientData, []) state) :
    state.1.uplink.Captured (pendingClientData.getD [] ++ state.2) := by
  refine reached.invariant
    (fun state => state.1.uplink.Captured (pendingClientData.getD [] ++ state.2)) ?_ ?_
  · rw [List.append_nil]
    exact captured_start sid pendingClientData
  · rintro ⟨loop, said⟩ after ⟨taken, event⟩ captured - steps
    obtain ⟨next, moved, rfl⟩ := Option.map_eq_some_iff.mp steps
    obtain ⟨⟨_, permit⟩, stepped, rfl⟩ := Option.map_eq_some_iff.mp moved
    rcases uplink_of_step captured.buffered stepped with ⟨same, silent⟩ | sends
    · simpa [same, silent] using captured
    · rw [← List.append_assoc]
      exact sends ▸ captured.send _

theorem inWriteOrder_of_numbers {sent : List (MuxMsg Nat)} {count : Nat}
    (numbers : (sent.filterMap MuxMsg.numberedPayload).map Prod.fst = List.range count) :
    inWriteOrder sent = (sent.filterMap MuxMsg.numberedPayload).flatMap Prod.snd := by
  have sorted : (sent.filterMap MuxMsg.numberedPayload).Pairwise
      fun left right => left.1 ≤ right.1 := by
    have increasing : ((sent.filterMap MuxMsg.numberedPayload).map Prod.fst).Pairwise (· ≤ ·) := by
      rw [numbers]
      exact List.pairwise_le_range
    exact List.pairwise_map.mp increasing
  rw [inWriteOrder, sorted.insertionSort_eq]

/--
The payloads in the order of their numbers 0, 1 and so on are what the client has said so far;
unnumbered operations carry nothing, and nothing waits.
-/
theorem uplink_captured {maxElevated : Nat} {sid : Text} {pendingClientData : Option Bytes}
    {loop : TunnelLoop} {said : Bytes}
    (reached : Reachable (moveReading maxElevated) (fun _ _ => True)
      (start sid pendingClientData, []) (loop, said)) :
    inWriteOrder loop.sent = pendingClientData.getD [] ++ said ∧
      (∃ count, (loop.sent.filterMap MuxMsg.numberedPayload).map Prod.fst = List.range count) ∧
      loop.sent.flatMap MuxMsg.unnumberedPayload = [] ∧ loop.bufferedUpload = none := by
  have captured := captured_of_reachable reached
  refine ⟨?_, ⟨_, captured.numbers⟩, captured.unnumbered, captured.buffered⟩
  exact (inWriteOrder_of_numbers captured.numbers).trans captured.payloads

theorem uplink_captured_behind_first :
    ∃ loop, Reachable (moveReading maxElevatedTotal) (fun _ _ => True)
        (start [] (some [1, 2]), []) (loop, [3, 4]) ∧
      inWriteOrder loop.sent = [1, 2, 3, 4] := by
  obtain ⟨loop, run⟩ : ∃ loop, runSteps (moveReading maxElevatedTotal)
      (start [] (some [1, 2]), []) [(0, .read (.data [3])), (0, .read (.data [4]))] =
        some (loop, [3, 4]) := ⟨_, rfl⟩
  have reached := Reachable.runSteps _ .begin
    (permits_of_forall_mem (fun _ _ _ => trivial) _) run
  exact ⟨loop, reached, (uplink_captured reached).1⟩

end TunnelLoop

end Gvpn
