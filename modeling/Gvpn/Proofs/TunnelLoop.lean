import Gvpn.Proofs.LoopSteps

/-! The in-order writer of a session's loop waits for a reply that is in flight. -/

namespace Gvpn

namespace TunnelLoop

def HeldDecodes (held : SeqMap HeldReply) : Prop :=
  ∀ pair ∈ held.entries, writeTunnelResponse pair.2.response ≠ .badBase64

variable {working : Option Nat} {loop : TunnelLoop}

theorem flush_of_turn {rounds : Nat} {reply : HeldReply} {rest : List (Nat × HeldReply)}
    (held : loop.pendingWrites.entries = (loop.nextWriteSeq, reply) :: rest)
    (decodes : writeTunnelResponse reply.response ≠ .badBase64)
    (through : (loop.flush (rounds + 1) working).stage ≠ .returned) :
    ∃ (counted : TunnelLoop) (left : Option Nat), counted.order = loop.popHeld.order ∧
      loop.flush (rounds + 1) working = (counted.passReply reply.response).flush rounds left := by
  rw [flush] at through ⊢
  simp only [held, ne_eq, not_true_eq_false, if_false] at through ⊢
  cases outcome : writeTunnelResponse reply.response with
  | badBase64 => exact absurd outcome decodes
  | noData =>
    exact ⟨loop.popHeld.countEmpty reply.wasEmptyPoll, working, order_countEmpty _ _, rfl⟩
  | wrote bytes =>
    simp only [outcome] at through
    rcases working with _ | _ | left
    · exact ⟨loop.popHeld.countData reply.response, none, rfl, rfl⟩
    · exact absurd rfl through
    · exact ⟨loop.popHeld.countData reply.response, some left, rfl, rfl⟩

theorem order_flush {rounds : Nat}
    (enough : loop.pendingWrites.entries.length ≤ rounds) (decodes : HeldDecodes loop.pendingWrites)
    (through : (loop.flush rounds working).stage ≠ .returned) :
    ∃ ended, (loop.flush rounds working).order =
      { loop.order with buffer := loop.order.buffer.advance, eofSeen := ended } := by
  induction rounds generalizing working loop with
  | zero =>
    have none_ := List.length_eq_zero_iff.mp (Nat.le_zero.mp enough)
    refine ⟨loop.eofSeen, ?_⟩
    rw [Reorder.advance_of_nil none_]
    rfl
  | succ rounds ih =>
    rcases held : loop.pendingWrites.entries with _ | ⟨⟨key, reply⟩, rest⟩
    · refine ⟨loop.eofSeen, ?_⟩
      rw [Reorder.advance_of_nil held, flush]
      simp only [held]
      rfl
    · by_cases turn : key = loop.nextWriteSeq
      · -- The reply is passed, and the rounds that are left pass those behind it.
        subst turn
        have fine := decodes (loop.nextWriteSeq, reply) (by rw [held]; exact List.mem_cons_self)
        obtain ⟨counted, left, same, round⟩ := flush_of_turn held fine through
        have popped : (loop.pendingWrites.dropFirst 1).entries = rest := by
          simp [SeqMap.dropFirst, held]
        have pending : counted.pendingWrites = loop.pendingWrites.dropFirst 1 :=
          congrArg (fun order : Order => order.buffer.early) same
        rw [held, List.length_cons] at enough
        rw [round] at through ⊢
        have others : HeldDecodes (counted.passReply reply.response).pendingWrites := by
          intro pair member
          change pair ∈ counted.pendingWrites.entries at member
          rw [pending, popped] at member
          exact decodes pair (by rw [held]; exact List.mem_cons_of_mem _ member)
        have fewer : (counted.passReply reply.response).pendingWrites.entries.length ≤ rounds := by
          change counted.pendingWrites.entries.length ≤ rounds
          rw [pending, popped]
          omega
        obtain ⟨ended, passed⟩ := ih fewer others through
        have advances : loop.order.buffer.advance = _ := Reorder.advance_of_turn held
        refine ⟨ended, ?_⟩
        rw [passed, order_passReply, same, advances]
        rfl
      · refine ⟨loop.eofSeen, ?_⟩
        rw [Reorder.advance_of_early held turn, flush]
        simp only [held, turn, ne_eq, not_false_eq_true, if_true]
        rfl

structure Whole (order : Order) : Prop where
  accounted : ∃ arrived log, Reorder.Delivers 0 arrived order.buffer log ∧
    Reorder.Accounts order.limit order.awaited arrived
  decodes : order.eofSeen = false → HeldDecodes order.buffer.early

theorem Whole.send {order : Order} (whole : Whole order) : Whole order.send := by
  obtain ⟨⟨arrived, log, delivers, accounts⟩, decodes⟩ := whole
  exact ⟨⟨arrived, log, delivers, accounts.send⟩, decodes⟩

theorem Whole.pushPolls (whole : Whole loop.order) (count : Nat) :
    Whole (TunnelLoop.pushPolls count loop).order := by
  induction count generalizing loop with
  | zero => exact whole
  | succ count ih =>
    refine ih ?_
    rw [order_pushPoll]
    exact whole.send

theorem whole_start (sid : Text) (pendingClientData : Option Bytes) :
    Whole (start sid pendingClientData).order := by
  have fresh : Whole ({ sid } : TunnelLoop).order :=
    ⟨⟨[], [], Reorder.delivers_start 0, Reorder.Accounts.start⟩, by simp [order, HeldDecodes,
      SeqMap.empty]⟩
  have first : Whole (opening sid pendingClientData).order := by
    unfold opening
    split
    · exact fresh.send
    · exact fresh
  unfold start
  dsimp only
  split
  · exact first.pushPolls _
  · exact first.pushPolls _

variable {id : Nat} {info : InflightMeta}

theorem Whole.arrive (whole : Whole loop.order)
    (found : loop.inflight[id]? = some info) (item : HeldReply)
    (ended : Bool)
    (decodes : ended = false → loop.eofSeen = false ∧
      (info.seq ≠ loop.nextWriteSeq → writeTunnelResponse item.response ≠ .badBase64)) :
    Whole
      { buffer :=
          if info.seq = loop.nextWriteSeq then
            (⟨loop.nextWriteSeq + 1, loop.pendingWrites⟩ : Reorder HeldReply).advance
          else ⟨loop.nextWriteSeq, loop.pendingWrites.insert info.seq item⟩
        awaited := (loop.inflight.eraseIdx id).map InflightMeta.seq
        limit := loop.seqs.nextSendSeq
        eofSeen := ended } := by
  obtain ⟨⟨arrived, log, delivers, accounts⟩, held⟩ := whole
  have waits : loop.order.awaited[id]? = some info.seq := by simp [order, found]
  have arrives := accounts.arrive waits item
  have erased : loop.order.awaited.eraseIdx id =
      (loop.inflight.eraseIdx id).map InflightMeta.seq := List.eraseIdx_map _ _ _
  rw [erased] at arrives
  by_cases turn : info.seq = loop.nextWriteSeq
  · simp only [turn, if_true] at arrives ⊢
    refine ⟨⟨_, _, delivers.write item, arrives⟩, fun open_ pair member => ?_⟩
    exact held (decodes open_).1 pair (List.mem_of_mem_drop member)
  · simp only [turn, if_false] at arrives ⊢
    have later := accounts.next_le delivers (List.mem_of_getElem? waits)
    have early : loop.nextWriteSeq < info.seq := lt_of_le_of_ne later (Ne.symm turn)
    refine ⟨⟨_, _, delivers.hold early item, arrives⟩, fun open_ pair member => ?_⟩
    rcases SeqMap.mem_insert.mp member with rfl | ⟨old, -⟩
    · exact (decodes open_).2 turn
    · exact held (decodes open_).1 pair old

theorem order_deliver {response : TunnelResponse} (decodes : HeldDecodes loop.pendingWrites)
    (stays : (loop.deliver info response working).stage = .top) :
    ∃ ended, (loop.deliver info response working).order =
      { loop.order with
        buffer :=
          if info.seq = loop.nextWriteSeq then
            (⟨loop.nextWriteSeq + 1, loop.pendingWrites⟩ : Reorder HeldReply).advance
          else ⟨loop.nextWriteSeq, loop.pendingWrites.insert info.seq
            { response, wasEmptyPoll := info.wasEmptyPoll }⟩
        eofSeen := ended } := by
  unfold deliver at stays ⊢
  by_cases turn : info.seq = loop.nextWriteSeq
  · simp only [turn, if_true] at stays ⊢
    have passes : ∀ (counted : TunnelLoop) (left : Option Nat), counted.order = loop.order →
        ((counted.passReply response).flush loop.pendingWrites.entries.length left).stage = .top →
        ∃ ended, ((counted.passReply response).flush loop.pendingWrites.entries.length left).order =
          { loop.order with
            buffer := (⟨loop.nextWriteSeq + 1, loop.pendingWrites⟩ : Reorder HeldReply).advance
            eofSeen := ended } := by
      intro counted left same stays
      have pending : (counted.passReply response).pendingWrites = loop.pendingWrites :=
        congrArg (fun order : Order => order.buffer.early) same
      obtain ⟨ended, passed⟩ := order_flush (by rw [pending]) (by rw [pending]; exact decodes)
        (fun failed => by rw [stays] at failed; contradiction)
      refine ⟨ended, ?_⟩
      rw [passed, order_passReply, same]
      rfl
    cases outcome : writeTunnelResponse response with
    | badBase64 => simp [outcome] at stays
    | noData =>
      simp only [outcome] at stays
      exact passes _ working (order_countEmpty _ _) stays
    | wrote bytes =>
      simp only [outcome] at stays
      rcases working with _ | _ | left
      · exact passes _ none (order_countData _ _) stays
      · simp at stays
      · exact passes _ (some left) (order_countData _ _) stays
  · simp only [turn, if_false] at stays ⊢
    exact ⟨loop.eofSeen, rfl⟩

def Tracked (loop : TunnelLoop) : Prop := loop.stage.inLoop → Whole loop.order

def Smooth (loop : TunnelLoop) (event : Nat × LoopEvent) : Prop :=
  match event.2 with
  | .reply _ .timeout _ => False
  | .reply id (.ok response) _ => ∀ (info : InflightMeta), loop.inflight[id]? = some info →
      info.seq ≠ loop.nextWriteSeq → writeTunnelResponse response ≠ .badBase64
  | _ => True

theorem Whole.sends {after : TunnelLoop} (whole : Whole loop.order)
    (sends : Sends loop after) : Whole after.order := by
  rcases sends.order with same | more
  · exact same ▸ whole
  · exact more ▸ whole.send

theorem tracked_onOk (whole : Whole loop.order) (open_ : loop.eofSeen = false)
    (top : loop.stage = .top)
    (found : loop.inflight[id]? = some info) {response : TunnelResponse}
    (decodes : info.seq ≠ loop.nextWriteSeq → writeTunnelResponse response ≠ .badBase64) :
    Tracked (onOk { loop with inflight := loop.inflight.eraseIdx id } info response working).1 := by
  set taken : TunnelLoop := { loop with inflight := loop.inflight.eraseIdx id } with takenIs
  obtain ⟨sameOrder, sameStage, -⟩ := narrow_fields taken response
  have delivers (stays : ((taken.narrow response).deliver info response working).stage = .top) :
      Whole ((taken.narrow response).deliver info response working).sendBuffered.order := by
    have next : (taken.narrow response).nextWriteSeq = loop.nextWriteSeq :=
      congrArg (fun order : Order => order.buffer.next) sameOrder
    have pending : (taken.narrow response).pendingWrites = loop.pendingWrites :=
      congrArg (fun order : Order => order.buffer.early) sameOrder
    obtain ⟨ended, delivered⟩ := order_deliver (by rw [pending]; exact whole.decodes open_) stays
    have wholeAfter : Whole ((taken.narrow response).deliver info response working).order := by
      rw [delivered, sameOrder, next, pending]
      exact whole.arrive found { response, wasEmptyPoll := info.wasEmptyPoll } ended
        fun _ => ⟨open_, decodes⟩
    exact wholeAfter.sends (sends_sendBuffered _)
  have handled := handled_onOk taken info response working
  generalize taken.onOk info response working = result at handled ⊢
  cases handled with
  | error => exact fun left => left.elim
  | out fine out =>
    -- The loop was left, or a write failed.
    intro inside
    rcases stage_deliver (taken.narrow response) info response working with
      same | leaves | ⟨failed, -⟩
    · exact absurd ((same.trans sameStage).trans top) out
    · simp only [leaves] at inside
      exact inside.elim
    · simp only [failed] at inside
      exact inside.elim
  | numbered fine stays =>
    intro _
    rw [order_manageDepth]
    exact delivers stays
  | unnumbered fine stays =>
    intro _
    rw [order_scheduleRefill]
    exact delivers stays

theorem tracked_onGrace (whole : Whole loop.order) (ended : loop.eofSeen = true)
    (found : loop.inflight[id]? = some info) (outcome : ReplyOutcome) :
    Tracked (onGrace { loop with inflight := loop.inflight.eraseIdx id } info outcome) := by
  cases outcome with
  | ok response =>
    intro _
    have arrives := whole.arrive found { response, wasEmptyPoll := info.wasEmptyPoll } true
      (by simp)
    unfold onGrace
    by_cases turn : info.seq = loop.nextWriteSeq
    · simp only [turn, if_true] at arrives ⊢
      simpa [order, ended, SeqMap.popRun, Reorder.advance] using arrives
    · simp only [turn, if_false] at arrives ⊢
      simpa [order, ended] using arrives
  | batchErr | timeout | dropped => exact fun left => left.elim

theorem tracked_move {maxElevated : Nat} {after : TunnelLoop} {event : Nat × LoopEvent}
    (tracked : Tracked loop) (smooth : Smooth loop event)
    (moves : loop.move maxElevated event = some after) : Tracked after := by
  obtain ⟨⟨behind, permit⟩, steps, rfl⟩ := Option.map_eq_some_iff.mp moves
  obtain ⟨taken, event⟩ := event
  have inside : ∀ {stage : LoopStage}, loop.stage = stage → stage.inLoop → Whole loop.order :=
    fun at_ runs => tracked (at_ ▸ runs)
  cases change_of_step steps with
  | finish | graceOver | leave => exact fun left => left.elim
  | grace top ended found => exact tracked_onGrace (inside top trivial) ended found _
  | idle top idle =>
    rcases sends_onIdle idle with sends | rfl
    · exact fun _ => (inside top trivial).sends sends
    · exact fun left => left.elim
  | refill top => exact fun _ => (inside top trivial).sends (sends_onRefill loop)
  | read top => exact fun _ => (inside top trivial).sends (sends_onRead loop _)
  | @reply id outcome working info top open_ found =>
    cases outcome with
    | ok response => exact tracked_onOk (inside top trivial) open_ top found (smooth info found)
    | timeout => exact smooth.elim
    | batchErr | dropped => exact fun left => left.elim
  -- The permits have no part in the order.
  | loadFree loading => exact fun _ => inside loading trivial
  | loadFull loading =>
    intro _
    rw [order_scheduleRefill]
    exact inside loading trivial
  | add adding =>
    intro _
    rw [order_scheduleRefill]
    exact inside adding trivial

/-- While no reply is lost, held replies come with an awaited one of the next number. -/
theorem writer_never_stalls {maxElevated : Nat} {sid : Text} {pendingClientData : Option Bytes}
    {loop : TunnelLoop}
    (reachable : Reachable (move maxElevated) Smooth (start sid pendingClientData) loop)
    (top : loop.stage = .top) (holds : loop.pendingWrites.entries ≠ []) :
    ∃ info ∈ loop.inflight, info.seq = loop.nextWriteSeq := by
  have tracked : Tracked loop :=
    reachable.invariant Tracked (fun _ => whole_start sid pendingClientData)
      (fun tracked smooth moves => tracked_move tracked smooth moves)
  obtain ⟨arrived, log, delivers, accounts⟩ := (tracked (by rw [top]; trivial)).accounted
  exact List.mem_map.mp (accounts.next_mem delivers holds)

def secondReply : TunnelResponse := { d := some "aGk=".toList, seq := some 1 }

def holdsSecond : TunnelLoop :=
  { start [] none with
    inflight := [{ seq := 0, wasEmptyPoll := true }]
    pendingWrites := SeqMap.empty.insert 1 { response := secondReply, wasEmptyPoll := true }
    refillArmed := true }

theorem writer_never_stalls_behind_first :
    holdsSecond.pendingWrites.entries ≠ [] ∧
      ∃ info ∈ holdsSecond.inflight, info.seq = holdsSecond.nextWriteSeq := by
  have decodes : writeTunnelResponse secondReply ≠ .badBase64 := by decide +kernel
  have reached : Reachable (move 10) Smooth (start [] none) holdsSecond :=
    Reachable.runSteps [(0, .reply 1 (.ok secondReply) none)] .begin
      ⟨fun _ _ _ => decodes, trivial⟩ rfl
  have holds : holdsSecond.pendingWrites.entries ≠ [] := List.cons_ne_nil _ _
  exact ⟨holds, writer_never_stalls reached rfl holds⟩

def stalled : TunnelLoop :=
  { start [] none with
    inflight := []
    consecutiveEmpty := 1
    idleTier := 1
    pendingWrites := SeqMap.empty.insert 1 { response := secondReply, wasEmptyPoll := true }
    refillArmed := true }

theorem writer_stalls_behind_timeout :
    Reachable (move 10) (fun _ _ => True) (start [] none) stalled ∧ stalled.stage = .top ∧
      stalled.pendingWrites.entries ≠ [] ∧
      ¬ ∃ info ∈ stalled.inflight, info.seq = stalled.nextWriteSeq := by
  refine ⟨?_, rfl, List.cons_ne_nil _ _, by simp [stalled]⟩
  exact Reachable.runSteps [(0, .reply 0 .timeout none), (0, .reply 0 (.ok secondReply) none)]
    .begin (permits_of_forall_mem (fun _ _ _ => trivial) _) rfl

end TunnelLoop

end Gvpn
