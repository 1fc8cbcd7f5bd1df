import Gvpn.Data.Runs
import Gvpn.TunnelClient.TunnelLoop

/-! What each step of a session's loop does. -/

namespace Gvpn

open Option

def LoopStage.inLoop : LoopStage → Prop
  | .top | .loading | .adding => True
  | _ => False

def LoopEvent.fails : LoopEvent → Bool
  | .reply _ _ (some _) => true
  | _ => false

namespace TunnelLoop

structure Order where
  buffer : Reorder HeldReply
  awaited : List Nat
  limit : Nat
  eofSeen : Bool

def order (loop : TunnelLoop) : Order where
  buffer := ⟨loop.nextWriteSeq, loop.pendingWrites⟩
  awaited := loop.inflight.map InflightMeta.seq
  limit := loop.seqs.nextSendSeq
  eofSeen := loop.eofSeen

def Order.send (order : Order) : Order :=
  { order with awaited := order.awaited ++ [order.limit], limit := order.limit + 1 }

section Fields

variable (loop : TunnelLoop)

@[simp] theorem order_countData (response : TunnelResponse) :
    (loop.countData response).order = loop.order := rfl

theorem order_passReply (response : TunnelResponse) :
    (loop.passReply response).order =
      { loop.order with
        buffer := { loop.order.buffer with next := loop.order.buffer.next + 1 }
        eofSeen := loop.eofSeen || response.isEof } := rfl

@[simp] theorem order_countEmpty (wasEmptyPoll : Bool) :
    (loop.countEmpty wasEmptyPoll).order = loop.order := by
  unfold countEmpty
  split <;> rfl

@[simp] theorem stage_countEmpty (wasEmptyPoll : Bool) :
    (loop.countEmpty wasEmptyPoll).stage = loop.stage := by
  unfold countEmpty
  split <;> rfl

@[simp] theorem order_scheduleRefill : loop.scheduleRefill.order = loop.order := by
  unfold scheduleRefill
  split <;> rfl

@[simp] theorem stage_scheduleRefill : loop.scheduleRefill.stage = loop.stage := by
  unfold scheduleRefill
  split <;> rfl

@[simp] theorem isElevated_scheduleRefill :
    loop.scheduleRefill.isElevated = loop.isElevated := by
  unfold scheduleRefill
  split <;> rfl

@[simp] theorem order_pushPoll : loop.pushPoll.order = loop.order.send := by
  simp [pushPoll, order, Order.send, sendEmptyPoll]

@[simp] theorem order_pushData (data : Bytes) : (loop.pushData data).order = loop.order.send := by
  simp [pushData, order, Order.send, sendDataOp]

@[simp] theorem order_manageDepth : loop.manageDepth.1.order = loop.order := by
  unfold manageDepth
  repeat' split
  all_goals first
    | rfl
    | exact order_scheduleRefill _

end Fields

structure Sends (loop after : TunnelLoop) : Prop where
  isElevated : after.isElevated = loop.isElevated
  stage : after.stage = loop.stage
  order : after.order = loop.order ∨ after.order = loop.order.send

theorem sends_sendBuffered (loop : TunnelLoop) : Sends loop loop.sendBuffered := by
  unfold sendBuffered
  split
  · exact ⟨rfl, rfl, .inl rfl⟩
  · rename_i data waits
    split
    · exact ⟨rfl, rfl, .inr (order_pushData { loop with bufferedUpload := none } data)⟩
    · exact ⟨rfl, rfl, .inl rfl⟩

variable {loop after : TunnelLoop}

theorem sends_onIdle {allLegacy : Bool} {read : Option ClientRead}
    (idle : loop.onIdle allLegacy read = some after) :
    Sends loop after ∨ after = { loop with stage := .leaving } := by
  have reads : ∀ read, Sends loop (loop.onIdleRead read) ∨
      loop.onIdleRead read = { loop with stage := .leaving } := by
    intro read
    cases read with
    | data bytes =>
      exact .inl ⟨rfl, rfl,
        .inr (order_pushData { loop with consecutiveEmpty := 0, idleTier := 0 } bytes)⟩
    | closed => exact .inr rfl
  unfold onIdle at idle
  split at idle
  · obtain ⟨found, -, rfl⟩ := Option.map_eq_some_iff.mp idle
    exact reads found
  · split at idle
    · cases idle
      exact .inl ⟨rfl, rfl, .inr (order_pushPoll loop)⟩
    · split at idle
      · cases idle
        exact reads _
      · contradiction

theorem sends_onRefill (loop : TunnelLoop) : Sends loop loop.onRefill := by
  unfold onRefill
  dsimp only
  split
  · split
    · -- What waits is sent first, and a poll only when nothing waits.
      cases loop.bufferedUpload with
      | none => exact ⟨rfl, rfl, .inr (order_pushPoll { loop with refillArmed := false })⟩
      | some data =>
        exact ⟨rfl, rfl,
          .inr (order_pushData { loop with refillArmed := false, bufferedUpload := none } data)⟩
    · exact ⟨rfl, rfl, .inl rfl⟩
  · exact ⟨rfl, rfl, .inl rfl⟩

theorem sends_onRead (loop : TunnelLoop) (read : ClientRead) : Sends loop (loop.onRead read) := by
  cases read with
  | closed => exact ⟨rfl, rfl, .inl rfl⟩
  | data bytes =>
    unfold onRead
    dsimp only
    split
    · exact ⟨rfl, rfl, .inr (order_pushData loop bytes)⟩
    · exact ⟨rfl, rfl, .inl rfl⟩

structure Keeps (loop after : TunnelLoop) : Prop where
  isElevated : after.isElevated = loop.isElevated
  inflight : after.inflight = loop.inflight
  seqs : after.seqs = loop.seqs

theorem Keeps.trans {between : TunnelLoop} (first : Keeps loop between)
    (second : Keeps between after) : Keeps loop after :=
  ⟨second.isElevated.trans first.isElevated, second.inflight.trans first.inflight,
    second.seqs.trans first.seqs⟩

theorem keeps_countEmpty (loop : TunnelLoop) (wasEmptyPoll : Bool) :
    Keeps loop (loop.countEmpty wasEmptyPoll) := by
  unfold countEmpty
  split <;> exact ⟨rfl, rfl, rfl⟩

theorem keeps_flush (rounds : Nat) (working : Option Nat) (loop : TunnelLoop) :
    Keeps loop (loop.flush rounds working) := by
  induction rounds generalizing working loop with
  | zero => exact ⟨rfl, rfl, rfl⟩
  | succ rounds ih =>
    rw [flush]
    split
    · exact ⟨rfl, rfl, rfl⟩
    · rename_i key held rest same
      split
      · exact ⟨rfl, rfl, rfl⟩
      · split
        · exact ⟨rfl, rfl, rfl⟩
        · have counted := keeps_countEmpty loop.popHeld held.wasEmptyPoll
          have popped : Keeps loop ((loop.popHeld.countEmpty held.wasEmptyPoll).passReply
              held.response) := ⟨counted.isElevated, counted.inflight, counted.seqs⟩
          exact popped.trans (ih working _)
        · split
          · exact ⟨rfl, rfl, rfl⟩
          · have popped : Keeps loop ((loop.popHeld.countData held.response).passReply
                held.response) := ⟨rfl, rfl, rfl⟩
            exact popped.trans (ih _ _)

theorem keeps_deliver (loop : TunnelLoop) (info : InflightMeta) (response : TunnelResponse)
    (working : Option Nat) : Keeps loop (loop.deliver info response working) := by
  unfold deliver
  split
  · split
    · exact ⟨rfl, rfl, rfl⟩
    · have counted := keeps_countEmpty loop info.wasEmptyPoll
      have passed : Keeps loop ((loop.countEmpty info.wasEmptyPoll).passReply response) :=
        ⟨counted.isElevated, counted.inflight, counted.seqs⟩
      exact passed.trans (keeps_flush _ _ _)
    · split
      · exact ⟨rfl, rfl, rfl⟩
      · have passed : Keeps loop ((loop.countData response).passReply response) := ⟨rfl, rfl, rfl⟩
        exact passed.trans (keeps_flush _ _ _)
  · exact ⟨rfl, rfl, rfl⟩

theorem keeps_onGrace (loop : TunnelLoop) (info : InflightMeta) (outcome : ReplyOutcome) :
    Keeps loop (loop.onGrace info outcome) := by
  cases outcome with
  | ok response =>
    unfold onGrace
    dsimp only
    split <;> exact ⟨rfl, rfl, rfl⟩
  | batchErr | timeout | dropped => exact ⟨rfl, rfl, rfl⟩

theorem stage_onGrace (loop : TunnelLoop) (info : InflightMeta) (outcome : ReplyOutcome) :
    (loop.onGrace info outcome).stage = loop.stage ∨
      (loop.onGrace info outcome).stage = .leaving := by
  cases outcome with
  | ok response =>
    unfold onGrace
    dsimp only
    split <;> exact .inl rfl
  | batchErr | timeout | dropped => exact .inr rfl

theorem stage_flush (rounds : Nat) (working : Option Nat) (loop : TunnelLoop) :
    (loop.flush rounds working).stage = loop.stage ∨
      (loop.flush rounds working).stage = .returned ∧ working ≠ none := by
  induction rounds generalizing working loop with
  | zero => exact .inl rfl
  | succ rounds ih =>
    rw [flush]
    split
    · exact .inl rfl
    · split
      · exact .inl rfl
      · split
        · exact .inl rfl
        · rcases ih working _ with same | failed
          · left
            rw [same]
            exact stage_countEmpty _ _
          · exact .inr failed
        · split
          · exact .inr ⟨rfl, by simp⟩
          · rcases ih (working.map (· - 1)) _ with same | ⟨failed, given⟩
            · exact .inl same
            · exact .inr ⟨failed, fun none_ => given (by rw [none_]; rfl)⟩

theorem stage_deliver (loop : TunnelLoop) (info : InflightMeta) (response : TunnelResponse)
    (working : Option Nat) :
    (loop.deliver info response working).stage = loop.stage ∨
      (loop.deliver info response working).stage = .leaving ∨
      (loop.deliver info response working).stage = .returned ∧ working ≠ none := by
  unfold deliver
  split
  · split
    · exact .inr (.inl rfl)
    · rcases stage_flush loop.pendingWrites.entries.length working
        ((loop.countEmpty info.wasEmptyPoll).passReply response) with same | failed
      · left
        rw [same]
        exact stage_countEmpty _ _
      · exact .inr (.inr failed)
    · split
      · exact .inr (.inr ⟨rfl, by simp⟩)
      · rcases stage_flush loop.pendingWrites.entries.length (working.map (· - 1))
          ((loop.countData response).passReply response) with same | ⟨failed, given⟩
        · exact .inl same
        · exact .inr (.inr ⟨failed, fun none_ => given (by rw [none_]; rfl)⟩)
  · exact .inl rfl

def narrow (loop : TunnelLoop) (response : TunnelResponse) : TunnelLoop :=
  if response.seq.isNone then { loop with maxInflight := 1 } else loop

theorem narrow_fields (loop : TunnelLoop) (response : TunnelResponse) :
    (loop.narrow response).order = loop.order ∧ (loop.narrow response).stage = loop.stage ∧
      Keeps loop (loop.narrow response) := by
  unfold narrow
  split <;> exact ⟨rfl, rfl, rfl, rfl, rfl⟩

inductive Handled (loop : TunnelLoop) (info : InflightMeta) (response : TunnelResponse)
    (working : Option Nat) : TunnelLoop × Permit → Prop
  -- It carries an error.
  | error (carried : response.e.isSome) : Handled loop info response working
      ({ loop.narrow response with stage := .leaving }, .keep)
  -- The loop is left, or a write fails.
  | out (fine : response.e = none)
      (out : ((loop.narrow response).deliver info response working).stage ≠ .top) :
      Handled loop info response working
        ((loop.narrow response).deliver info response working, .keep)
  | numbered (fine : response.e = none)
      (stays : ((loop.narrow response).deliver info response working).stage = .top) :
      Handled loop info response working
        ((loop.narrow response).deliver info response working).sendBuffered.manageDepth
  | unnumbered (fine : response.e = none)
      (stays : ((loop.narrow response).deliver info response working).stage = .top) :
      Handled loop info response working
        (((loop.narrow response).deliver info response working).sendBuffered.scheduleRefill, .keep)

theorem handled_onOk (loop : TunnelLoop) (info : InflightMeta) (response : TunnelResponse)
    (working : Option Nat) :
    Handled loop info response working (loop.onOk info response working) := by
  unfold onOk
  change Handled loop info response working
    (if response.e.isSome then ({ loop.narrow response with stage := .leaving }, .keep)
    else if ((loop.narrow response).deliver info response working).stage ≠ .top then
      ((loop.narrow response).deliver info response working, .keep)
    else if response.seq.isSome then
      ((loop.narrow response).deliver info response working).sendBuffered.manageDepth
    else
      (((loop.narrow response).deliver info response working).sendBuffered.scheduleRefill, .keep))
  split
  · rename_i carried
    exact .error carried
  · rename_i fine
    have fine := Option.not_isSome_iff_eq_none.mp fine
    split
    · rename_i out
      exact .out fine out
    · rename_i stays
      split
      · exact .numbered fine (not_not.mp stays)
      · exact .unnumbered fine (not_not.mp stays)

theorem takeInflight_eq_some_iff {taken : TunnelLoop} {id : Nat} {info : InflightMeta} :
    loop.takeInflight id = some (info, taken) ↔ loop.inflight[id]? = some info ∧
      taken = { loop with inflight := loop.inflight.eraseIdx id } := by
  unfold takeInflight
  cases loop.inflight[id]? with
  | none => simp
  | some found =>
    simp only [map_some, some.injEq, Prod.mk.injEq]
    exact and_congr_right fun _ => eq_comm

inductive Change (maxElevated taken : Nat) (loop : TunnelLoop) :
    LoopEvent → TunnelLoop → Permit → Prop
  | finish (top : loop.stage = .top) :
      Change maxElevated taken loop .finish { loop with stage := .leaving } .keep
  | grace {id : Nat} {outcome : ReplyOutcome} {info : InflightMeta} (top : loop.stage = .top)
      (ended : loop.eofSeen = true) (found : loop.inflight[id]? = some info) :
      Change maxElevated taken loop (.grace id outcome)
        (onGrace { loop with inflight := loop.inflight.eraseIdx id } info outcome) .keep
  | graceOver (top : loop.stage = .top) :
      Change maxElevated taken loop .graceOver { loop with stage := .leaving } .keep
  | idle {allLegacy : Bool} {read : Option ClientRead} {after : TunnelLoop}
      (top : loop.stage = .top) (idle : loop.onIdle allLegacy read = some after) :
      Change maxElevated taken loop (.idle allLegacy read) after .keep
  | refill (top : loop.stage = .top) :
      Change maxElevated taken loop .refill loop.onRefill .keep
  | reply {id : Nat} {outcome : ReplyOutcome} {working : Option Nat} {info : InflightMeta}
      (top : loop.stage = .top) (open_ : loop.eofSeen = false)
      (found : loop.inflight[id]? = some info)
      (fails : working.isSome → (onReply { loop with inflight := loop.inflight.eraseIdx id } info
        outcome working).1.stage = .returned) :
      Change maxElevated taken loop (.reply id outcome working)
        (onReply { loop with inflight := loop.inflight.eraseIdx id } info outcome working).1
        (onReply { loop with inflight := loop.inflight.eraseIdx id } info outcome working).2
  | read {read : ClientRead} (top : loop.stage = .top) :
      Change maxElevated taken loop (.read read) (loop.onRead read) .keep
  | loadFree (loading : loop.stage = .loading) (free : taken < maxElevated) :
      Change maxElevated taken loop .load { loop with stage := .adding } .keep
  | loadFull (loading : loop.stage = .loading) (full : maxElevated ≤ taken) :
      Change maxElevated taken loop .load ({ loop with stage := .top } : TunnelLoop).scheduleRefill
        .keep
  | add (adding : loop.stage = .adding) :
      Change maxElevated taken loop .add
        ({ loop with
          isElevated := true
          maxInflight := min (loop.maxInflight + 1) inflightActive
          stage := .top } : TunnelLoop).scheduleRefill .acquire
  | leave (leaving : loop.stage = .leaving) :
      Change maxElevated taken loop .leave { loop with stage := .ended }
        (if loop.isElevated then .release else .keep)

variable {maxElevated : Nat}

theorem change_of_stepTop {taken : Nat} {permit : Permit}
    {event : LoopEvent} (top : loop.stage = .top)
    (steps : loop.stepTop event = some (after, permit)) :
    Change maxElevated taken loop event after permit := by
  unfold stepTop at steps
  split at steps
  · cases event with
    | finish =>
      obtain ⟨rfl, rfl⟩ := Prod.mk.inj (some.inj steps)
      exact .finish top
    | _ => contradiction
  · split at steps
    · rename_i ended
      cases event with
      | grace id outcome =>
        obtain ⟨⟨info, behind⟩, taking, same⟩ := Option.map_eq_some_iff.mp steps
        obtain ⟨found, rfl⟩ := takeInflight_eq_some_iff.mp taking
        obtain ⟨rfl, rfl⟩ := Prod.mk.inj same
        exact .grace top ended found
      | graceOver =>
        obtain ⟨rfl, rfl⟩ := Prod.mk.inj (some.inj steps)
        exact .graceOver top
      | _ => contradiction
    · rename_i open_
      split at steps
      · cases event with
        | idle allLegacy read =>
          obtain ⟨behind, idle, same⟩ := Option.map_eq_some_iff.mp steps
          obtain ⟨rfl, rfl⟩ := Prod.mk.inj same
          exact .idle top idle
        | _ => contradiction
      · cases event with
        | refill =>
          obtain ⟨-, same⟩ := Option.ite_none_right_eq_some.mp steps
          obtain ⟨rfl, rfl⟩ := Prod.mk.inj (some.inj same)
          exact .refill top
        | reply id outcome working =>
          cases taking : loop.takeInflight id with
          | none => simp [taking] at steps
          | some pair =>
            obtain ⟨info, behind⟩ := pair
            obtain ⟨found, rfl⟩ := takeInflight_eq_some_iff.mp taking
            simp only [taking] at steps
            obtain ⟨fails, same⟩ := Option.ite_none_left_eq_some.mp steps
            obtain ⟨rfl, rfl⟩ := Prod.mk.inj (some.inj same)
            exact .reply top (Bool.eq_false_iff.mpr open_) found
              fun given => not_not.mp fun other => fails ⟨given, other⟩
        | read read =>
          obtain ⟨-, same⟩ := Option.ite_none_right_eq_some.mp steps
          obtain ⟨rfl, rfl⟩ := Prod.mk.inj (some.inj same)
          exact .read top
        | _ => contradiction

theorem change_of_step {taken : Nat} {permit : Permit}
    {event : LoopEvent} (steps : loop.step maxElevated taken event = some (after, permit)) :
    Change maxElevated taken loop event after permit := by
  unfold step at steps
  split at steps
  · rename_i top
    exact change_of_stepTop top steps
  · rename_i loading
    split at steps
    · rename_i free
      obtain ⟨rfl, rfl⟩ := Prod.mk.inj (some.inj steps)
      exact .loadFree loading free
    · rename_i full
      obtain ⟨rfl, rfl⟩ := Prod.mk.inj (some.inj steps)
      exact .loadFull loading (Nat.not_lt.mp full)
  · rename_i adding
    obtain ⟨rfl, rfl⟩ := Prod.mk.inj (some.inj steps)
    exact .add adding
  · rename_i leaving
    obtain ⟨rfl, rfl⟩ := Prod.mk.inj (some.inj steps)
    exact .leave leaving
  · contradiction

def Order.Numbered (order : Order) : Prop := ∀ seq ∈ order.awaited, seq < order.limit

theorem Order.Numbered.send {order : Order} (numbered : order.Numbered) : order.send.Numbered := by
  intro seq member
  show seq < order.limit + 1
  rcases List.mem_append.mp member with old | new
  · have := numbered seq old
    omega
  · have := List.mem_singleton.mp new
    omega

def Renumbers (loop after : TunnelLoop) : Prop :=
  loop.order.Numbered → after.order.Numbered ∧ loop.order.limit ≤ after.order.limit

theorem Renumbers.trans {between : TunnelLoop} (first : Renumbers loop between)
    (second : Renumbers between after) : Renumbers loop after := by
  intro numbered
  obtain ⟨between, atLeast⟩ := first numbered
  obtain ⟨after, more⟩ := second between
  exact ⟨after, le_trans atLeast more⟩

theorem renumbers_of_order_eq (same : after.order = loop.order) :
    Renumbers loop after := by
  intro numbered
  rw [same]
  exact ⟨numbered, le_rfl⟩

theorem Keeps.renumbers (keeps : Keeps loop after) :
    Renumbers loop after := by
  intro numbered
  have awaited : after.order.awaited = loop.order.awaited := by simp [order, keeps.inflight]
  have limit : after.order.limit = loop.order.limit := by simp [order, keeps.seqs]
  unfold Order.Numbered
  rw [awaited, limit]
  exact ⟨numbered, le_rfl⟩

theorem Sends.renumbers (sends : Sends loop after) :
    Renumbers loop after := by
  intro numbered
  rcases sends.order with same | more
  · rw [same]
    exact ⟨numbered, le_rfl⟩
  · rw [more]
    exact ⟨numbered.send, Nat.le_succ _⟩

theorem renumbers_eraseIdx (loop : TunnelLoop) (id : Nat) :
    Renumbers loop { loop with inflight := loop.inflight.eraseIdx id } := by
  intro numbered
  refine ⟨fun seq member => ?_, le_rfl⟩
  obtain ⟨info, inside, rfl⟩ := List.mem_map.mp member
  exact numbered info.seq (List.mem_map.mpr ⟨info, List.mem_of_mem_eraseIdx inside, rfl⟩)

theorem renumbers_onReply (loop : TunnelLoop) (info : InflightMeta) (outcome : ReplyOutcome)
    (working : Option Nat) : Renumbers loop (loop.onReply info outcome working).1 := by
  cases outcome with
  | ok response =>
    show Renumbers loop (loop.onOk info response working).1
    obtain ⟨-, -, narrowed⟩ := narrow_fields loop response
    have delivered :=
      (narrowed.trans (keeps_deliver (loop.narrow response) info response working)).renumbers
    have sent := delivered.trans (sends_sendBuffered _).renumbers
    have handled := handled_onOk loop info response working
    generalize loop.onOk info response working = result at handled ⊢
    cases handled with
    | error =>
      exact (Keeps.mk narrowed.isElevated narrowed.inflight narrowed.seqs :
        Keeps loop { loop.narrow response with stage := .leaving }).renumbers
    | out => exact delivered
    | numbered => exact sent.trans (renumbers_of_order_eq (order_manageDepth _))
    | unnumbered => exact sent.trans (renumbers_of_order_eq (order_scheduleRefill _))
  | timeout | batchErr | dropped => exact renumbers_of_order_eq rfl

theorem renumbers_move {event : Nat × LoopEvent}
    (moves : loop.move maxElevated event = some after) : Renumbers loop after := by
  obtain ⟨⟨behind, permit⟩, steps, rfl⟩ := Option.map_eq_some_iff.mp moves
  obtain ⟨taken, event⟩ := event
  cases change_of_step steps with
  | finish | graceOver | leave | loadFree => exact renumbers_of_order_eq rfl
  | loadFull | add => exact renumbers_of_order_eq (order_scheduleRefill _)
  | grace => exact (renumbers_eraseIdx loop _).trans (keeps_onGrace _ _ _).renumbers
  | idle top idle =>
    rcases sends_onIdle idle with sends | rfl
    · exact sends.renumbers
    · exact renumbers_of_order_eq rfl
  | refill => exact (sends_onRefill loop).renumbers
  | read => exact (sends_onRead loop _).renumbers
  | reply => exact (renumbers_eraseIdx loop _).trans (renumbers_onReply _ _ _ _)

theorem start_fields (sid : Text) (pendingClientData : Option Bytes) :
    (start sid pendingClientData).stage = .top ∧
      (start sid pendingClientData).isElevated = false := by
  have polls : ∀ (count : Nat) (loop : TunnelLoop), (pushPolls count loop).stage = loop.stage ∧
      (pushPolls count loop).isElevated = loop.isElevated := by
    intro count
    induction count with
    | zero => exact fun loop => ⟨rfl, rfl⟩
    | succ count ih => exact fun loop => ih loop.pushPoll
  have first : (opening sid pendingClientData).stage = .top ∧
      (opening sid pendingClientData).isElevated = false := by
    unfold opening
    split <;> exact ⟨rfl, rfl⟩
  unfold start
  dsimp only
  split <;> simp [polls, first]

end TunnelLoop

end Gvpn
