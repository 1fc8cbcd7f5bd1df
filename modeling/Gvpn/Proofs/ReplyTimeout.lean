import Gvpn.Proofs.LoopSteps
import Gvpn.TunnelClient.ReplyTimeout

/-! When a session gives a reply up while its batch is in time. -/

namespace Gvpn

open List Option

def TimedOp.due (batchTimeout : Nat) (op : TimedOp) : Option Nat :=
  if op.answer.isSome then none
  else
    match op.firedAt with
    | none => some (op.queuedAt + replyTimeoutSlack)
    | some fired => some (fired + batchTimeout)

theorem wrapReply_eq_timeout_iff {wait now : Nat} {op : TimedOp} :
    wrapReply wait now op = some .timeout ↔
      op.answer = none ∧ ∃ first, op.firstPoll = some first ∧ first + wait ≤ now := by
  unfold wrapReply
  cases op.answer with
  | some answer => cases answer <;> simp [Answer.outcome]
  | none => cases op.firstPoll <;> simp

namespace TimedLoop

def Budget (batchTimeout : Nat) (state : TimedLoop) : TimedEvent → Prop
  | .wait duration =>
    ∀ op ∈ state.ops, ∀ due, op.due batchTimeout = some due → state.now + duration ≤ due
  | .poll _ _ => ∀ op ∈ state.ops, ∀ due, op.due batchTimeout = some due → state.now < due
  | _ => True

def TimesOut (wait : Nat) (state : TimedLoop) : TimedEvent → Prop
  | .poll id _ => ∃ info op, state.loop.inflight[id]? = some info ∧
      state.ops[info.seq]? = some op ∧ wrapReply wait state.now op = some .timeout
  | _ => False

def NeverTimesOut (wait batchTimeout : Nat) : Prop :=
  ∀ {maxElevated : Nat} {sid : Text} {pendingClientData : Option Bytes} {state : TimedLoop},
    Reachable (step maxElevated wait) (Budget batchTimeout) (start sid pendingClientData) state →
    ∀ event, Budget batchTimeout state event → ¬ state.TimesOut wait event

structure Covers (state : TimedLoop) : Prop where
  numbered : state.loop.order.Numbered
  length : state.ops.length = state.loop.order.limit

theorem covers_start (sid : Text) (pendingClientData : Option Bytes) :
    (start sid pendingClientData).Covers := by
  have two : (start sid pendingClientData).loop.order.awaited = [0, 1] ∧
      (start sid pendingClientData).loop.order.limit = 2 ∧
      (start sid pendingClientData).ops.length = 2 := by
    match pendingClientData with
    | none => exact ⟨rfl, rfl, rfl⟩
    | some [] => exact ⟨rfl, rfl, rfl⟩
    | some (byte :: bytes) => exact ⟨rfl, rfl, rfl⟩
  obtain ⟨awaited, limit, length⟩ := two
  refine ⟨?_, length.trans limit.symm⟩
  unfold TunnelLoop.Order.Numbered
  rw [awaited, limit]
  decide

variable {state : TimedLoop} {event : TimedEvent} {op : TimedOp}

theorem Covers.follow (covers : state.Covers) {loop : TunnelLoop}
    (renumbers : TunnelLoop.Renumbers state.loop loop) : (state.follow loop).Covers := by
  obtain ⟨numbered, more⟩ := renumbers covers.numbered
  refine ⟨numbered, ?_⟩
  have known := covers.length
  have sent : loop.order.limit = loop.seqs.nextSendSeq := rfl
  simp only [TimedLoop.follow, length_append, length_replicate]
  omega

theorem Covers.onOp {after : TimedLoop} (covers : state.Covers) {seq : Nat}
    {change : TimedOp → Option TimedOp} (steps : state.onOp seq change = some after) :
    after.Covers := by
  obtain ⟨changed, -, rfl⟩ := Option.map_eq_some_iff.mp steps
  exact ⟨covers.numbered, by simpa using covers.length⟩

theorem Covers.step {maxElevated wait : Nat} {after : TimedLoop} (covers : state.Covers)
    (steps : state.step maxElevated wait event = some after) : after.Covers := by
  cases event with
  | wait duration =>
    cases steps
    exact ⟨covers.numbered, covers.length⟩
  | fire seq | complete seq answer => exact covers.onOp steps
  | poll id working =>
    unfold TimedLoop.step at steps
    cases awaited : state.loop.inflight[id]? with
    | none => simp [awaited] at steps
    | some info =>
      simp only [awaited] at steps
      split at steps
      · obtain ⟨behind, moves, rfl⟩ := Option.map_eq_some_iff.mp steps
        exact covers.follow (TunnelLoop.renumbers_move moves)
      · obtain ⟨-, polls⟩ := Option.ite_none_right_eq_some.mp steps
        exact covers.onOp polls
  | loop taken event =>
    obtain ⟨-, moved⟩ := Option.ite_none_left_eq_some.mp steps
    obtain ⟨behind, moves, rfl⟩ := Option.map_eq_some_iff.mp moved
    exact covers.follow (TunnelLoop.renumbers_move moves)

theorem exists_op_of_reachable {maxElevated wait : Nat} {allowed : TimedLoop → TimedEvent → Prop}
    {sid : Text} {pendingClientData : Option Bytes}
    (reachable : Reachable (TimedLoop.step maxElevated wait) allowed (start sid pendingClientData) state)
    {info : InflightMeta} (awaited : info ∈ state.loop.inflight) :
    ∃ op, state.ops[info.seq]? = some op := by
  have covers : state.Covers := reachable.invariant Covers (covers_start sid pendingClientData)
    fun covers _ steps => covers.step steps
  have below := covers.numbered info.seq (List.mem_map.mpr ⟨info, awaited, rfl⟩)
  rw [← covers.length] at below
  exact ⟨_, getElem?_eq_getElem below⟩

structure InTime (batchTimeout now : Nat) (op : TimedOp) : Prop where
  queued : op.queuedAt ≤ now
  polled : ∀ first, op.firstPoll = some first → op.queuedAt ≤ first
  fired : ∀ fired, op.firedAt = some fired → fired ≤ op.queuedAt + replyTimeoutSlack
  answered : op.answer.isSome → op.firedAt.isSome
  due : ∀ due, op.due batchTimeout = some due → now ≤ due

theorem inTime_queued {batchTimeout queuedAt now : Nat} (before : queuedAt ≤ now)
    (soon : now ≤ queuedAt + replyTimeoutSlack) : InTime batchTimeout now { queuedAt } where
  queued := before
  polled := by simp
  fired := by simp
  answered := by simp
  due := by
    intro due same
    cases same
    exact soon

def AllInTime (batchTimeout : Nat) (state : TimedLoop) : Prop :=
  ∀ op ∈ state.ops, InTime batchTimeout state.now op

theorem allInTime_start (batchTimeout : Nat) (sid : Text) (pendingClientData : Option Bytes) :
    (start sid pendingClientData).AllInTime batchTimeout := by
  have depth : (TunnelLoop.opening sid pendingClientData).maxInflight = 2 := by
    unfold TunnelLoop.opening
    split <;> rfl
  have quick : prefillDelay ≤ replyTimeoutSlack := by decide
  intro op member
  unfold start at member ⊢
  dsimp only at member ⊢
  rw [depth] at member ⊢
  set polls := 2 - (TunnelLoop.opening sid pendingClientData).inflight.length with pollsIs
  have short : (polls - 1) * prefillDelay ≤ replyTimeoutSlack :=
    le_trans (Nat.mul_le_mul_right prefillDelay (by omega : polls - 1 ≤ 1)) (by omega)
  rcases List.mem_append.mp member with first | poll
  · obtain ⟨info, -, rfl⟩ := List.mem_map.mp first
    exact inTime_queued (Nat.zero_le _) (by omega)
  · obtain ⟨i, inRange, rfl⟩ := List.mem_map.mp poll
    have last : i ≤ polls - 1 := by
      have := List.mem_range.mp inRange
      omega
    exact inTime_queued (Nat.mul_le_mul_right _ last) (by omega)

theorem AllInTime.follow {batchTimeout : Nat} (inTime : state.AllInTime batchTimeout)
    (loop : TunnelLoop) : (state.follow loop).AllInTime batchTimeout := by
  intro op member
  rcases List.mem_append.mp member with old | new
  · exact inTime op old
  · obtain rfl := eq_of_mem_replicate new
    exact inTime_queued le_rfl (Nat.le_add_right _ _)

theorem AllInTime.onOp {batchTimeout : Nat} {after : TimedLoop}
    (inTime : state.AllInTime batchTimeout) {seq : Nat} {change : TimedOp → Option TimedOp}
    (changes : ∀ op changed, InTime batchTimeout state.now op → change op = some changed → InTime batchTimeout state.now changed)
    (steps : state.onOp seq change = some after) : after.AllInTime batchTimeout := by
  obtain ⟨changed, bound, rfl⟩ := Option.map_eq_some_iff.mp steps
  obtain ⟨op, found, same⟩ := Option.bind_eq_some_iff.mp bound
  intro other member
  rcases mem_or_eq_of_mem_set member with old | rfl
  · exact inTime other old
  · exact changes op _ (inTime op (mem_of_getElem? found)) same

theorem AllInTime.step {maxElevated wait batchTimeout : Nat} {after : TimedLoop}
    (inTime : state.AllInTime batchTimeout) (budget : Budget batchTimeout state event)
    (steps : state.step maxElevated wait event = some after) : after.AllInTime batchTimeout := by
  cases event with
  | wait duration =>
    cases steps
    intro op member
    obtain ⟨queued, polled, fired, answered, -⟩ := inTime op member
    exact ⟨le_trans queued (Nat.le_add_right _ _), polled, fired, answered, budget op member⟩
  | fire seq =>
    refine inTime.onOp (fun op changed before fires => ?_) steps
    obtain ⟨unfired, same⟩ := Option.ite_none_right_eq_some.mp fires
    cases same
    have unfired := Option.isNone_iff_eq_none.mp unfired
    have unanswered : op.answer.isSome = false := by
      by_contra answered
      simpa [unfired] using before.answered (Bool.not_eq_false _ ▸ answered)
    have early : state.now ≤ op.queuedAt + replyTimeoutSlack :=
      before.due _ (by simp [TimedOp.due, unanswered, unfired])
    refine ⟨before.queued, before.polled, ?_, fun _ => rfl, ?_⟩
    · intro fired same
      cases same
      exact early
    · intro due same
      simp only [TimedOp.due, unanswered, Bool.false_eq_true, if_false, some.injEq] at same
      omega
  | complete seq answer =>
    refine inTime.onOp (fun op changed before completes => ?_) steps
    obtain ⟨⟨fired, -⟩, same⟩ := Option.ite_none_right_eq_some.mp completes
    cases same
    -- Nothing more is due.
    exact ⟨before.queued, before.polled, before.fired, fun _ => fired, by simp [TimedOp.due]⟩
  | poll id working =>
    unfold TimedLoop.step at steps
    cases awaited : state.loop.inflight[id]? with
    | none => simp [awaited] at steps
    | some info =>
      simp only [awaited] at steps
      split at steps
      · obtain ⟨behind, -, rfl⟩ := Option.map_eq_some_iff.mp steps
        exact inTime.follow behind
      · obtain ⟨-, polls⟩ := Option.ite_none_right_eq_some.mp steps
        refine inTime.onOp (fun op changed before first => ?_) polls
        obtain ⟨-, same⟩ := Option.ite_none_right_eq_some.mp first
        cases same
        refine ⟨before.queued, ?_, before.fired, before.answered, before.due⟩
        intro first same
        cases same
        exact before.queued
  | loop taken event =>
    obtain ⟨-, moves⟩ := Option.ite_none_left_eq_some.mp steps
    obtain ⟨behind, -, rfl⟩ := Option.map_eq_some_iff.mp moves
    exact inTime.follow behind

theorem not_timesOut {wait batchTimeout : Nat} (covers : batchTimeout + replyTimeoutSlack ≤ wait)
    (inTime : state.AllInTime batchTimeout) (budget : Budget batchTimeout state event) :
    ¬ state.TimesOut wait event := by
  cases event with
  | poll id working =>
    rintro ⟨info, op, -, found, late⟩
    have member := mem_of_getElem? found
    obtain ⟨-, polled, fired, -, -⟩ := inTime op member
    have pending := budget op member
    obtain ⟨unanswered, first, looked, passed⟩ := wrapReply_eq_timeout_iff.mp late
    have began := polled first looked
    cases sent : op.firedAt with
    | none =>
      have soon := pending (op.queuedAt + replyTimeoutSlack)
        (by simp [TimedOp.due, unanswered, sent])
      omega
    | some at_ =>
      have soon := pending (at_ + batchTimeout) (by simp [TimedOp.due, unanswered, sent])
      have early := fired at_ sent
      omega
  | _ => exact id

theorem neverTimesOut_of_covers {wait batchTimeout : Nat}
    (covers : batchTimeout + replyTimeoutSlack ≤ wait) : NeverTimesOut wait batchTimeout := by
  intro maxElevated sid pendingClientData state reachable event budget
  refine not_timesOut covers ?_ budget
  exact reachable.invariant (AllInTime batchTimeout)
    (allInTime_start batchTimeout sid pendingClientData)
    fun inTime budget steps => inTime.step budget steps

theorem neverTimesOut_muxReplyTimeout (requestTimeoutSecs : Nat) :
    NeverTimesOut (muxReplyTimeout requestTimeoutSecs) (batchTimeout requestTimeoutSecs) :=
  neverTimesOut_of_covers le_rfl

def waiting (now : Nat) (firedAt : Option Nat) : TimedLoop where
  now := now
  loop := TunnelLoop.start [] none
  ops :=
    [{ queuedAt := 0, firedAt := some prefillDelay, answer := some .err },
      { queuedAt := prefillDelay, firstPoll := some prefillDelay, firedAt }]

theorem reachable_waiting (maxElevated wait batchTimeout : Nat) :
    Reachable (step maxElevated wait) (Budget batchTimeout) (start [] none)
      (waiting prefillDelay none) := by
  have looks : Budget batchTimeout (start [] none) (.poll 1 none) := by
    intro op member due same
    have queued : op = { queuedAt := 0 } ∨ op = { queuedAt := prefillDelay } := by
      simpa [start, TunnelLoop.opening, inflightOptimist, inflightActive, range_succ]
        using member
    rcases queued with rfl | rfl
    · cases same
      decide
    · cases same
      decide
  exact Reachable.runSteps [.poll 1 none, .fire 0, .complete 0 .err] .begin
    ⟨looks, trivial, trivial, trivial⟩ rfl

theorem eq_of_due_waiting {batchTimeout now due : Nat} {firedAt : Option Nat}
    (member : op ∈ (waiting now firedAt).ops) (same : op.due batchTimeout = some due) :
    op = { queuedAt := prefillDelay, firstPoll := some prefillDelay, firedAt } := by
  have either : op = { queuedAt := 0, firedAt := some prefillDelay, answer := some .err } ∨
      op = { queuedAt := prefillDelay, firstPoll := some prefillDelay, firedAt } := by
    simpa [waiting] using member
  rcases either with rfl | second
  · simp [TimedOp.due] at same
  · exact second

theorem due_queued {batchTimeout now due : Nat} (member : op ∈ (waiting now none).ops)
    (same : op.due batchTimeout = some due) : due = prefillDelay + replyTimeoutSlack := by
  obtain rfl := eq_of_due_waiting member same
  simp only [TimedOp.due, isSome_none, Bool.false_eq_true, if_false,
    some.injEq] at same
  exact same.symm

theorem due_fired {batchTimeout now fired due : Nat} (member : op ∈ (waiting now (some fired)).ops)
    (same : op.due batchTimeout = some due) : due = fired + batchTimeout := by
  obtain rfl := eq_of_due_waiting member same
  simp only [TimedOp.due, isSome_none, Bool.false_eq_true, if_false,
    some.injEq] at same
  exact same.symm

section Waiting

variable {maxElevated wait batchTimeout now : Nat} {firedAt : Option Nat} {first : TimedLoop}

theorem reachable_wait {duration : Nat}
    (reached : Reachable (step maxElevated wait) (Budget batchTimeout) first (waiting now firedAt))
    (early : ∀ op ∈ (waiting now firedAt).ops, ∀ due, op.due batchTimeout = some due →
      now + duration ≤ due) :
    Reachable (step maxElevated wait) (Budget batchTimeout) first
      (waiting (now + duration) firedAt) := by
  have budget : Budget batchTimeout (waiting now firedAt) (.wait duration) := early
  exact reached.next budget rfl

theorem reachable_fire
    (reached : Reachable (step maxElevated wait) (Budget batchTimeout) first (waiting now none)) :
    Reachable (step maxElevated wait) (Budget batchTimeout) first (waiting now (some now)) := by
  have budget : Budget batchTimeout (waiting now none) (.fire 1) := trivial
  exact reached.next budget rfl

theorem timesOut_waiting (passed : prefillDelay + wait ≤ now) :
    (waiting now firedAt).TimesOut wait (.poll 1 none) :=
  ⟨{ seq := 1, wasEmptyPoll := true },
    { queuedAt := prefillDelay, firstPoll := some prefillDelay, firedAt }, rfl, rfl,
    wrapReply_eq_timeout_iff.mpr ⟨rfl, prefillDelay, rfl, passed⟩⟩

end Waiting

theorem not_neverTimesOut {wait batchTimeout : Nat} (positive : 0 < batchTimeout)
    (short : wait < batchTimeout + replyTimeoutSlack) : ¬ NeverTimesOut wait batchTimeout := by
  intro never
  obtain ⟨idle, atMost, inside, late⟩ : ∃ idle, idle ≤ replyTimeoutSlack ∧ idle ≤ wait ∧
      wait < idle + batchTimeout := by
    by_cases long : replyTimeoutSlack ≤ wait
    · exact ⟨replyTimeoutSlack, le_rfl, long, by omega⟩
    · exact ⟨wait, by omega, le_rfl, by omega⟩
  have begun := reachable_waiting maxElevatedTotal wait batchTimeout
  generalize delayIs : prefillDelay = delay at begun
  have queued : Reachable (step maxElevatedTotal wait) (Budget batchTimeout) (start [] none)
      (waiting (delay + idle) none) := by
    refine reachable_wait begun fun op member due same => ?_
    have soon := due_queued member same
    omega
  have fired := reachable_fire queued
  have waited : Reachable (step maxElevatedTotal wait) (Budget batchTimeout) (start [] none)
      (waiting (delay + idle + (wait - idle)) (some (delay + idle))) := by
    refine reachable_wait fired fun op member due same => ?_
    have soon := due_fired member same
    omega
  refine never waited (.poll 1 none) (fun op member due same => ?_) (timesOut_waiting (by omega))
  have still := due_fired member same
  show delay + idle + (wait - idle) < due
  omega

/--
A session never gives a reply up while its batch is in time exactly when at most fifteen seconds are
configured.
-/
theorem replies_awaited_iff (requestTimeoutSecs : Nat) :
    NeverTimesOut replyTimeout (batchTimeout requestTimeoutSecs) ↔ requestTimeoutSecs ≤ 15 := by
  unfold batchTimeout
  constructor
  · intro never
    by_contra slow
    refine not_neverTimesOut ?_ ?_ never
    · unfold seconds
      omega
    · unfold replyTimeoutSlack replyTimeout seconds
      omega
  · intro quick
    refine neverTimesOut_of_covers ?_
    unfold replyTimeoutSlack replyTimeout seconds
    omega

def givenUp (now fired : Nat) (answer : Option Answer) : TimedLoop where
  now := now
  loop :=
    { TunnelLoop.start [] none with
      inflight := [{ seq := 0, wasEmptyPoll := true }]
      consecutiveEmpty := 1
      idleTier := 1 }
  ops :=
    [{ queuedAt := 0, firedAt := some prefillDelay, answer := some .err },
      { queuedAt := prefillDelay, firstPoll := some prefillDelay, firedAt := some fired, answer }]

/--
With thirty seconds configured, a reply is given up five seconds before its batch is back in time.
-/
theorem reply_given_up_in_time :
    ∃ state after final,
      Reachable (step maxElevatedTotal replyTimeout) (Budget (batchTimeout 30)) (start [] none)
        state ∧
      Budget (batchTimeout 30) state (.poll 1 none) ∧ state.TimesOut replyTimeout (.poll 1 none) ∧
      state.step maxElevatedTotal replyTimeout (.poll 1 none) = some after ∧
      Reachable (step maxElevatedTotal replyTimeout) (Budget (batchTimeout 30)) after final ∧
      ∀ op ∈ final.ops, op.answer.isSome := by
  have before : seconds 20 < batchTimeout 30 := by decide
  have after : seconds 20 + seconds 5 ≤ batchTimeout 30 := by decide
  have fired := reachable_fire
    (reachable_waiting maxElevatedTotal replyTimeout (batchTimeout 30))
  have waited : Reachable (step maxElevatedTotal replyTimeout) (Budget (batchTimeout 30))
      (start [] none) (waiting (prefillDelay + seconds 20) (some prefillDelay)) := by
    refine reachable_wait fired fun op member due same => ?_
    have soon := due_fired member same
    omega
  refine ⟨_, givenUp (prefillDelay + seconds 20) prefillDelay none,
    givenUp (prefillDelay + seconds 20 + seconds 5) prefillDelay (some (.ok {})), waited,
    fun op member due same => ?_, timesOut_waiting le_rfl, rfl, ?_, by simp [givenUp]⟩
  · have soon := due_fired member same
    show prefillDelay + seconds 20 < due
    omega
  · -- The mux goes on with the batch, whether or not anybody waits for it.
    have travels : Budget (batchTimeout 30) (givenUp (prefillDelay + seconds 20) prefillDelay none)
        (.wait (seconds 5)) := by
      intro op member due same
      have second : op ∈ (waiting 0 (some prefillDelay)).ops := member
      have soon := due_fired second same
      show prefillDelay + seconds 20 + seconds 5 ≤ due
      omega
    exact Reachable.runSteps [.wait (seconds 5), .complete 1 (.ok {})] .begin
      ⟨travels, trivial, trivial⟩ rfl

end TimedLoop

end Gvpn
