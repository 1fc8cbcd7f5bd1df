import Gvpn.Proofs.UdpOwnership

/-! Which sessions are closed by the end of a relay. -/

namespace Gvpn

def DispatchStage.pending : DispatchStage → Option (List Text)
  | .aborting liveSids | .closing liveSids => some liveSids
  | .returned => some []
  | _ => none

namespace UdpRelay

structure Over (relay : UdpRelay) : Prop where
  returned : relay.stage = .returned
  gone : ∀ {id : Nat} {task : UdpSessionTask}, relay.tasks[id]? = some task →
    task.stage = .finished ∨ task.stage = .cancelled

def AllClosed (relay : UdpRelay) : Prop :=
  ∀ sid ∈ relay.opened, .closeSession sid ∈ relay.calls

def CoveredEnd (relay : UdpRelay) (event : RelayEvent) : Prop :=
  event = .dispatch → relay.stage = .ending → ∀ (id : Nat) (task : UdpSessionTask),
    relay.tasks[id]? = some task → task.listens = true →
    task.sid ∈ relay.state.liveSids ∨ .closeSession task.sid ∈ relay.calls

structure Accounted (relay : UdpRelay) : Prop where
  tasks : relay.opened = relay.tasks.map UdpSessionTask.sid
  left : ∀ {id : Nat} {task : UdpSessionTask}, relay.tasks[id]? = some task →
    task.stage = .removing ∨ task.stage = .finished → .closeSession task.sid ∈ relay.calls
  pending : ∀ {sids}, relay.stage.pending = some sids → ∀ {id : Nat} {task : UdpSessionTask},
    relay.tasks[id]? = some task → task.sid ∈ sids ∨ .closeSession task.sid ∈ relay.calls

variable {ctx : SocksCtx} {relay after : UdpRelay} {event : RelayEvent}

theorem accounted_start (clientPeerIp : IpAddr) : Accounted (start clientPeerIp) where
  tasks := rfl
  left := by simp [start]
  pending := by simp [start]

theorem Change.mem_calls (change : Change ctx relay event after) {call : MuxCall}
    (sent : call ∈ relay.calls) : call ∈ after.calls := by
  cases change with
  | ignores | locks | accepts | stays | ends | queues | drops | misses | refuses | spawns | inserts
  | clears | aborts | returns | cleans => exact sent
  | evicts | closes => exact List.mem_append_left _ sent
  | works toClient found work logged => exact logged ▸ List.mem_append_left _ sent

theorem Change.opened_eq (change : Change ctx relay event after)
    (tasks : relay.opened = relay.tasks.map UdpSessionTask.sid) :
    after.opened = after.tasks.map UdpSessionTask.sid := by
  cases change with
  | ignores | locks | accepts | stays | ends | drops | misses | evicts | refuses | inserts | clears
  | aborts | closes | returns => exact tasks
  | spawns sid toClient stage => simp [tasks]
  | queues stage found room | cleans found stage =>
    -- The task that changes keeps its session.
    refine tasks.trans (Eq.symm ?_)
    apply map_set_of_eq found
    rfl
  | works toClient found work logged =>
    refine tasks.trans (Eq.symm ?_)
    exact map_set_of_eq found work.same.1

variable {id : Nat} {task : UdpSessionTask}

theorem Change.left (change : Change ctx relay event after) (accounted : Accounted relay)
    (found : after.tasks[id]? = some task)
    (leaving : task.stage = .removing ∨ task.stage = .finished) :
    .closeSession task.sid ∈ after.calls := by
  cases change.origin found with
  | kept before sid target stage =>
    rw [sid]
    exact change.mem_calls (accounted.left before (stage ▸ leaving))
  | worked before work logged =>
    cases work with
    | sends | polls | goesOn | cancelled => simp at leaving
    | leaves stage => simp [logged]
  | cleaned before stage after_ gone =>
    subst after_
    have closed := accounted.left before (.inl stage)
    exact change.mem_calls closed
  | spawned stage last new => simp [new] at leaving

theorem Accounted.covered (accounted : Accounted relay) (sound : Sound relay)
    (stage : relay.stage = .ending) (permitted : relay.CoveredEnd .dispatch)
    (found : relay.tasks[id]? = some task) :
    task.sid ∈ relay.state.liveSids ∨ .closeSession task.sid ∈ relay.calls := by
  cases at_ : task.stage with
  | selecting => exact permitted rfl stage id task found (by simp [UdpSessionTask.listens, at_])
  | calling => exact permitted rfl stage id task found (by simp [UdpSessionTask.listens, at_])
  | removing => exact .inr (accounted.left found (.inl at_))
  | finished => exact .inr (accounted.left found (.inr at_))
  | cancelled =>
    -- Nobody has been told to stop yet.
    have stopped := sound.running found at_
    simp [aborted, stage] at stopped

theorem Accounted.change (accounted : Accounted relay) (sound : Sound relay)
    (change : Change ctx relay event after) (permitted : relay.CoveredEnd event) :
    Accounted after where
  tasks := change.opened_eq accounted.tasks
  left := change.left accounted
  pending {sids} is id task found := by
    have same : relay.stage.pending = some sids →
        task.sid ∈ sids ∨ .closeSession task.sid ∈ after.calls := by
      intro before
      rcases (change.origin found).same with ⟨old, was, sid, -⟩ | ⟨-, occupied⟩
      · rw [sid]
        exact (accounted.pending before was).imp_right change.mem_calls
      · cases stage : relay.stage <;>
          simp_all [DispatchStage.target, DispatchStage.pending]
    cases change with
    | ignores | locks | stays | works | cleans => exact same is
    | accepts | ends | queues | drops | misses | evicts | refuses | spawns | inserts =>
      simp [DispatchStage.pending] at is
    | clears stage =>
      cases is
      exact accounted.covered sound stage permitted found
    | aborts stage => exact same (by rw [stage]; exact is)
    | @closes sid liveSids stage =>
      cases is
      rcases accounted.pending (by rw [stage]; rfl) found with waits | closed
      · rcases List.mem_cons.mp waits with now | later
        · exact .inr (by simp [now])
        · exact .inl later
      · exact .inr (List.mem_append_left _ closed)
    | returns stage => exact same (by rw [stage]; exact is)

theorem Accounted.allClosed (accounted : Accounted relay) (returned : relay.stage = .returned) :
    relay.AllClosed := by
  intro sid member
  rw [accounted.tasks] at member
  obtain ⟨task, there, rfl⟩ := List.mem_map.mp member
  obtain ⟨id, found⟩ := List.mem_iff_getElem?.mp there
  have closed := accounted.pending (by rw [returned]; rfl) found
  simpa using closed

def runs (task : UdpSessionTask) : Bool := task.stage ≠ .finished ∧ task.stage ≠ .cancelled

def Cancels (_ : UdpRelay) (event : RelayEvent) : Prop := ∃ id, event = .task id .cancel

theorem Cancels.step (cancels : Cancels relay event) (taken : relay.step ctx event = some after) :
    after.stage = relay.stage ∧ after.calls = relay.calls ∧ after.opened = relay.opened ∧
      after.tasks.countP runs < relay.tasks.countP runs := by
  obtain ⟨id, rfl⟩ := cancels
  obtain ⟨task, found, taken⟩ := Option.bind_eq_some_iff.mp taken
  obtain ⟨⟨-, unfinished⟩, taken⟩ := Option.ite_none_right_eq_some.mp taken
  cases taken
  have count := countP_set_of_getElem? found runs { task with stage := .cancelled }
  have ran : runs task = true := decide_eq_true unfinished
  have over_ : runs { task with stage := .cancelled } = false := by simp [runs]
  rw [ran, over_, if_pos rfl, if_neg Bool.false_ne_true] at count
  refine ⟨rfl, rfl, rfl, ?_⟩
  show (relay.tasks.set id { task with stage := .cancelled }).countP runs < _
  omega

theorem exists_all_gone (ctx : SocksCtx) (relay : UdpRelay) (stopped : relay.aborted = true) :
    ∃ final, Becomes ctx relay final ∧ final.stage = relay.stage ∧ final.calls = relay.calls ∧
      final.opened = relay.opened ∧ ∀ {id : Nat} {task : UdpSessionTask},
        final.tasks[id]? = some task → task.stage = .finished ∨ task.stage = .cancelled := by
  obtain ⟨final, reached, resting⟩ : ∃ final, Reachable (step ctx) Cancels relay final ∧
      Rests (step ctx) Cancels final :=
    exists_rests (fun _ => True) (fun state => state.tasks.countP runs)
      (fun _ cancels taken => ⟨trivial, (cancels.step taken).2.2.2⟩) trivial
  obtain ⟨stage, calls, opened⟩ : final.stage = relay.stage ∧ final.calls = relay.calls ∧
      final.opened = relay.opened := by
    refine reached.invariant (fun state => state.stage = relay.stage ∧ state.calls = relay.calls ∧
      state.opened = relay.opened) ⟨rfl, rfl, rfl⟩ ?_
    rintro state after event ⟨stage, calls, opened⟩ cancels taken
    obtain ⟨sameStage, sameCalls, sameOpened, -⟩ := cancels.step taken
    exact ⟨sameStage.trans stage, sameCalls.trans calls, sameOpened.trans opened⟩
  refine ⟨final, reached.mono fun _ => trivial, stage, calls, opened, ?_⟩
  intro id task found
  by_contra running
  rw [not_or] at running
  have still : final.aborted = true := by rw [aborted, stage]; exact stopped
  have refused := resting (.task id .cancel) ⟨id, rfl⟩
  simp [step, found, stepTask, still, running] at refused

theorem exists_returned (ctx : SocksCtx) (relay : UdpRelay) {sids : List Text}
    (stage : relay.stage = .closing sids) :
    ∃ final, Becomes ctx relay final ∧ final.stage = .returned ∧ final.tasks = relay.tasks ∧
      final.opened = relay.opened ∧ final.calls = relay.calls ++ sids.map .closeSession := by
  -- One session is closed at each step.
  induction sids generalizing relay with
  | nil =>
    have taken : relay.step ctx .dispatch = some { relay with stage := .returned } := by
      simp [step, dispatch, stage]
    exact ⟨_, becomes_of_step taken, rfl, rfl, rfl, (List.append_nil _).symm⟩
  | cons sid sids ih =>
    have taken : relay.step ctx .dispatch = some { relay with
        calls := relay.calls ++ [.closeSession sid], stage := .closing sids } := by
      simp [step, dispatch, stage]
    obtain ⟨final, reached, returned, tasks, opened, calls⟩ :=
      ih { relay with calls := relay.calls ++ [.closeSession sid], stage := .closing sids } rfl
    refine ⟨final, (becomes_of_step taken).trans reached, returned, tasks, opened, ?_⟩
    rw [calls, List.append_assoc]
    rfl

theorem exists_over (ctx : SocksCtx) (relay : UdpRelay) :
    ∃ final, Becomes ctx
      { relay with state := {}, stage := .aborting relay.state.liveSids } final ∧ final.Over ∧
      final.opened = relay.opened ∧
      final.calls = relay.calls ++ relay.state.liveSids.map .closeSession := by
  have taken : step ctx { relay with state := {}, stage := .aborting relay.state.liveSids }
      .dispatch = some { relay with state := {}, stage := .closing relay.state.liveSids } := rfl
  obtain ⟨stopped, gone, stage, calls, opened, allGone⟩ :=
    exists_all_gone ctx { relay with state := {}, stage := .closing relay.state.liveSids } rfl
  obtain ⟨final, reached, returned, tasks, sameOpened, sameCalls⟩ :=
    exists_returned ctx stopped stage
  refine ⟨final, ((becomes_of_step taken).trans gone).trans reached, ⟨returned, ?_⟩,
    sameOpened.trans opened, ?_⟩
  · rw [tasks]
    exact allGone
  · rw [sameCalls, calls]

theorem exists_open_over (tasks : relay.opened = relay.tasks.map UdpSessionTask.sid)
    (found : relay.tasks[id]? = some task)
    (gone : task.sid ∉ relay.state.liveSids) (unclosed : .closeSession task.sid ∉ relay.calls) :
    ∃ final, Becomes ctx
      { relay with state := {}, stage := .aborting relay.state.liveSids } final ∧
      final.Over ∧ ¬ final.AllClosed := by
  obtain ⟨final, reached, over_, opened, calls⟩ := exists_over ctx relay
  refine ⟨final, reached, over_, ?_⟩
  intro allClosed
  have was : task.sid ∈ final.opened := by
    rw [opened, tasks]
    exact List.mem_map_of_mem (List.mem_of_getElem? found)
  have closed := allClosed _ was
  rw [calls, List.mem_append] at closed
  rcases closed with before | swept
  · exact unclosed before
  · obtain ⟨sid, live, same⟩ := List.mem_map.mp swept
    exact gone (MuxCall.closeSession.inj same ▸ live)

/--
Every opened session is closed once the relay is over, until it ends before a task whose session was
taken out of its table.
-/
theorem sessions_closed {clientPeerIp : IpAddr}
    (reached : Reachable (step ctx) CoveredEnd (start clientPeerIp) relay) :
    (relay.Over → relay.AllClosed) ∧ ∀ event after, relay.step ctx event = some after →
      ¬ relay.CoveredEnd event →
      ∃ final, Becomes ctx after final ∧ final.Over ∧ ¬ final.AllClosed := by
  obtain ⟨accounted, sound⟩ : Accounted relay ∧ Sound relay := by
    refine reached.invariant (fun relay => Accounted relay ∧ Sound relay)
      ⟨accounted_start _, sound_start _⟩ ?_
    rintro state after event ⟨accounted, sound⟩ permitted taken
    have change := change_of_step taken
    exact ⟨accounted.change sound change permitted, sound.change change⟩
  refine ⟨fun over_ => accounted.allClosed over_.returned, ?_⟩
  intro event after taken uncovered
  simp only [CoveredEnd, not_forall, not_or] at uncovered
  obtain ⟨rfl, stage, id, task, found, listens, gone, unclosed⟩ := uncovered
  simp only [step, dispatch, stage, Option.some.injEq] at taken
  subst taken
  exact exists_open_over accounted.tasks found gone unclosed

theorem sessions_closed_at_teardown :
    ∃ relay, Reachable (step (fullCtx false false)) CoveredEnd (start localClient.ip) relay ∧
      relay.Over ∧ relay.opened = [lit "s"] ∧ relay.AllClosed := by
  have through : (runSteps (step (fullCtx false false)) (start localClient.ip)
      (openingEvents 53 ++ [.dispatch, .control true, .dispatch, .dispatch, .task 0 .cancel,
        .dispatch, .dispatch])).any (fun relay => relay.stage = .returned ∧
        relay.opened = [lit "s"] ∧ relay.tasks.map UdpSessionTask.stage = [.cancelled]) = true := by
    decide +kernel
  obtain ⟨relay, run, checked⟩ := (Option.any_eq_true _ _).mp through
  obtain ⟨returned, opened, stages⟩ := of_decide_eq_true checked
  have reached : Reachable (step (fullCtx false false)) CoveredEnd (start localClient.ip)
      relay := by
    refine Reachable.runSteps _ .begin ?_ run
    refine ⟨?_, ?_, ?_, ?_, ?_, ?_, fun _ _ => ?_, ?_, ?_, ?_, ?_, trivial⟩
    case refine_7 =>
      rintro (_ | id) task found -
      · cases found
        exact .inl (by decide +kernel)
      · cases found
    all_goals
      intro is stage
      contradiction
  have over_ : relay.Over := by
    refine ⟨returned, ?_⟩
    intro id task found
    have member : task.stage ∈ relay.tasks.map UdpSessionTask.stage :=
      List.mem_map_of_mem (List.mem_of_getElem? found)
    rw [stages] at member
    exact .inr (List.mem_singleton.mp member)
  exact ⟨relay, reached, over_, opened, (sessions_closed reached).1 over_⟩

theorem opened_eq_of_becomes {clientPeerIp : IpAddr}
    (reached : Becomes ctx (start clientPeerIp) relay) :
    relay.opened = relay.tasks.map UdpSessionTask.sid :=
  reached.invariant (fun relay => relay.opened = relay.tasks.map UdpSessionTask.sid) rfl
    fun tasks _ taken => (change_of_step taken).opened_eq tasks

theorem Crowded.first_not_live (crowded : Crowded maxUdpSessionsPerAssociate relay) :
    crowdSid 0 ∉ relay.withOneMore.state.liveSids := by
  intro live
  obtain ⟨target, session, found, same⟩ := UdpRelayState.mem_liveSids.mp live
  rcases UdpRelayState.lookup_insert_eq_some found with ⟨-, rfl⟩ | ⟨other, before⟩
  · exact absurd (crowdSid_inj same) (by decide)
  · -- Only the first target had the first session, and it has lost it.
    obtain ⟨i, -, rfl, sid⟩ :=
      crowded.table (UdpRelayState.lookup_of_lookup_evictUntilUnder before)
    obtain rfl := crowdSid_inj (sid.symm.trans same)
    rw [crowded.first_evicted _ _ other] at found
    contradiction

/--
The first of 257 sessions is evicted, and its task is stopped with the relay before it has closed
it.
-/
theorem evicted_session_stays_open :
    ∃ relay, Becomes (fullCtx false false) (start localClient.ip) relay ∧ relay.Over ∧
      ¬ relay.AllClosed := by
  obtain ⟨relay, filled, crowded⟩ := exists_crowded (Nat.le_refl maxUdpSessionsPerAssociate)
  have evicted : Becomes (fullCtx false false) (start localClient.ip) relay.withOneMore :=
    filled.trans (crowded.becomes (by decide))
  have first : relay.withOneMore.tasks[0]? =
      some { sid := crowdSid 0, target := crowdTarget 0, clientAddr := localClient } :=
    getElem?_withSession (crowded.first (by decide)) _ _ _
  have tasks := opened_eq_of_becomes evicted
  have gone := crowded.first_not_live
  have unclosed : .closeSession (crowdSid 0) ∉ relay.withOneMore.calls := by
    simpa [withSession] using crowded.unclosed (crowdSid 0)
  have receives : relay.withOneMore.stage = .receiving := crowded.receives
  generalize relay.withOneMore = full at evicted first tasks gone unclosed receives
  have leaves : full.step (fullCtx false false) (.control true) =
      some { full with stage := .ending } := by
    simp [step, receives]
  have clears : step (fullCtx false false) { full with stage := .ending } .dispatch =
      some { full with state := {}, stage := .aborting full.state.liveSids } := rfl
  obtain ⟨final, reached, over_, open_⟩ := exists_open_over tasks first gone unclosed
  exact ⟨final, ((evicted.trans (becomes_of_step leaves)).trans (becomes_of_step clears)).trans
    reached, over_, open_⟩

end UdpRelay

end Gvpn
