import Gvpn.Data.Slots
import Gvpn.Proofs.Socks5Codec
import Gvpn.Proxy.UdpRelay

/-! What each step of a relay does, and what always holds. -/

namespace Gvpn

open List Option

namespace UdpRelayState

variable {state : UdpRelayState} {target other : SocksUdpTarget} {session : UdpRelaySession}

variable {cap : Nat}

theorem lookup_of_lookup_evictOldest {order : List SocksUdpTarget}
    {sessions : Table SocksUdpTarget UdpRelaySession}
    (found : (evictOldest cap order sessions).sessions.lookup target = some session) :
    sessions.lookup target = some session := by
  induction order generalizing sessions with
  | nil => exact found
  | cons victim order ih =>
    unfold evictOldest at found
    split at found
    · -- What is left without the oldest session was there with it.
      exact (Table.lookup_erase_eq_some.mp (ih found)).2
    · exact found

theorem lookup_of_lookup_evictUntilUnder
    (found : (state.evictUntilUnder cap).sessions.lookup target = some session) :
    state.sessions.lookup target = some session :=
  lookup_of_lookup_evictOldest found

theorem evictUntilUnder_of_lt (room : state.sessions.entries.length < cap) :
    state.evictUntilUnder cap = state := by
  obtain ⟨sessions, order⟩ := state
  cases order with
  | nil => rfl
  | cons victim order => exact if_neg (Nat.not_le.mpr room)

theorem lookup_evictUntilUnder_oldest {victim : SocksUdpTarget} {order : List SocksUdpTarget}
    (oldest : state.order = victim :: order) (full : cap ≤ state.sessions.entries.length) :
    (state.evictUntilUnder cap).sessions.lookup victim = none := by
  rw [evictUntilUnder, oldest, evictOldest, if_pos full]
  by_contra found
  obtain ⟨session, found⟩ := Option.ne_none_iff_exists'.mp found
  have left := lookup_of_lookup_evictOldest found
  rw [AList.lookup_erase] at left
  contradiction

theorem lookup_remove_eq_some_iff :
    (state.remove other).sessions.lookup target = some session ↔
      target ≠ other ∧ state.sessions.lookup target = some session :=
  Table.lookup_erase_eq_some

theorem lookup_insert_eq_some {added : UdpRelaySession}
    (found : (state.insert other added).sessions.lookup target = some session) :
    (target = other ∧ session = added) ∨
      (target ≠ other ∧ state.sessions.lookup target = some session) := by
  by_cases same : target = other
  · subst same
    rw [insert, AList.lookup_insert, some.injEq] at found
    exact .inl ⟨rfl, found.symm⟩
  · rw [insert, AList.lookup_insert_ne same] at found
    exact .inr ⟨same, found⟩

theorem mem_liveSids {sid : Text} :
    sid ∈ state.liveSids ↔
      ∃ target session, state.sessions.lookup target = some session ∧ session.sid = sid := by
  simp only [liveSids, List.mem_map]
  constructor
  · rintro ⟨⟨target, session⟩, member, rfl⟩
    exact ⟨target, session, AList.mem_lookup_iff.mpr member, rfl⟩
  · rintro ⟨target, session, found, rfl⟩
    exact ⟨⟨target, session⟩, AList.mem_lookup_iff.mp found, rfl⟩

end UdpRelayState

def DispatchStage.target : DispatchStage → Option SocksUdpTarget
  | .looking _ target _ | .evicting _ target _ | .opening _ target | .inserting target _ =>
    some target
  | _ => none

def DispatchStage.missing : DispatchStage → Option SocksUdpTarget
  | .evicting _ target _ | .opening _ target | .inserting target _ => some target
  | _ => none

def MuxCall.target : MuxCall → Option SocksUdpTarget
  | .udpOpen target _ | .udpData target _ _ => some target
  | .closeSession _ => none

theorem acceptDatagram_eq_some_iff {ctx : SocksCtx} {clientPeerIp : IpAddr}
    {clientAddr : Option PeerAddr} {datagram : Datagram} {target : SocksUdpTarget}
    {payload : Bytes} :
    acceptDatagram ctx clientPeerIp clientAddr datagram = some (target, payload) ↔
      datagram.peer.ip = clientPeerIp ∧
      parseSocks5UdpPacket datagram.bytes = some (target, payload) ∧
      ¬ (ctx.blockQuic ∧ target.port = 443) ∧
      ∀ existing, clientAddr = some existing → existing = datagram.peer := by
  constructor
  · -- The checks come in the order of the source, each one behind those that have passed.
    intro accepted
    obtain ⟨known, accepted⟩ := Option.ite_none_left_eq_some.mp accepted
    split at accepted
    · contradiction
    · rename_i parsed
      obtain ⟨free, accepted⟩ := Option.ite_none_left_eq_some.mp accepted
      rw [parseSocks5UdpPacket, parsed]
      split at accepted
      · obtain ⟨rfl, rfl⟩ := Prod.mk.inj (some.inj accepted)
        exact ⟨not_not.mp known, rfl, free, by simp⟩
      · obtain ⟨same, accepted⟩ := Option.ite_none_left_eq_some.mp accepted
        obtain ⟨rfl, rfl⟩ := Prod.mk.inj (some.inj accepted)
        exact ⟨not_not.mp known, rfl, free, by simpa using same⟩
  · rintro ⟨known, parsed, free, lock⟩
    obtain ⟨⟨named, off⟩, located, same⟩ := Option.map_eq_some_iff.mp parsed
    obtain ⟨rfl, rfl⟩ := Prod.mk.inj same
    rw [acceptDatagram, if_neg (not_not.mpr known), located]
    dsimp only
    rw [if_neg free]
    cases clientAddr with
    | none => rfl
    | some existing => exact if_neg (not_not.mpr (lock existing rfl))

namespace UdpRelay

inductive TaskChange (relay : UdpRelay) (id : Nat) (task : UdpSessionTask) :
    UdpSessionTask → List MuxCall → Prop
  | sends {payload : Bytes} {rest : List Bytes} (stage : task.stage = .selecting)
      (held : task.uplinkRx = payload :: rest) :
      TaskChange relay id task
        { task with uplinkRx := rest, backoff := udpInitialPollDelay, stage := .calling }
        [.udpData task.target task.sid payload]
  | polls (stage : task.stage = .selecting) (nothing : task.uplinkRx = []) :
      TaskChange relay id task { task with stage := .calling }
        [.udpData task.target task.sid []]
  | leaves (stage : task.stage = .selecting ∨ task.stage = .calling) :
      TaskChange relay id task { task with stage := .removing } [.closeSession task.sid]
  | goesOn (backoff : Nat) (stage : task.stage = .calling) :
      TaskChange relay id task { task with backoff, stage := .selecting } []
  | cancelled (stopped : relay.aborted = true) (stage : task.stage ≠ .finished) :
      TaskChange relay id task { task with stage := .cancelled } []

inductive Change (ctx : SocksCtx) (relay : UdpRelay) : RelayEvent → UdpRelay → Prop
  -- A datagram is ignored.
  | ignores {datagram : Datagram} (receives : relay.stage = .receiving)
      (refused : acceptDatagram ctx relay.clientPeerIp relay.clientAddr datagram = none) :
      Change ctx relay (.recv datagram) relay
  | locks {datagram : Datagram} {target : SocksUdpTarget} {payload : Bytes}
      (receives : relay.stage = .receiving)
      (accepted : acceptDatagram ctx relay.clientPeerIp relay.clientAddr datagram =
        some (target, payload))
      (large : maxUdpPayloadBytes < payload.length) :
      Change ctx relay (.recv datagram) { relay with clientAddr := some datagram.peer }
  | accepts {datagram : Datagram} {target : SocksUdpTarget} {payload : Bytes}
      (receives : relay.stage = .receiving)
      (accepted : acceptDatagram ctx relay.clientPeerIp relay.clientAddr datagram =
        some (target, payload))
      (small : payload.length ≤ maxUdpPayloadBytes) :
      Change ctx relay (.recv datagram)
        { relay with
          clientAddr := some datagram.peer
          stage := .looking datagram.peer target payload }
  | stays (receives : relay.stage = .receiving) : Change ctx relay (.control false) relay
  | ends {event : RelayEvent} (receives : relay.stage = .receiving)
      (last : event = .recvFails ∨ event = .control true) :
      Change ctx relay event { relay with stage := .ending }
  | queues {peer : PeerAddr} {target : SocksUdpTarget} {payload : Bytes} {id : Nat}
      {task : UdpSessionTask} (stage : relay.stage = .looking peer target payload)
      (found : relay.tasks[id]? = some task) (room : task.uplinkRx.length < udpUplinkQueue) :
      Change ctx relay .dispatch
        { relay.setTask id { task with uplinkRx := task.uplinkRx ++ [payload] } with
          queued := relay.queued ++ [(target, payload)]
          stage := .receiving }
  | drops {peer : PeerAddr} {target : SocksUdpTarget} {payload : Bytes}
      (stage : relay.stage = .looking peer target payload) :
      Change ctx relay .dispatch { relay with stage := .receiving }
  | misses {peer : PeerAddr} {target : SocksUdpTarget} {payload : Bytes}
      (stage : relay.stage = .looking peer target payload)
      (free : relay.state.sessions.lookup target = none) :
      Change ctx relay .dispatch { relay with stage := .evicting peer target payload }
  | evicts {peer : PeerAddr} {target : SocksUdpTarget} {payload : Bytes}
      (stage : relay.stage = .evicting peer target payload) :
      Change ctx relay .dispatch
        { relay with
          state := relay.state.evictUntilUnder maxUdpSessionsPerAssociate
          calls := relay.calls ++ [.udpOpen target payload]
          stage := .opening peer target }
  | refuses {peer : PeerAddr} {target : SocksUdpTarget} {reply : MuxReply}
      (toClient : List Datagram) (stage : relay.stage = .opening peer target) :
      Change ctx relay (.openReply reply) { relay with stage := .receiving, toClient }
  | spawns {peer : PeerAddr} {target : SocksUdpTarget} {reply : MuxReply}
      (sid : Text) (toClient : List Datagram) (stage : relay.stage = .opening peer target) :
      Change ctx relay (.openReply reply)
        { relay with
          toClient
          opened := relay.opened ++ [sid]
          tasks := relay.tasks ++ [{ sid, target, clientAddr := peer }]
          stage := .inserting target { sid, uplink := relay.tasks.length } }
  | inserts {target : SocksUdpTarget} {session : UdpRelaySession}
      (stage : relay.stage = .inserting target session) :
      Change ctx relay .dispatch
        { relay with state := relay.state.insert target session, stage := .receiving }
  | clears (stage : relay.stage = .ending) :
      Change ctx relay .dispatch
        { relay with state := {}, stage := .aborting relay.state.liveSids }
  | aborts {liveSids : List Text} (stage : relay.stage = .aborting liveSids) :
      Change ctx relay .dispatch { relay with stage := .closing liveSids }
  | closes {sid : Text} {liveSids : List Text} (stage : relay.stage = .closing (sid :: liveSids)) :
      Change ctx relay .dispatch
        { relay with calls := relay.calls ++ [.closeSession sid], stage := .closing liveSids }
  | returns (stage : relay.stage = .closing []) :
      Change ctx relay .dispatch { relay with stage := .returned }
  | works {id : Nat} {task after : UdpSessionTask} {event : UdpTaskEvent}
      {sent calls : List MuxCall} (toClient : List Datagram)
      (found : relay.tasks[id]? = some task) (change : TaskChange relay id task after sent)
      (logged : calls = relay.calls ++ sent) :
      Change ctx relay (.task id event) { relay.setTask id after with calls, toClient }
  | cleans {id : Nat} {task : UdpSessionTask} (found : relay.tasks[id]? = some task)
      (stage : task.stage = .removing) :
      Change ctx relay (.task id .cleanup)
        { relay.setTask id { task with stage := .finished } with
          state := relay.state.remove task.target }

variable {ctx : SocksCtx} {relay after : UdpRelay} {event : RelayEvent}

theorem change_onDatagram (datagram : Datagram) (receives : relay.stage = .receiving) :
    Change ctx relay (.recv datagram) (relay.onDatagram ctx datagram) := by
  unfold onDatagram
  split
  · rename_i refused
    exact .ignores receives refused
  · rename_i target payload accepted
    split
    · rename_i large
      exact .locks receives accepted large
    · exact .accepts receives accepted (by omega)

variable {target : SocksUdpTarget} {id : Nat}

theorem change_onOpenReply {peer : PeerAddr} (reply : MuxReply)
    (stage : relay.stage = .opening peer target) :
    Change ctx relay (.openReply reply) (relay.onOpenReply peer target reply) := by
  unfold onOpenReply
  split
  · exact .refuses relay.toClient stage
  · split
    · exact .refuses relay.toClient stage
    · split
      · exact .refuses relay.toClient stage
      · split
        · exact .refuses _ stage
        · exact .spawns _ _ stage

theorem change_of_dispatch (taken : relay.dispatch = some after) :
    Change ctx relay .dispatch after := by
  unfold dispatch at taken
  split at taken
  · rename_i peer target payload stage
    split at taken
    · -- The channel of the session may be closed or full, and then the datagram is dropped.
      cases taken
      unfold trySend
      split
      · exact .drops stage
      · rename_i task found
        split
        · rename_i both
          exact .queues stage found both.2
        · exact .drops stage
    · rename_i free
      cases taken
      exact .misses stage (by simpa [UdpRelayState.getUplink] using free)
  · rename_i stage
    cases taken
    exact .evicts stage
  · rename_i stage
    cases taken
    exact .inserts stage
  · rename_i stage
    cases taken
    exact .clears stage
  · rename_i stage
    cases taken
    exact .aborts stage
  · rename_i stage
    cases taken
    exact .closes stage
  · rename_i stage
    cases taken
    exact .returns stage
  all_goals contradiction

theorem change_of_stepTask {task : UdpSessionTask} {event : UdpTaskEvent}
    (found : relay.tasks[id]? = some task) (taken : relay.stepTask id task event = some after) :
    Change ctx relay (.task id event) after := by
  cases event with
  | uplink =>
    simp only [stepTask] at taken
    split at taken
    · contradiction
    · rename_i stage
      rw [not_not] at stage
      split at taken
      · rename_i payload rest held
        cases taken
        exact .works relay.toClient found (.sends stage held) rfl
      · obtain ⟨-, taken⟩ := Option.ite_none_left_eq_some.mp taken
        cases taken
        exact .works relay.toClient found (.leaves (.inl stage)) rfl
  | slept waited =>
    obtain ⟨⟨stage, nothing, -⟩, taken⟩ := Option.ite_none_right_eq_some.mp taken
    cases taken
    exact .works relay.toClient found (.polls stage nothing) rfl
  | reply reply =>
    obtain ⟨stage, taken⟩ := Option.ite_none_right_eq_some.mp taken
    cases taken
    have left : Change ctx relay (.task id (.reply reply)) (relay.leaveTask id task) :=
      .works relay.toClient found (.leaves (.inr stage)) rfl
    unfold onTaskReply
    split
    · exact left
    · split
      · exact left
      · split
        · exact .works relay.toClient found (.goesOn _ stage) (append_nil _).symm
        · exact .works _ found (.goesOn _ stage) (append_nil _).symm
  | cleanup =>
    obtain ⟨stage, taken⟩ := Option.ite_none_right_eq_some.mp taken
    cases taken
    exact .cleans found stage
  | cancel =>
    obtain ⟨⟨stopped, stage, -⟩, taken⟩ := Option.ite_none_right_eq_some.mp taken
    cases taken
    exact .works relay.toClient found (.cancelled stopped stage) (append_nil _).symm

theorem change_of_step (taken : relay.step ctx event = some after) :
    Change ctx relay event after := by
  cases event with
  | recv datagram =>
    obtain ⟨receives, taken⟩ := Option.ite_none_right_eq_some.mp taken
    cases taken
    exact change_onDatagram datagram receives
  | recvFails =>
    obtain ⟨receives, taken⟩ := Option.ite_none_right_eq_some.mp taken
    cases taken
    exact .ends receives (.inl rfl)
  | control ends =>
    obtain ⟨receives, taken⟩ := Option.ite_none_right_eq_some.mp taken
    cases taken
    cases ends with
    | true => exact .ends receives (.inr rfl)
    | false => exact .stays receives
  | openReply reply =>
    simp only [step] at taken
    split at taken
    · rename_i peer target stage
      cases taken
      exact change_onOpenReply reply stage
    · contradiction
  | dispatch => exact change_of_dispatch taken
  | task id event =>
    obtain ⟨task, found, taken⟩ := Option.bind_eq_some_iff.mp taken
    exact change_of_stepTask found taken

inductive Origin (relay after : UdpRelay) (id : Nat) (task : UdpSessionTask) : Prop
  -- At most its channel has changed.
  | kept {before : UdpSessionTask} (found : relay.tasks[id]? = some before)
      (sid : task.sid = before.sid) (target : task.target = before.target)
      (stage : task.stage = before.stage)
  | worked {before : UdpSessionTask} {sent : List MuxCall} (found : relay.tasks[id]? = some before)
      (change : TaskChange relay id before task sent) (logged : after.calls = relay.calls ++ sent)
  | cleaned {before : UdpSessionTask} (found : relay.tasks[id]? = some before)
      (leaving : before.stage = .removing) (after_ : task = { before with stage := .finished })
      (gone : after.state.sessions.lookup before.target = none)
  | spawned {peer : PeerAddr} {target : SocksUdpTarget} {sid : Text}
      (stage : relay.stage = .opening peer target) (last : id = relay.tasks.length)
      (new : task = { sid, target, clientAddr := peer })

theorem Change.origin (change : Change ctx relay event after) {task : UdpSessionTask}
    (found : after.tasks[id]? = some task) : Origin relay after id task := by
  cases change with
  | ignores | locks | accepts | stays | ends | drops | misses | evicts | refuses | inserts
  | clears | aborts | closes | returns => exact .kept found rfl rfl rfl
  | queues stage held room =>
    rcases getElem?_set_eq_some found with ⟨rfl, rfl⟩ | ⟨-, other⟩
    · exact .kept held rfl rfl rfl
    · exact .kept other rfl rfl rfl
  | works toClient held change logged =>
    rcases getElem?_set_eq_some found with ⟨rfl, rfl⟩ | ⟨-, other⟩
    · exact .worked held change logged
    · exact .kept other rfl rfl rfl
  | cleans held stage =>
    rcases getElem?_set_eq_some found with ⟨rfl, rfl⟩ | ⟨-, other⟩
    · exact .cleaned held stage rfl (AList.lookup_erase _ _)
    · exact .kept other rfl rfl rfl
  | spawns sid toClient stage =>
    rw [getElem?_append] at found
    split at found
    · exact .kept found rfl rfl rfl
    · obtain ⟨last, same⟩ : id - relay.tasks.length = 0 ∧ _ = task := by
        simpa [getElem?_singleton] using found
      exact .spawned stage (by omega) same.symm

theorem Change.lookup (change : Change ctx relay event after) {session : UdpRelaySession}
    (found : after.state.sessions.lookup target = some session) :
    relay.state.sessions.lookup target = some session ∨
      event = .dispatch ∧ relay.stage = .inserting target session := by
  cases change with
  | ignores | locks | accepts | stays | ends | queues | drops | misses | refuses | spawns | aborts
  | closes | returns | works => exact .inl found
  | evicts stage => exact .inl (UdpRelayState.lookup_of_lookup_evictUntilUnder found)
  | clears stage => simp at found
  | cleans held stage => exact .inl (UdpRelayState.lookup_remove_eq_some_iff.mp found).2
  | inserts stage =>
    rcases UdpRelayState.lookup_insert_eq_some found with ⟨rfl, rfl⟩ | ⟨-, before⟩
    · exact .inr ⟨rfl, stage⟩
    · exact .inl before

theorem TaskChange.same {task next : UdpSessionTask} {sent : List MuxCall}
    (change : TaskChange relay id task next sent) :
    next.sid = task.sid ∧ next.target = task.target := by
  cases change <;> exact ⟨rfl, rfl⟩

theorem Origin.same {task : UdpSessionTask} (origin : Origin relay after id task) :
    (∃ before, relay.tasks[id]? = some before ∧ task.sid = before.sid ∧
      task.target = before.target) ∨
    (id = relay.tasks.length ∧ relay.stage.target = some task.target) := by
  cases origin with
  | kept found sid target stage => exact .inl ⟨_, found, sid, target⟩
  | worked found change logged => exact .inl ⟨_, found, change.same⟩
  | cleaned found leaving after_ gone => exact .inl ⟨_, found, by rw [after_], by rw [after_]⟩
  | spawned stage last new => exact .inr ⟨last, by rw [stage, new]; rfl⟩

theorem Change.task (change : Change ctx relay event after) {task : UdpSessionTask}
    (found : relay.tasks[id]? = some task) :
    ∃ next, after.tasks[id]? = some next ∧ next.sid = task.sid ∧ next.target = task.target := by
  have inside := (List.getElem?_eq_some_iff.mp found).1
  have grows : relay.tasks.length ≤ after.tasks.length := by
    cases change <;> simp [setTask]
  have there : after.tasks[id]? = some after.tasks[id] := getElem?_eq_getElem (by omega)
  rcases (change.origin there).same with ⟨before, held, sid, target⟩ | ⟨last, -⟩
  · obtain rfl := some.inj (found.symm.trans held)
    exact ⟨_, there, sid, target⟩
  · omega

theorem Change.stage_target (change : Change ctx relay event after)
    (occupied : after.stage.target = some target) :
    relay.stage.target = some target ∨
      ∃ datagram payload, event = .recv datagram ∧
        acceptDatagram ctx relay.clientPeerIp relay.clientAddr datagram = some (target, payload) ∧
        payload.length ≤ maxUdpPayloadBytes ∧ after.clientAddr = some datagram.peer := by
  cases change with
  | ignores | stays | locks | works | cleans => exact .inl occupied
  | ends | queues | drops | refuses | inserts | clears | aborts | closes | returns =>
    simp [DispatchStage.target] at occupied
  | misses stage | evicts stage | spawns _ _ stage =>
    rw [stage]
    exact .inl occupied
  | accepts receives accepted small =>
    cases occupied
    exact .inr ⟨_, _, rfl, accepted, small, rfl⟩

theorem TaskChange.target_eq {task next : UdpSessionTask} {sent : List MuxCall}
    (change : TaskChange relay id task next sent) {call : MuxCall} (sends : call ∈ sent)
    (named : call.target = some target) : target = task.target := by
  cases change with
  | sends | polls | leaves =>
    simp_all [MuxCall.target]
  | goesOn | cancelled => simp at sends

theorem Change.call_target (change : Change ctx relay event after) {call : MuxCall}
    (sent : call ∈ after.calls) (named : call.target = some target) :
    call ∈ relay.calls ∨ relay.stage.target = some target ∨
      ∃ (id : Nat) (task : UdpSessionTask),
        relay.tasks[id]? = some task ∧ task.target = target := by
  cases change with
  | ignores | locks | accepts | stays | ends | queues | drops | misses | refuses | spawns | inserts
  | clears | aborts | returns | cleans => exact .inl sent
  | evicts stage =>
    rcases List.mem_append.mp sent with before | new
    · exact .inl before
    · obtain rfl := List.mem_singleton.mp new
      rw [stage]
      exact .inr (.inl named)
  | closes stage =>
    rcases List.mem_append.mp sent with before | new
    · exact .inl before
    · -- Closing a session names no target.
      obtain rfl := List.mem_singleton.mp new
      contradiction
  | works toClient found change logged =>
    subst logged
    rcases List.mem_append.mp sent with before | new
    · exact .inl before
    · exact .inr (.inr ⟨_, _, found, (change.target_eq new named).symm⟩)

theorem Change.queued_target (change : Change ctx relay event after)
    {item : SocksUdpTarget × Bytes} (queued : item ∈ after.queued) :
    item ∈ relay.queued ∨ relay.stage.target = some item.1 := by
  cases change with
  | ignores | locks | accepts | stays | ends | drops | misses | evicts | refuses | spawns | inserts
  | clears | aborts | closes | returns | works | cleans => exact .inl queued
  | queues stage found room =>
    rcases List.mem_append.mp queued with before | new
    · exact .inl before
    · obtain rfl := List.mem_singleton.mp new
      exact .inr (by rw [stage]; rfl)

structure Only (kind : SocksUdpTarget → Prop) (relay : UdpRelay) : Prop where
  stage : ∀ {target}, relay.stage.target = some target → kind target
  table : ∀ {target session}, relay.state.sessions.lookup target = some session → kind target
  tasks : ∀ {id : Nat} {task : UdpSessionTask}, relay.tasks[id]? = some task → kind task.target
  calls : ∀ {call target}, call ∈ relay.calls → call.target = some target → kind target
  queued : ∀ {item}, item ∈ relay.queued → kind item.1

theorem only_start (kind : SocksUdpTarget → Prop) (clientPeerIp : IpAddr) :
    Only kind (start clientPeerIp) where
  stage := by simp [start, DispatchStage.target]
  table := by simp [start]
  tasks := by simp [start]
  calls := by simp [start]
  queued := by simp [start]

theorem Only.change {kind : SocksUdpTarget → Prop} (only : Only kind relay)
    (change : Change ctx relay event after)
    (fits : ∀ {datagram target payload}, event = .recv datagram →
      acceptDatagram ctx relay.clientPeerIp relay.clientAddr datagram = some (target, payload) →
      payload.length ≤ maxUdpPayloadBytes → kind target) :
    Only kind after where
  stage occupied := by
    rcases change.stage_target occupied with before | ⟨_, _, is, accepted, small, -⟩
    · exact only.stage before
    · exact fits is accepted small
  table found := by
    rcases change.lookup found with before | ⟨-, stage⟩
    · exact only.table before
    · exact only.stage (by rw [stage]; rfl)
  tasks found := by
    rcases (change.origin found).same with ⟨before, held, -, target⟩ | ⟨-, stage⟩
    · exact target ▸ only.tasks held
    · exact only.stage stage
  calls sent named := by
    rcases change.call_target sent named with before | occupied | ⟨_, _, held, target⟩
    · exact only.calls before named
    · exact only.stage occupied
    · exact target ▸ only.tasks held
  queued member := by
    rcases change.queued_target member with before | occupied
    · exact only.queued before
    · exact only.stage occupied

structure Sound (relay : UdpRelay) : Prop where
  free : ∀ {target}, relay.stage.missing = some target → relay.state.sessions.lookup target = none
  handed : ∀ {target session}, relay.stage = .inserting target session →
    ∃ task, relay.tasks[session.uplink]? = some task ∧ task.target = target ∧
      task.sid = session.sid
  locked : ∀ {target}, relay.stage.target = some target →
    ∃ peer, relay.clientAddr = some peer ∧ peer.ip = relay.clientPeerIp
  running : ∀ {id : Nat} {task : UdpSessionTask}, relay.tasks[id]? = some task →
    task.stage = .cancelled → relay.aborted = true

theorem sound_start (clientPeerIp : IpAddr) : Sound (start clientPeerIp) where
  free := by simp [start, DispatchStage.missing]
  handed := by simp [start]
  locked := by simp [start, DispatchStage.target]
  running := by simp [start]

theorem Change.stage_missing (change : Change ctx relay event after)
    (missing : after.stage.missing = some target) :
    relay.stage.missing = some target ∨ after.state.sessions.lookup target = none := by
  cases change with
  | ignores | stays | locks | works | cleans => exact .inl missing
  | accepts | ends | queues | drops | refuses | inserts | clears | aborts | closes | returns =>
    simp [DispatchStage.missing] at missing
  | evicts stage | spawns _ _ stage =>
    rw [stage]
    exact .inl missing
  | misses stage free =>
    cases missing
    exact .inr free

theorem Change.aborted (change : Change ctx relay event after) (stopped : relay.aborted = true) :
    after.aborted = true := by
  cases change <;> simp_all [UdpRelay.aborted, setTask]

theorem Sound.change (sound : Sound relay) (change : Change ctx relay event after) :
    Sound after where
  free {target} missing := by
    rcases change.stage_missing missing with before | free
    · -- The dispatcher is not about to put a session into the table in this step.
      by_contra found
      obtain ⟨session, found⟩ := Option.ne_none_iff_exists'.mp found
      rcases change.lookup found with held | ⟨is, stage⟩
      · rw [sound.free before] at held
        contradiction
      · cases change <;> simp_all [DispatchStage.missing]
    · exact free
  handed {target session} stage := by
    have origin : relay.stage = .inserting target session ∨
        ∃ peer, session.uplink = relay.tasks.length ∧
          after.tasks[session.uplink]? =
            some { sid := session.sid, target, clientAddr := peer } := by
      cases change with
      | ignores | locks | stays | works | cleans => exact .inl stage
      | accepts | ends | queues | drops | misses | evicts | refuses | inserts | clears | aborts
      | closes | returns => simp at stage
      | @spawns peer _ _ sid toClient opening =>
        obtain ⟨rfl, rfl⟩ := stage
        exact .inr ⟨peer, rfl, getElem?_concat_length⟩
    rcases origin with before | ⟨peer, -, spawned⟩
    · obtain ⟨task, found, rfl, sid⟩ := sound.handed before
      obtain ⟨next, there, same, target⟩ := change.task found
      exact ⟨next, there, target, same.trans sid⟩
    · exact ⟨_, spawned, rfl, rfl⟩
  locked occupied := by
    have ip : after.clientPeerIp = relay.clientPeerIp := by cases change <;> rfl
    rw [ip]
    rcases change.stage_target occupied with before | ⟨datagram, _, -, accepted, -, addr⟩
    · obtain ⟨peer, addr, known⟩ := sound.locked before
      cases change <;> simp_all [DispatchStage.target, setTask]
    · exact ⟨_, addr, (acceptDatagram_eq_some_iff.mp accepted).1⟩
  running found stage := by
    cases change.origin found with
    | kept held sid target same => exact change.aborted (sound.running held (same ▸ stage))
    | worked held work logged =>
      cases work with
      | sends | polls | leaves | goesOn => simp at stage
      | cancelled stopped unfinished => exact change.aborted stopped
    | cleaned held leaving after_ gone => simp [after_] at stage
    | spawned opening last new => simp [new] at stage

end UdpRelay

def fullCtx (blockQuic blockStun : Bool) : SocksCtx :=
  { hosts := []
    upstreamSocks5 := none
    mode := .full
    youtubeViaRelay := false
    passthroughHosts := []
    bypassDoh := false
    blockDoh := false
    bypassDohHosts := []
    frontingGroups := []
    hasFronter := true
    hasMux := true
    blockQuic
    blockStun }

def localClient : PeerAddr := { ip := .v4 ⟨[127, 0, 0, 1], rfl⟩, port := 5000 }

def serverAt (port : UInt16) : SocksUdpTarget :=
  { host := ipv4Text [8, 8, 8, 8], port, atyp := socksIpv4, addr := [8, 8, 8, 8] }

def datagramTo (port : UInt16) : Datagram :=
  ⟨localClient, buildSocks5UdpPacket (serverAt port) [7]⟩

def openingEvents (port : UInt16) : List RelayEvent :=
  [.recv (datagramTo port), .dispatch, .dispatch, .openReply (.ok { sid := some (lit "s") })]

end Gvpn
