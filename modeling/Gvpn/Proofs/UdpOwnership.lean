import Gvpn.Proofs.UdpRelay

/-! Which sessions a relay's tasks remove from its table. -/

namespace Gvpn

open List Option

namespace UdpRelay

structure Owned (relay : UdpRelay) : Prop where
  removes : ∀ {id : Nat} {task : UdpSessionTask} {session : UdpRelaySession},
    relay.tasks[id]? = some task → task.stage = .removing →
    relay.state.sessions.lookup task.target = some session → session.sid = task.sid
  finds : ∀ {peer : PeerAddr} {target other : SocksUdpTarget} {payload : Bytes}
    {session : UdpRelaySession}, relay.stage = .looking peer target payload →
    relay.state.sessions.lookup other = some session →
    ∃ task, relay.tasks[session.uplink]? = some task ∧ task.stage ≠ .finished

def CleanInsert (relay : UdpRelay) (event : RelayEvent) : Prop :=
  ∀ target session, event = .dispatch → relay.stage = .inserting target session →
    (∀ task, relay.tasks[session.uplink]? = some task → task.stage ≠ .finished) ∧
    ∀ (id : Nat) (task : UdpSessionTask), relay.tasks[id]? = some task → task.target = target →
      task.stage ≠ .finished → task.sid = session.sid

structure Clean (relay : UdpRelay) : Prop where
  agrees : ∀ {id : Nat} {task : UdpSessionTask} {session : UdpRelaySession},
    relay.tasks[id]? = some task → task.stage ≠ .finished →
    relay.state.sessions.lookup task.target = some session → session.sid = task.sid
  owned : ∀ {target : SocksUdpTarget} {session : UdpRelaySession},
    relay.state.sessions.lookup target = some session →
    ∃ task, relay.tasks[session.uplink]? = some task ∧ task.target = target ∧
      task.stage ≠ .finished

theorem Clean.toOwned {relay : UdpRelay} (clean : Clean relay) : Owned relay where
  removes found stage held := clean.agrees found (by rw [stage]; decide) held
  finds _ held := by
    obtain ⟨task, found, -, unfinished⟩ := clean.owned held
    exact ⟨task, found, unfinished⟩

variable {ctx : SocksCtx} {relay after : UdpRelay} {event : RelayEvent}

variable {id : Nat} {task : UdpSessionTask}

theorem TaskChange.unfinished {next : UdpSessionTask} {sent : List MuxCall}
    (change : TaskChange relay id task next sent) :
    task.stage ≠ .finished ∧ next.stage ≠ .finished := by
  cases change with
  | sends stage | polls stage | goesOn _ stage => simp [stage]
  | leaves stage => rcases stage with stage | stage <;> simp [stage]
  | cancelled stopped stage => simp [stage]

theorem Change.unfinished (change : Change ctx relay event after)
    (found : relay.tasks[id]? = some task)
    (unfinished : task.stage ≠ .finished) {session : UdpRelaySession}
    (held : after.state.sessions.lookup task.target = some session) :
    ∃ next, after.tasks[id]? = some next ∧ next.target = task.target ∧ next.stage ≠ .finished := by
  obtain ⟨next, there, -, target⟩ := change.task found
  refine ⟨next, there, target, ?_⟩
  cases change.origin there with
  | kept before sid same stage =>
    obtain rfl := some.inj (found.symm.trans before)
    exact stage ▸ unfinished
  | worked before work logged => exact work.unfinished.2
  | cleaned before leaving after_ gone =>
    obtain rfl := some.inj (found.symm.trans before)
    rw [gone] at held
    contradiction
  | spawned stage last new => simp [new]

theorem Clean.change (clean : Clean relay) (sound : Sound relay)
    (change : Change ctx relay event after) (permitted : relay.CleanInsert event) :
    Clean after where
  agrees {id task session} found unfinished held := by
    have earlier : ∀ {before : UdpSessionTask}, relay.tasks[id]? = some before →
        before.stage ≠ .finished → task.sid = before.sid → task.target = before.target →
        session.sid = task.sid := by
      intro before was running sid target
      rw [target] at held
      rw [sid]
      rcases change.lookup held with old | ⟨is, stage⟩
      · exact clean.agrees was running old
      · exact ((permitted _ _ is stage).2 id before was rfl running).symm
    cases change.origin found with
    | kept was sid target stage => exact earlier was (stage ▸ unfinished) sid target
    | worked was work logged => exact earlier was work.unfinished.1 work.same.1 work.same.2
    | cleaned was leaving after_ gone => simp [after_] at unfinished
    | spawned stage last new =>
      subst new
      rcases change.lookup held with old | ⟨-, inserting⟩
      · rw [sound.free (by rw [stage]; rfl)] at old
        contradiction
      · rw [stage] at inserting
        contradiction
  owned {target session} held := by
    have task : ∃ task, relay.tasks[session.uplink]? = some task ∧ task.target = target ∧
        task.stage ≠ .finished := by
      rcases change.lookup held with old | ⟨is, stage⟩
      · exact clean.owned old
      · obtain ⟨task, found, same, -⟩ := sound.handed stage
        exact ⟨task, found, same, (permitted _ _ is stage).1 task found⟩
    obtain ⟨task, found, rfl, running⟩ := task
    exact change.unfinished found running held

theorem clean_start (clientPeerIp : IpAddr) : Clean (start clientPeerIp) where
  agrees := by simp [start]
  owned := by simp [start]

abbrev Becomes (ctx : SocksCtx) (relay after : UdpRelay) : Prop :=
  Reachable (step ctx) (fun _ _ => True) relay after

theorem becomes_of_step (taken : relay.step ctx event = some after) : Becomes ctx relay after :=
  Reachable.begin.next trivial taken

def Admissible (ctx : SocksCtx) (target : SocksUdpTarget) : Prop :=
  target.WellFormed ∧ ¬ (ctx.blockQuic ∧ target.port = 443)

variable {target : SocksUdpTarget}

theorem admissible_of_accept {clientPeerIp : IpAddr} {clientAddr : Option PeerAddr}
    {datagram : Datagram} {payload : Bytes}
    (accepted : acceptDatagram ctx clientPeerIp clientAddr datagram = some (target, payload)) :
    Admissible ctx target := by
  obtain ⟨-, parsed, free, -⟩ := acceptDatagram_eq_some_iff.mp accepted
  obtain ⟨⟨named, off⟩, located, same⟩ := Option.map_eq_some_iff.mp parsed
  obtain ⟨rfl, -⟩ := Prod.mk.inj same
  exact ⟨(wellFormed_of_parse located).1, free⟩

def CanLeave (ctx : SocksCtx) (relay : UdpRelay) (id : Nat) (task : UdpSessionTask) : Prop :=
  ∃ final next, Becomes ctx relay final ∧ final.state = relay.state ∧
    final.tasks[id]? = some next ∧ next.sid = task.sid ∧ next.target = task.target ∧
    next.stage = .removing

theorem canLeave_of_calling (found : relay.tasks[id]? = some task) (stage : task.stage = .calling) :
    CanLeave ctx relay id task := by
  have inside := (List.getElem?_eq_some_iff.mp found).1
  have taken : relay.step ctx (.task id (.reply (.error []))) =
      some (relay.leaveTask id task) := by
    simp [step, found, stepTask, stage, onTaskReply]
  exact ⟨_, _, becomes_of_step taken, rfl, getElem?_set_self inside, rfl, rfl, rfl⟩

theorem canLeave_of_udpData {next : UdpSessionTask} {data : Bytes}
    (found : relay.tasks[id]? = some task)
    (taken : relay.step ctx event = some (relay.udpData id next data))
    (sid : next.sid = task.sid) (target : next.target = task.target) :
    CanLeave ctx relay id task := by
  have inside := (List.getElem?_eq_some_iff.mp found).1
  obtain ⟨final, last, reached, state, there, lastSid, lastTarget, leaving⟩ :
      CanLeave ctx (relay.udpData id next data) id { next with stage := .calling } :=
    canLeave_of_calling (getElem?_set_self inside) rfl
  exact ⟨final, last, (becomes_of_step taken).trans reached, state, there, lastSid.trans sid,
    lastTarget.trans target, leaving⟩

theorem canLeave (found : relay.tasks[id]? = some task)
    (unfinished : task.stage ≠ .finished) (running : task.stage ≠ .cancelled) :
    CanLeave ctx relay id task := by
  cases stage : task.stage with
  | finished => exact absurd stage unfinished
  | cancelled => exact absurd stage running
  | removing => exact ⟨relay, task, .begin, rfl, found, rfl, rfl, stage⟩
  | calling => exact canLeave_of_calling found stage
  | selecting =>
    cases held : task.uplinkRx with
    | cons payload rest =>
      have taken : relay.step ctx (.task id .uplink) = some (relay.udpData id
          { task with uplinkRx := rest, backoff := udpInitialPollDelay } payload) := by
        simp [step, found, stepTask, stage, held]
      exact canLeave_of_udpData found taken rfl rfl
    | nil =>
      by_cases holds : relay.holdsUplink id
      · have taken : relay.step ctx (.task id (.slept task.backoff)) =
            some (relay.udpData id task []) := by
          simp [step, found, stepTask, stage, held, holds]
        exact canLeave_of_udpData found taken rfl rfl
      · have inside := (List.getElem?_eq_some_iff.mp found).1
        have taken : relay.step ctx (.task id .uplink) = some (relay.leaveTask id task) := by
          simp [step, found, stepTask, stage, held, holds]
        exact ⟨_, _, becomes_of_step taken, rfl, getElem?_set_self inside, rfl, rfl, rfl⟩

variable {peer : PeerAddr}

theorem acceptDatagram_build (admissible : Admissible ctx target)
    (known : peer.ip = relay.clientPeerIp)
    (lock : ∀ existing, relay.clientAddr = some existing → existing = peer) :
    acceptDatagram ctx relay.clientPeerIp relay.clientAddr
      ⟨peer, buildSocks5UdpPacket target []⟩ = some (target, []) :=
  acceptDatagram_eq_some_iff.mpr ⟨known, admissible.1.parse_build [], admissible.2, lock⟩

theorem exists_looking (receives : relay.stage = .receiving) (admissible : Admissible ctx target)
    (locked : relay.clientAddr = some peer) (known : peer.ip = relay.clientPeerIp) :
    Becomes ctx relay { relay with stage := .looking peer target [] } := by
  have lock : ∀ existing, relay.clientAddr = some existing → existing = peer := by
    rw [locked]
    rintro _ ⟨⟩
    rfl
  have accepted := acceptDatagram_build admissible known lock
  have taken : relay.step ctx (.recv ⟨peer, buildSocks5UdpPacket target []⟩) =
      some { relay with stage := .looking peer target [] } := by
    rw [step, if_pos receives, onDatagram, accepted]
    simp [← locked]
  exact becomes_of_step taken

theorem breach_of_insert (sound : Sound relay) (only : Only (Admissible ctx) relay)
    {session : UdpRelaySession} (stage : relay.stage = .inserting target session)
    (unclean : ¬ relay.CleanInsert .dispatch) :
    ∃ final, Becomes ctx
      { relay with state := relay.state.insert target session, stage := .receiving } final ∧
      ¬ final.Owned := by
  have held : (relay.state.insert target session).sessions.lookup target = some session :=
    AList.lookup_insert _
  by_cases finished : ∃ task, relay.tasks[session.uplink]? = some task ∧ task.stage = .finished
  · -- The dispatcher finds the session of a task that has finished.
    obtain ⟨task, found, over_⟩ := finished
    have occupied : relay.stage.target = some target := by rw [stage]; rfl
    obtain ⟨peer, locked, known⟩ := sound.locked occupied
    refine ⟨_, exists_looking rfl (only.stage occupied) locked known, ?_⟩
    intro owned
    obtain ⟨same, there, running⟩ := owned.finds rfl held
    obtain rfl := some.inj (found.symm.trans there)
    exact running over_
  · -- The task of another session is about to remove this one.
    have other : ∃ (id : Nat) (task : UdpSessionTask), relay.tasks[id]? = some task ∧
        task.target = target ∧ task.stage ≠ .finished ∧ task.sid ≠ session.sid := by
      by_contra none_
      apply unclean
      intro target' session' _ stage'
      rw [stage] at stage'
      obtain ⟨rfl, rfl⟩ := DispatchStage.inserting.inj stage'
      refine ⟨fun task found over_ => finished ⟨task, found, over_⟩, ?_⟩
      intro id task found same running
      by_contra different
      exact none_ ⟨id, task, found, same, running, different⟩
    obtain ⟨id, task, found, rfl, unfinished, different⟩ := other
    have running : task.stage ≠ .cancelled := by
      intro cancelled
      have stopped := sound.running found cancelled
      simp [aborted, stage] at stopped
    obtain ⟨final, next, reached, state, there, sid, same, leaving⟩ : CanLeave ctx
        { relay with state := relay.state.insert task.target session, stage := .receiving } id
        task := canLeave found unfinished running
    refine ⟨final, reached, ?_⟩
    intro owned
    have mine := owned.removes there leaving (by rw [state, same]; exact held)
    exact different (sid.symm.trans mine.symm)

/--
While sessions are inserted cleanly, a task only removes its own and the dispatcher only finds
unfinished ones; the first unclean insertion leads to a breach.
-/
theorem table_owned {clientPeerIp : IpAddr}
    (reached : Reachable (step ctx) CleanInsert (start clientPeerIp) relay) :
    relay.Owned ∧ ∀ event after, relay.step ctx event = some after →
      ¬ relay.CleanInsert event → ∃ final, Becomes ctx after final ∧ ¬ final.Owned := by
  obtain ⟨clean, sound, only⟩ : Clean relay ∧ Sound relay ∧ Only (Admissible ctx) relay := by
    refine reached.invariant (fun relay => Clean relay ∧ Sound relay ∧ Only (Admissible ctx) relay)
      ⟨clean_start _, sound_start _, only_start _ _⟩ ?_
    rintro state after event ⟨clean, sound, only⟩ permitted taken
    have change := change_of_step taken
    exact ⟨clean.change sound change permitted, sound.change change,
      only.change change fun _ accepted _ => admissible_of_accept accepted⟩
  refine ⟨clean.toOwned, ?_⟩
  intro event after taken unclean
  -- Only an insertion can be unclean.
  obtain ⟨rfl, target, session, stage⟩ : event = .dispatch ∧
      ∃ target session, relay.stage = .inserting target session := by
    by_contra none_
    exact unclean fun target session is stage => absurd ⟨is, target, session, stage⟩ none_
  simp only [step, dispatch, stage, some.injEq] at taken
  subst taken
  exact breach_of_insert sound only stage unclean

theorem table_owned_at_once :
    ∃ relay, Reachable (step (fullCtx false false)) CleanInsert (start localClient.ip) relay ∧
      relay.state.sessions.lookup (serverAt 53) = some ⟨lit "s", 0⟩ ∧ relay.Owned := by
  have through : (runSteps (step (fullCtx false false)) (start localClient.ip)
      (openingEvents 53 ++ [.dispatch])).any (fun relay =>
        relay.state.sessions.lookup (serverAt 53) = some ⟨lit "s", 0⟩) = true := by decide +kernel
  obtain ⟨relay, run, held⟩ := (Option.any_eq_true _ _).mp through
  have reached : Reachable (step (fullCtx false false)) CleanInsert (start localClient.ip)
      relay := by
    refine Reachable.runSteps _ .begin ?_ run
    refine ⟨?_, ?_, ?_, ?_, ?_, trivial⟩
    · intro target session is
      contradiction
    · intro target session is stage
      cases stage
    · intro target session is stage
      cases stage
    · intro target session is
      contradiction
    · intro target session is stage
      cases stage
      constructor
      · rintro task ⟨⟩
        decide
      · rintro (_ | id) task found same running
        · cases found
          rfl
        · cases found
  exact ⟨relay, reached, by simpa using held, (table_owned reached).1⟩

def withSession (relay : UdpRelay) (peer : PeerAddr) (target : SocksUdpTarget) (sid : Text) :
    UdpRelay :=
  { relay with
    clientAddr := some peer
    state := (relay.state.evictUntilUnder maxUdpSessionsPerAssociate).insert target
      { sid, uplink := relay.tasks.length }
    tasks := relay.tasks ++ [{ sid, target, clientAddr := peer }]
    calls := relay.calls ++ [.udpOpen target []]
    opened := relay.opened ++ [sid]
    toClient := relay.toClient ++ [] }

theorem getElem?_withSession
    (found : relay.tasks[id]? = some task) (peer : PeerAddr) (target : SocksUdpTarget)
    (sid : Text) : (relay.withSession peer target sid).tasks[id]? = some task := by
  have inside := (List.getElem?_eq_some_iff.mp found).1
  rw [withSession, getElem?_append_left inside, found]

theorem becomes_withSession (sid : Text) (receives : relay.stage = .receiving)
    (admissible : Admissible ctx target) (known : peer.ip = relay.clientPeerIp)
    (lock : ∀ existing, relay.clientAddr = some existing → existing = peer)
    (free : relay.state.sessions.lookup target = none) :
    Becomes ctx relay (relay.withSession peer target sid) := by
  have accepted := acceptDatagram_build admissible known lock
  refine Reachable.runSteps [.recv ⟨peer, buildSocks5UdpPacket target []⟩, .dispatch, .dispatch,
    .openReply (.ok { sid := some sid }), .dispatch] .begin
    (permits_of_forall_mem (fun _ _ _ => trivial) _) ?_
  have looks : relay.step ctx (.recv ⟨peer, buildSocks5UdpPacket target []⟩) =
      some { relay with clientAddr := some peer, stage := .looking peer target [] } := by
    rw [step, if_pos receives, onDatagram, accepted]
    simp
  have misses : step ctx { relay with clientAddr := some peer, stage := .looking peer target [] }
      .dispatch =
        some { relay with clientAddr := some peer, stage := .evicting peer target [] } := by
    simp [step, dispatch, UdpRelayState.getUplink, free]
  simp only [runSteps, looks, misses]
  simp [step, dispatch, onOpenReply, TunnelResponse.isEof, sendUdpResponsePackets,
    decodeUdpPackets, withSession, receives]

def crowdTarget (n : Nat) : SocksUdpTarget := serverAt (UInt16.ofNat n)

def crowdSid (n : Nat) : Text := List.replicate (n + 1) 's'

theorem crowdTarget_inj {i j : Nat} (iSmall : i < 1000) (jSmall : j < 1000)
    (same : crowdTarget i = crowdTarget j) : i = j := by
  have ports : UInt16.ofNat i = UInt16.ofNat j := congrArg SocksUdpTarget.port same
  have numbers := congrArg UInt16.toNat ports
  simp only [UInt16.toNat_ofNat'] at numbers
  omega

theorem crowdSid_inj {i j : Nat} (same : crowdSid i = crowdSid j) : i = j := by
  have lengths := congrArg List.length same
  simpa [crowdSid] using lengths

theorem admissible_serverAt (port : UInt16) : Admissible (fullCtx false false) (serverAt port) :=
  ⟨.v4 rfl rfl rfl, by simp [fullCtx]⟩

structure Crowded (count : Nat) (relay : UdpRelay) : Prop where
  receives : relay.stage = .receiving
  known : relay.clientPeerIp = localClient.ip
  lock : ∀ existing, relay.clientAddr = some existing → existing = localClient
  order : relay.state.order = (List.range count).map crowdTarget
  size : relay.state.sessions.entries.length = count
  table : ∀ {target session}, relay.state.sessions.lookup target = some session →
    ∃ i < count, target = crowdTarget i ∧ session.sid = crowdSid i
  alone : count = 0 → relay.tasks = []
  first : 0 < count → relay.tasks[0]? =
    some { sid := crowdSid 0, target := crowdTarget 0, clientAddr := localClient }
  unclosed : ∀ sid, .closeSession sid ∉ relay.calls

variable {count : Nat}

theorem Crowded.free {n : Nat} (crowded : Crowded count relay) (new : count ≤ n)
    (small : n < 1000) : relay.state.sessions.lookup (crowdTarget n) = none := by
  by_contra found
  obtain ⟨session, found⟩ := Option.ne_none_iff_exists'.mp found
  obtain ⟨i, inside, same, -⟩ := crowded.table found
  have := crowdTarget_inj small (by omega) same
  omega

theorem Crowded.becomes (crowded : Crowded count relay) (small : count < 1000) :
    Becomes (fullCtx false false) relay
      (relay.withSession localClient (crowdTarget count) (crowdSid count)) :=
  becomes_withSession _ crowded.receives (admissible_serverAt _) crowded.known.symm crowded.lock
    (crowded.free (Nat.le_refl _) small)

theorem Crowded.withSession (crowded : Crowded count relay)
    (room : count < maxUdpSessionsPerAssociate) :
    Crowded (count + 1)
      (relay.withSession localClient (crowdTarget count) (crowdSid count)) := by
  have small : count < 1000 := by rw [maxUdpSessionsPerAssociate] at room; omega
  have kept : relay.state.evictUntilUnder maxUdpSessionsPerAssociate = relay.state :=
    UdpRelayState.evictUntilUnder_of_lt (by rw [crowded.size]; exact room)
  have free := crowded.free (Nat.le_refl _) small
  exact {
    receives := crowded.receives
    known := crowded.known
    lock := fun existing same => (some.inj same).symm
    order := by
      simp [UdpRelay.withSession, kept, UdpRelayState.insert, crowded.order, range_succ]
    size := by
      simp only [UdpRelay.withSession, kept, UdpRelayState.insert]
      rw [AList.entries_insert_of_notMem (AList.lookup_eq_none.mp free), length_cons,
        crowded.size]
    table := by
      intro target session found
      simp only [UdpRelay.withSession, kept] at found
      rcases UdpRelayState.lookup_insert_eq_some found with ⟨rfl, rfl⟩ | ⟨-, before⟩
      · exact ⟨count, Nat.lt_succ_self _, rfl, rfl⟩
      · obtain ⟨i, inside, named⟩ := crowded.table before
        exact ⟨i, by omega, named⟩
    first := by
      intro _
      by_cases alone : count = 0
      · subst alone
        have nobody : relay.tasks = [] := crowded.alone rfl
        simp [UdpRelay.withSession, nobody]
      · exact getElem?_withSession (crowded.first (by omega)) _ _ _
    alone := by
      intro none_
      contradiction
    unclosed := by
      intro sid
      simpa [UdpRelay.withSession] using crowded.unclosed sid }

theorem exists_crowded (small : count ≤ maxUdpSessionsPerAssociate) :
    ∃ relay, Becomes (fullCtx false false) (start localClient.ip) relay ∧ Crowded count relay := by
  induction count with
  | zero =>
    refine ⟨_, .begin, ?_⟩
    constructor <;> simp [start]
  | succ count ih =>
    obtain ⟨relay, reached, crowded⟩ := ih (by omega)
    have little : count < 1000 := by
      rw [maxUdpSessionsPerAssociate] at small
      omega
    exact ⟨_, reached.trans (crowded.becomes little), crowded.withSession (by omega)⟩

abbrev withOneMore (relay : UdpRelay) : UdpRelay :=
  relay.withSession localClient (crowdTarget maxUdpSessionsPerAssociate)
    (crowdSid maxUdpSessionsPerAssociate)

theorem Crowded.first_evicted (crowded : Crowded maxUdpSessionsPerAssociate relay)
    (target : SocksUdpTarget) (sid : Text) (other : crowdTarget 0 ≠ target) :
    (relay.withSession localClient target sid).state.sessions.lookup (crowdTarget 0) = none := by
  obtain ⟨order, oldest⟩ : ∃ order, relay.state.order = crowdTarget 0 :: order := by
    rw [crowded.order, maxUdpSessionsPerAssociate, range_succ_eq_map]
    exact ⟨_, rfl⟩
  rw [UdpRelay.withSession, UdpRelayState.insert, AList.lookup_insert_ne other]
  exact UdpRelayState.lookup_evictUntilUnder_oldest oldest (by rw [crowded.size])

/--
The first of 257 targets is evicted and opened again; its old task is about to remove the new one.
-/
theorem evicted_task_removes_reopened :
    ∃ relay task session, Becomes (fullCtx false false) (start localClient.ip) relay ∧
      relay.tasks[0]? = some task ∧ task.stage = .removing ∧
      relay.state.sessions.lookup task.target = some session ∧ session.sid ≠ task.sid := by
  obtain ⟨relay, filled, crowded⟩ := exists_crowded (Nat.le_refl maxUdpSessionsPerAssociate)
  have first := crowded.first (by decide)
  have other : crowdTarget 0 ≠ crowdTarget maxUdpSessionsPerAssociate := fun same =>
    absurd (crowdTarget_inj (by decide) (by decide) same) (by decide)
  have evicted := crowded.becomes (by decide)
  -- The first target is asked for again.
  have reopened : Becomes (fullCtx false false) relay.withOneMore
      (relay.withOneMore.withSession localClient (crowdTarget 0) (crowdSid 257)) := by
    apply becomes_withSession
    · exact crowded.receives
    · exact admissible_serverAt 0
    · exact crowded.known.symm
    · intro existing same
      exact (some.inj same).symm
    · exact crowded.first_evicted _ _ other
  have there := getElem?_withSession (getElem?_withSession first localClient
    (crowdTarget maxUdpSessionsPerAssociate) (crowdSid maxUdpSessionsPerAssociate)) localClient
    (crowdTarget 0) (crowdSid 257)
  obtain ⟨final, next, left, state, found, sid, target, leaving⟩ : CanLeave _ _ 0 _ :=
    canLeave there (by decide) (by decide)
  obtain ⟨session, held, new⟩ : ∃ session,
      final.state.sessions.lookup next.target = some session ∧ session.sid = crowdSid 257 := by
    rw [state, target]
    exact ⟨_, AList.lookup_insert _, rfl⟩
  refine ⟨final, next, session, ((filled.trans evicted).trans reopened).trans left, found,
    leaving, held, ?_⟩
  rw [sid, new]
  exact fun same => absurd (crowdSid_inj same) (by decide)

end UdpRelay

end Gvpn
