import Gvpn.TunnelNode.UdpgwTask

/-! What is left of a udpgw session once its server task has ended. -/

namespace Gvpn

open List Option

namespace Udpgw

def GatewayEvent.undisturbed : GatewayEvent → Prop
  | .datagram .. | .socketFails _ => False
  | _ => True

namespace Gateway

abbrev Becomes (state after : Gateway) : Prop :=
  Reachable step (fun _ event => event.undisturbed) state after

abbrev AtRest (state : Gateway) : Prop := Rests step (fun _ event => event.undisturbed) state

def TornDown (state : Gateway) : Prop :=
  ∀ final, state.Becomes final → final.AtRest → ∀ reader ∈ final.readers, reader.stage = .stopped

structure CanStop (state : Gateway) : Prop where
  noneReceives : ∀ reader ∈ state.readers, reader.stage ≠ .receiving
  channelCloses : (∀ reader ∈ state.readers, reader.stage = .stopped) ∨ state.writer = .ended ∨
    (∃ reply, state.writer = .writing reply) ∧ state.clientOpen = false ∧
      channelCapacity ≤ state.channel.length

variable {state : Gateway} {reply : Bytes}

theorem send_eq_queued_iff {channel : List Bytes} :
    state.send reply = .queued channel ↔ state.writer ≠ .ended ∧
      state.channel.length < channelCapacity ∧ channel = state.channel ++ [reply] := by
  unfold send
  split
  · rename_i over_
    simp [over_]
  · rename_i running
    split
    · rename_i room
      simp [running, room, eq_comm]
    · rename_i full
      simp [full]

theorem send_eq_closed_iff :
    state.send reply = .closed ↔ state.writer = .ended := by
  unfold send
  split
  · rename_i over_
    simp [over_]
  · rename_i running
    split <;> simp [running]

inductive Change (state : Gateway) : Gateway → Prop
  | clientCloses (there : state.clientOpen = true) : Change state { state with clientOpen := false }
  | queued {id : Nat} {reader : SocketReader} {reply : Bytes}
      (found : state.readers[id]? = some reader) (stage : reader.stage = .sending reply)
      (running : state.writer ≠ .ended) (room : state.channel.length < channelCapacity) :
      Change state { state.setReader id reader .receiving with channel := state.channel ++ [reply] }
  -- A reader finds the channel closed.
  | closed {id : Nat} {reader : SocketReader} {reply : Bytes}
      (found : state.readers[id]? = some reader) (stage : reader.stage = .sending reply)
      (ended : state.writer = .ended) : Change state (state.setReader id reader .stopped)
  | takes {reply : Bytes} {channel : List Bytes} (idle : state.writer = .idle)
      (held : state.channel = reply :: channel) :
      Change state { state with writer := .writing reply, channel }
  | writes {reply : Bytes} (writing : state.writer = .writing reply)
      (there : state.clientOpen = true) : Change state { state with writer := .idle }
  | fails {reply : Bytes} (writing : state.writer = .writing reply)
      (gone : state.clientOpen = false) :
      Change state { state with writer := .ended, channel := [] }
  | writerEnds (idle : state.writer = .idle)
      (stopped : ∀ reader ∈ state.readers, reader.stage = .stopped) :
      Change state { state with writer := .ended }

variable {after : Gateway}

theorem step_change {event : GatewayEvent} (ended : state.server = .ended)
    (undisturbed : event.undisturbed) (taken : step state event = some after) :
    Change state after := by
  cases event with
  | frame frame attempt => simp [step, ended] at taken
  | serverSends => simp [step, ended] at taken
  | serverEnds => simp [step, ended] at taken
  | abort => simp [step, ended] at taken
  | datagram id bytes => exact undisturbed.elim
  | socketFails id => exact undisturbed.elim
  | clientCloses =>
    simp only [step] at taken
    split at taken
    · rename_i there
      cases taken
      exact .clientCloses there
    · contradiction
  | readerSends id =>
    simp only [step] at taken
    split at taken
    · rename_i reader found
      split at taken
      · rename_i reply stage
        split at taken
        · contradiction
        · rename_i channel sent
          obtain ⟨running, room, rfl⟩ := send_eq_queued_iff.mp sent
          cases taken
          exact .queued found stage running room
        · rename_i sent
          cases taken
          exact .closed found stage (send_eq_closed_iff.mp sent)
      · contradiction
    · contradiction
  | writerTakes =>
    simp only [step] at taken
    split at taken
    · rename_i reply channel idle held
      cases taken
      exact .takes idle held
    · contradiction
  | writerWrites =>
    simp only [step] at taken
    split at taken
    · rename_i reply writing
      split at taken
      · rename_i there
        cases taken
        exact .writes writing there
      · rename_i gone
        cases taken
        exact .fails writing (by simpa using gone)
    · contradiction
  | writerEnds =>
    simp only [step] at taken
    split at taken
    · rename_i idle held
      split at taken
      · rename_i both
        cases taken
        exact .writerEnds idle both.2
      · contradiction
    · contradiction

theorem Change.server_eq (change : Change state after) :
    after.server = state.server := by
  cases change <;> rfl

def isSending (reader : SocketReader) : Bool :=
  match reader.stage with
  | .sending _ => true
  | _ => false

def writerRemaining : WriterStage → Nat
  | .idle => 1
  | .writing _ => 2
  | .ended => 0

def remaining (state : Gateway) : Nat :=
  3 * state.readers.countP isSending + 2 * state.channel.length + writerRemaining state.writer +
    state.clientOpen.toNat

variable {id : Nat} {reader : SocketReader}

theorem countP_isSending_set {readers : List SocketReader} {other : SocketReader}
    (found : readers[id]? = some reader) (stage : reader.stage = .sending reply)
    (out : isSending other = false) :
    (readers.set id other).countP isSending + 1 = readers.countP isSending := by
  obtain ⟨inside, rfl⟩ := List.getElem?_eq_some_iff.mp found
  have before : isSending readers[id] = true := by simp [isSending, stage]
  have positive : 0 < readers.countP isSending :=
    List.countP_pos_iff.mpr ⟨_, getElem_mem inside, before⟩
  rw [countP_set inside, before, out]
  simp only [if_true, Bool.false_eq_true, if_false]
  omega

theorem Change.remaining_lt (change : Change state after) :
    after.remaining < state.remaining := by
  unfold remaining
  cases change with
  | clientCloses there => simp [there]
  | @queued id reader reply found stage running room =>
    have one : (state.readers.set id { reader with stage := .receiving }).countP isSending + 1 =
        state.readers.countP isSending := countP_isSending_set found stage rfl
    simp only [setReader, length_append, length_singleton]
    omega
  | @closed id reader reply found stage ended =>
    have one : (state.readers.set id { reader with stage := .stopped }).countP isSending + 1 =
        state.readers.countP isSending := countP_isSending_set found stage rfl
    simp only [setReader]
    omega
  | takes idle held =>
    simp only [idle, held, length_cons, writerRemaining]
    omega
  | writes writing there =>
    simp only [writing, writerRemaining]
    omega
  | fails writing gone =>
    simp only [writing, length_nil, writerRemaining]
    omega
  | writerEnds idle stopped =>
    simp only [idle, writerRemaining]
    omega

theorem exists_atRest (ended : state.server = .ended) :
    ∃ final, state.Becomes final ∧ final.AtRest := by
  refine exists_rests (fun state => state.server = .ended) remaining ?_ ended
  intro state after event ended undisturbed taken
  have change := step_change ended undisturbed taken
  exact ⟨change.server_eq.trans ended, change.remaining_lt⟩

theorem mem_setReader {member : SocketReader}
    {stage : ReaderStage} (inside : member ∈ (state.setReader id reader stage).readers) :
    member ∈ state.readers ∨ member.stage = stage := by
  rcases mem_or_eq_of_mem_set inside with old | rfl
  · exact .inl old
  · exact .inr rfl

theorem CanStop.kept (can : CanStop state) (change : Change state after) :
    CanStop after := by
  obtain ⟨noneReceives, channelCloses⟩ := can
  cases change with
  | clientCloses there =>
    refine ⟨noneReceives, channelCloses.imp_right (Or.imp_right ?_)⟩
    exact fun ⟨writing, _, full⟩ => ⟨writing, rfl, full⟩
  | queued found stage running room =>
    have waits := mem_of_getElem? found
    rcases channelCloses with stopped | ended | ⟨_, _, full⟩
    · rw [stopped _ waits] at stage
      contradiction
    · contradiction
    · omega
  | closed found stage ended =>
    refine ⟨fun member inside => ?_, .inr (.inl ended)⟩
    rcases mem_setReader inside with old | put
    · exact noneReceives member old
    · rw [put]
      exact ReaderStage.noConfusion
  | takes idle held =>
    refine ⟨noneReceives, ?_⟩
    rcases channelCloses with stopped | ended | ⟨⟨_, writing⟩, _⟩
    · exact .inl stopped
    · simp [idle] at ended
    · simp [idle] at writing
  | writes writing there =>
    refine ⟨noneReceives, ?_⟩
    rcases channelCloses with stopped | ended | ⟨_, gone, _⟩
    · exact .inl stopped
    · simp [writing] at ended
    · simp [there] at gone
  | fails writing gone => exact ⟨noneReceives, .inr (.inl rfl)⟩
  | writerEnds idle stopped => exact ⟨noneReceives, .inl stopped⟩

theorem CanStop.stopped (can : CanStop state) (rest : state.AtRest) :
    ∀ reader ∈ state.readers, reader.stage = .stopped := by
  intro reader member
  obtain ⟨id, found⟩ := getElem?_of_mem member
  cases stage : reader.stage with
  | stopped => rfl
  | receiving => exact absurd stage (can.noneReceives reader member)
  | sending reply =>
    rcases can.channelCloses with stopped | ended | ⟨⟨taken, writing⟩, gone, _⟩
    · rw [stopped reader member] at stage
      contradiction
    · have still := rest (.readerSends id) trivial
      simp [step, found, stage, send, ended] at still
    · have still := rest .writerWrites trivial
      simp [step, writing, gone] at still

theorem Change.receiving (change : Change state after) (found : state.readers[id]? = some reader)
    (stage : reader.stage = .receiving) : after.readers[id]? = some reader := by
  have other : ∀ {place : Nat} {sender : SocketReader} {reply : Bytes} (next : ReaderStage),
      state.readers[place]? = some sender → sender.stage = .sending reply →
        (state.setReader place sender next).readers[id]? = some reader := by
    intro place sender reply next at_ sends
    have apart : place ≠ id := by
      rintro rfl
      obtain rfl : reader = sender := some.inj (found.symm.trans at_)
      simp [stage] at sends
    simpa [setReader, getElem?_set_ne apart] using found
  cases change with
  | queued at_ sends running room => exact other .receiving at_ sends
  | closed at_ sends ended => exact other .stopped at_ sends
  | clientCloses | takes | writes | fails | writerEnds => exact found

theorem not_tornDown_of_receiving (ended : state.server = .ended)
    (found : state.readers[id]? = some reader)
    (stage : reader.stage = .receiving) : ¬ state.TornDown := by
  intro torn
  obtain ⟨final, becomes, rest⟩ := exists_atRest ended
  have kept : final.server = .ended ∧ final.readers[id]? = some reader := by
    refine Reachable.invariant (fun state => state.server = .ended ∧
      state.readers[id]? = some reader) ⟨ended, found⟩ ?_ becomes
    intro state after event holds undisturbed taken
    have change := step_change holds.1 undisturbed taken
    exact ⟨change.server_eq.trans holds.1, change.receiving holds.2 stage⟩
  have stopped := torn final becomes rest reader (mem_of_getElem? kept.2)
  rw [stage] at stopped
  contradiction

theorem TornDown.of_becomes (torn : state.TornDown)
    (becomes : state.Becomes after) : after.TornDown :=
  fun final later rest => torn final (becomes.trans later) rest

theorem TornDown.of_step {event : GatewayEvent} (torn : state.TornDown)
    (taken : step state event = some after) (undisturbed : event.undisturbed) : after.TornDown :=
  torn.of_becomes (Reachable.begin.next undisturbed taken)

theorem not_tornDown_of_room (ended : state.server = .ended)
    (found : state.readers[id]? = some reader)
    (stage : reader.stage = .sending reply) (running : state.writer ≠ .ended)
    (room : state.channel.length < channelCapacity) : ¬ state.TornDown := by
  intro torn
  have taken : step state (.readerSends id) = some { state.setReader id reader .receiving with
      channel := state.channel ++ [reply] } := by
    simp [step, found, stage, send, running, room]
  have inside : id < state.readers.length := (List.getElem?_eq_some_iff.mp found).1
  have waits : (state.setReader id reader .receiving).readers[id]? =
      some { reader with stage := .receiving } := by
    simp [setReader, inside]
  have later := torn.of_step taken trivial
  refine absurd later (not_tornDown_of_receiving ?_ waits rfl)
  exact ended

theorem not_tornDown_of_idle (ended : state.server = .ended)
    (bounded : state.channel.length ≤ channelCapacity)
    (found : state.readers[id]? = some reader)
    (stage : reader.stage = .sending reply) (idle : state.writer = .idle) : ¬ state.TornDown := by
  intro torn
  match held : state.channel with
  | [] =>
    refine not_tornDown_of_room ended found stage (by simp [idle]) ?_ torn
    simp [held, channelCapacity]
  | first :: behind =>
    have taken : step state .writerTakes =
        some { state with writer := .writing first, channel := behind } := by
      simp [step, idle, held]
    rw [held, length_cons] at bounded
    have later := torn.of_step taken trivial
    refine absurd later (not_tornDown_of_room ?_ found stage WriterStage.noConfusion bounded)
    exact ended

theorem not_tornDown_of_writing (ended : state.server = .ended)
    (bounded : state.channel.length ≤ channelCapacity)
    {first : Bytes} (found : state.readers[id]? = some reader)
    (stage : reader.stage = .sending reply) (writing : state.writer = .writing first)
    (there : state.clientOpen = true) : ¬ state.TornDown := by
  intro torn
  have taken : step state .writerWrites = some { state with writer := .idle } := by
    simp [step, writing, there]
  have later := torn.of_step taken trivial
  refine absurd later (not_tornDown_of_idle ?_ bounded found stage rfl)
  exact ended

theorem TornDown.canStop (torn : state.TornDown) (ended : state.server = .ended)
    (bounded : state.channel.length ≤ channelCapacity) : state.CanStop := by
  have noneReceives : ∀ reader ∈ state.readers, reader.stage ≠ .receiving := by
    intro reader member stage
    obtain ⟨id, found⟩ := getElem?_of_mem member
    exact not_tornDown_of_receiving ended found stage torn
  refine ⟨noneReceives, ?_⟩
  by_cases all : ∀ reader ∈ state.readers, reader.stage = .stopped
  · exact .inl all
  · -- Some reader waits for the channel, so the channel must not let it through.
    simp only [not_forall] at all
    obtain ⟨reader, member, running⟩ := all
    obtain ⟨id, found⟩ := getElem?_of_mem member
    cases stage : reader.stage with
    | receiving => exact absurd stage (noneReceives reader member)
    | stopped => exact absurd stage running
    | sending reply =>
      cases writer : state.writer with
      | ended => exact .inr (.inl rfl)
      | idle => exact absurd torn (not_tornDown_of_idle ended bounded found stage writer)
      | writing first =>
        cases client : state.clientOpen with
        | true =>
          exact absurd torn (not_tornDown_of_writing ended bounded found stage writer client)
        | false =>
          refine .inr (.inr ⟨⟨first, rfl⟩, rfl, Nat.le_of_not_lt fun room => ?_⟩)
          exact not_tornDown_of_room ended found stage (by simp [writer]) room torn

theorem CanStop.tornDown (can : state.CanStop) (ended : state.server = .ended) :
    state.TornDown := by
  intro final becomes rest
  have kept : final.server = .ended ∧ final.CanStop := by
    refine Reachable.invariant (fun state => state.server = .ended ∧ state.CanStop)
      ⟨ended, can⟩ ?_ becomes
    intro state after event holds undisturbed taken
    have change := step_change holds.1 undisturbed taken
    exact ⟨change.server_eq.trans holds.1, holds.2.kept change⟩
  exact kept.2.stopped rest

theorem length_le_of_send {channel : List Bytes}
    (sent : state.send reply = .queued channel) : channel.length ≤ channelCapacity := by
  obtain ⟨-, room, rfl⟩ := send_eq_queued_iff.mp sent
  rw [length_append]
  exact room

theorem channel_bounded (reached : Reachable step (fun _ _ => True) {} state) :
    state.channel.length ≤ channelCapacity := by
  refine Reachable.invariant (fun state : Gateway => state.channel.length ≤ channelCapacity)
    (Nat.zero_le _) ?_ reached
  intro state after event bounded _ taken
  cases event with
  | serverSends =>
    simp only [step] at taken
    split at taken
    · split at taken
      · contradiction
      · rename_i sent
        cases taken
        exact length_le_of_send sent
      · cases taken
        exact bounded
    · contradiction
  | readerSends id =>
    simp only [step] at taken
    split at taken
    · split at taken
      · split at taken
        · contradiction
        · rename_i sent
          cases taken
          exact length_le_of_send sent
        · cases taken
          exact bounded
      · contradiction
    · contradiction
  | writerTakes =>
    simp only [step] at taken
    split at taken
    · rename_i held
      cases taken
      rw [held, length_cons] at bounded
      exact Nat.le_of_succ_le bounded
    · contradiction
  | writerWrites =>
    simp only [step] at taken
    split at taken
    · split at taken
      · cases taken
        exact bounded
      · cases taken
        exact Nat.zero_le _
    · contradiction
  | frame frame attempt =>
    simp only [step, answer] at taken
    split at taken
    · cases taken
      split <;> exact bounded
    · contradiction
  | clientCloses | serverEnds | abort | datagram | socketFails | writerEnds =>
    -- These steps leave the channel alone.
    simp only [step, endServer, setReader] at taken
    repeat' split at taken
    all_goals first
      | contradiction
      | obtain rfl := some.inj taken
        exact bounded

/--
Behind the server task all others come to rest, with every reader stopped exactly when none waits
for a datagram and those at the channel find it closed.
-/
theorem torn_down_iff {state : Gateway} (reached : Reachable step (fun _ _ => True) {} state)
    (ended : state.server = .ended) :
    (∃ final, state.Becomes final ∧ final.AtRest) ∧ (state.TornDown ↔ state.CanStop) :=
  ⟨exists_atRest ended, fun torn => torn.canStop ended (channel_bounded reached),
    fun can => can.tornDown ended⟩

def closedWhileWaiting : List GatewayEvent :=
  [.frame { flags := 2, connId := 7, addr := some (.v4 ⟨[8, 8, 8, 8], rfl⟩ 5000), payload := [1] }
    { lookup := none, binds := true, connects := true, sends := true },
    .clientCloses, .serverEnds]

theorem reader_waits_on : ∃ state, runSteps step {} closedWhileWaiting = some state ∧
    state.server = .ended ∧ ¬ state.TornDown := by
  refine ⟨_, rfl, rfl, ?_⟩
  exact not_tornDown_of_receiving rfl (show _[0]? = some _ from rfl) rfl

def closedBehindFailure : List GatewayEvent :=
  [.frame { flags := 2, connId := 7, addr := some (.v4 ⟨[8, 8, 8, 8], rfl⟩ 5000), payload := [1] }
    { lookup := none, binds := true, connects := true, sends := true },
    .socketFails 0, .abort]

theorem torn_down_behind_failure : ∃ state,
    runSteps step {} closedBehindFailure = some state ∧ state.TornDown := by
  refine ⟨_, rfl, ?_⟩
  have reached : Reachable step (fun _ _ => True) {} _ := Reachable.runSteps closedBehindFailure
    .begin (permits_of_forall_mem (fun _ _ _ => trivial) _) rfl
  refine ((torn_down_iff reached rfl).2).mpr ⟨?_, .inl ?_⟩
  · rintro reader ⟨⟩
    · exact ReaderStage.noConfusion
    · contradiction
  · rintro reader ⟨⟩
    · rfl
    · contradiction

end Gateway

end Udpgw

end Gvpn
