import Gvpn.Proofs.ReadSide

/-! How far the buffer of a session grows, and when its reader sleeps. -/

namespace Gvpn

open List

def DrainStage.owesNotice : DrainStage → Bool
  | .holding _ | .taken _ _ => true
  | .started | .loaded _ | .finished _ _ => false

def ReaderStage.admitted : ReaderStage → Bool
  | .reading | .holding _ | .ending => true
  | .checking | .full | .suspended | .ended | .aborted => false

namespace ReadSide

def NoticeOwed (state : ReadSide) (id : Nat) : Prop :=
  ∃ call, state.calls[id]? = some call ∧ call.stage.owesNotice = true

structure Paced (state : ReadSide) : Prop where
  room : state.reader.admitted = true → state.readBuf.length < readBufCap
  small : ∀ chunk, state.reader = .holding chunk → chunk.length ≤ readChunkMax
  bound : state.readBuf.length < readBufCap + readChunkMax
  awaited : state.reader = .full ∨ state.reader = .suspended → state.permit = false →
    readBufCap ≤ state.readBuf.length ∨ ∃ id, state.NoticeOwed id

theorem paced_start : Paced {} where
  room := nofun
  small := nofun
  bound := by decide
  awaited := nofun

variable {state : ReadSide} {id : Nat}

theorem noticeOwed_advance {call : DrainCall} {stage : DrainStage}
    (at_ : state.calls[id]? = some call) (keeps : call.stage.owesNotice = true →
      stage.owesNotice = true) {other : Nat} (owed : state.NoticeOwed other) :
    (state.advance id call stage).NoticeOwed other := by
  obtain ⟨owing, found, owes⟩ := owed
  by_cases same : other = id
  · subst same
    obtain rfl : call = owing := Option.some.inj (at_.symm.trans found)
    exact ⟨_, (getElem?_set_of_some at_ _ _).trans (if_pos rfl), keeps owes⟩
  · exact ⟨owing, (getElem?_set_of_some at_ _ _).trans ((if_neg same).trans found), owes⟩

theorem noticeOwed_self {call : DrainCall} {stage : DrainStage}
    (at_ : state.calls[id]? = some call) (owes : stage.owesNotice = true) :
    (state.advance id call stage).NoticeOwed id :=
  ⟨_, (getElem?_set_of_some at_ _ _).trans (if_pos rfl), owes⟩

namespace Paced

variable {state after : ReadSide}

theorem take (paced : state.Paced) (reader : after.reader = state.reader)
    (shorter : after.readBuf.length ≤ state.readBuf.length) (owed : ∃ id, after.NoticeOwed id) :
    after.Paced where
  room admitted := Nat.lt_of_le_of_lt shorter (paced.room (reader ▸ admitted))
  small chunk at_ := paced.small chunk (reader ▸ at_)
  bound := Nat.lt_of_le_of_lt shorter paced.bound
  awaited _ _ := .inr owed

theorem move (paced : state.Paced) (reader : ReaderStage) (permit : Bool)
    (waits : reader ≠ .full ∧ reader ≠ .suspended)
    (room : reader.admitted = true → state.readBuf.length < readBufCap)
    (small : ∀ chunk, reader = .holding chunk → chunk.length ≤ readChunkMax) :
    Paced { state with reader := reader, permit := permit } where
  room := room
  small := small
  bound := paced.bound
  awaited at_ := (at_.elim waits.1 waits.2).elim

theorem frame (paced : state.Paced) (reader : after.reader = state.reader)
    (permit : after.permit = state.permit) (readBuf : after.readBuf = state.readBuf)
    (owed : ∀ id, state.NoticeOwed id → after.NoticeOwed id) : after.Paced where
  room := by
    rw [reader, readBuf]
    exact paced.room
  small := by
    rw [reader]
    exact paced.small
  bound := by
    rw [readBuf]
    exact paced.bound
  awaited := by
    rw [reader, permit, readBuf]
    intro at_ bare
    exact (paced.awaited at_ bare).imp_right fun ⟨id, owes⟩ => ⟨id, owed id owes⟩

theorem append (paced : state.Paced) {chunk : Bytes} (at_ : state.reader = .holding chunk) :
    Paced { state with
      readBuf := state.readBuf ++ chunk
      appended := state.appended ++ chunk
      reader := .checking } where
  room := nofun
  small := nofun
  bound := by
    have room := paced.room (by rw [at_]; rfl)
    have small := paced.small chunk at_
    rw [length_append]
    omega
  awaited := by simp

theorem notify {id : Nat} {call : DrainCall} (paced : state.Paced) (stage : DrainStage) :
    (state.advance id call stage).notifyReader.Paced := by
  unfold notifyReader
  split
  · exact {
      room := nofun
      small := nofun
      bound := paced.bound
      awaited := by simp }
  · exact {
      room := paced.room
      small := paced.small
      bound := paced.bound
      awaited := fun _ bare => by simp at bare }

theorem change (paced : state.Paced) (change : Change state after) :
    after.Paced := by
  cases change with
  | enter at_ room => exact paced.move _ state.permit (by simp) (fun _ => room) nofun
  | fill at_ crowded =>
    exact { room := nofun, small := nofun, bound := paced.bound, awaited := fun _ _ => .inl crowded }
  | usePermit at_ => exact paced.move _ _ (by simp) nofun nofun
  | suspend at_ bare =>
    exact {
      room := nofun
      small := nofun
      bound := paced.bound
      awaited := fun _ _ => paced.awaited (.inl at_) bare }
  | read chunk at_ small =>
    refine paced.move _ state.permit (by simp) (fun _ => paced.room (by rw [at_]; rfl)) ?_
    rintro _ ⟨⟩
    exact small
  | finish at_ =>
    exact paced.move _ state.permit (by simp) (fun _ => paced.room (by rw [at_]; rfl)) nofun
  | append chunk at_ _ => exact paced.append at_
  | mark at_ => exact { room := nofun, small := nofun, bound := paced.bound, awaited := by simp }
  | call kind =>
    refine paced.frame rfl rfl rfl ?_
    rintro id ⟨call, found, owes⟩
    obtain ⟨inside, -⟩ := List.getElem?_eq_some_iff.mp found
    exact ⟨call, by rw [getElem?_append_left inside, found], owes⟩
  | load id kind at_ =>
    exact paced.frame rfl rfl rfl fun _ owed => noticeOwed_advance at_ nofun owed
  | takeNow id kind rawEof maxBytes at_ _ =>
    exact paced.take rfl (drainNow_rest_length rawEof state.readBuf maxBytes)
      ⟨id, noticeOwed_self at_ rfl⟩
  | takeAll id kind at_ _ => exact paced.take rfl (Nat.zero_le _) ⟨id, noticeOwed_self at_ rfl⟩
  | release id kind data at_ => exact paced.take rfl (Nat.le_refl _) ⟨id, noticeOwed_self at_ rfl⟩
  | notify id kind data eof at_ => exact paced.notify _
  | clean id kind data at_ => exact paced.frame rfl rfl rfl fun _ owed => owed
  | stay => exact paced
  | close => exact paced.frame rfl rfl rfl fun _ owed => owed
  | abort running => exact paced.move _ state.permit (by simp) nofun nofun

end Paced

theorem paced_of_reachable (reached : Reachable step (fun _ _ => True) {} state) : state.Paced :=
  reached.invariant Paced paced_start fun paced _ taken => paced.change (step_change taken)

def WakesReader (state : ReadSide) (id : Nat) : Prop :=
  ∃ count ≤ 2, ∃ after, runSteps step state (List.replicate count (.drain id)) = some after ∧
    after.reader = .checking

theorem step_notify_wakes {kind : DrainKind} {data : Bytes}
    {eof : Bool} (at_ : state.calls[id]? = some ⟨kind, .taken data eof⟩)
    (asleep : state.reader = .suspended) :
    ∃ after, state.step (.drain id) = some after ∧ after.reader = .checking := by
  refine ⟨(state.advance id ⟨kind, .taken data eof⟩ (.finished data eof)).notifyReader, ?_, ?_⟩
  · cases kind <;> simp [step, at_, drainStep]
  · simp [notifyReader, advance, asleep]

theorem wakesReader_of_owed (owed : state.NoticeOwed id)
    (asleep : state.reader = .suspended) : state.WakesReader id := by
  obtain ⟨⟨kind, stage⟩, at_, owes⟩ := owed
  cases stage with
  | started | loaded _ | finished _ _ => cases owes
  | taken data eof =>
    obtain ⟨after, taken, awake⟩ := step_notify_wakes at_ asleep
    exact ⟨1, by omega, after, by simp [runSteps, taken], awake⟩
  | holding data =>
    let released : ReadSide :=
      { state.advance id ⟨kind, .holding data⟩ (.taken data state.eof) with locked := none }
    have first : state.step (.drain id) = some released := by
      cases kind <;> simp [step, at_, drainStep, released]
    have there : released.calls[id]? = some ⟨kind, .taken data state.eof⟩ :=
      (getElem?_set_of_some at_ _ _).trans (if_pos rfl)
    obtain ⟨after, taken, awake⟩ := step_notify_wakes there asleep
    exact ⟨2, Nat.le_refl 2, after, by simp [runSteps, first, taken], awake⟩

def filledWith (bytes : Bytes) : ReadSide := { readBuf := bytes, appended := bytes }

theorem filledWith_append {bytes chunk : Bytes} (room : bytes.length < readBufCap)
    (some_ : chunk ≠ []) (small : chunk.length ≤ readChunkMax) :
    runSteps step (filledWith bytes)
      [.reader .ended, .reader (.data chunk), .reader .ended] =
        some (filledWith (bytes ++ chunk)) := by
  have fits : ¬ (chunk = [] ∨ readChunkMax < chunk.length) := by
    rintro (empty | large)
    · exact some_ empty
    · omega
  simp [runSteps, step, readerStep, filledWith, room, fits]

theorem filledWith_reachable {chunk : Bytes} (size : chunk.length = readChunkMax) {rounds : Nat}
    (within : rounds * readChunkMax ≤ readBufCap) :
    Reachable step (fun _ _ => True) {} (filledWith (List.replicate rounds chunk).flatten) := by
  have positive : 0 < readChunkMax := by decide
  induction rounds with
  | zero => exact .begin
  | succ rounds ih =>
    have length : (List.replicate rounds chunk).flatten.length = rounds * readChunkMax := by
      simp [size]
    have room : (List.replicate rounds chunk).flatten.length < readBufCap := by
      rw [Nat.succ_mul] at within
      omega
    have some_ : chunk ≠ [] := ne_nil_of_length_pos (by omega)
    have before := ih (by omega)
    have round := filledWith_append room some_ (Nat.le_of_eq size)
    rw [replicate_succ', flatten_append, flatten_singleton]
    exact before.runSteps _ (permits_of_forall_mem (fun _ _ _ => trivial) _) round

theorem filledWith_drained {bytes : Bytes} (full : bytes.length = readBufCap) :
    ∃ state, runSteps step (filledWith bytes)
      [.reader .ended, .reader .ended, .call (.now tcpDrainMaxBytes), .drain 0, .drain 0] =
        some state ∧
      state.reader = .suspended ∧ state.permit = false ∧
      state.readBuf = bytes.drop tcpDrainMaxBytes := by
  -- One drain takes less than the whole buffer.
  have more : ¬ readBufCap ≤ tcpDrainMaxBytes := by decide
  simp [runSteps, step, readerStep, drainStep, takeNow, advance, filledWith, full, drainNow, more]

theorem drained_asleep_reachable : ∃ state, Reachable step (fun _ _ => True) {} state ∧
    state.reader = .suspended ∧ state.permit = false ∧
    state.readBuf.length = readBufCap - tcpDrainMaxBytes := by
  have size : (List.replicate readChunkMax (0 : UInt8)).length = readChunkMax :=
    length_replicate
  generalize List.replicate readChunkMax (0 : UInt8) = chunk at size
  have filled := filledWith_reachable size (show 16 * readChunkMax ≤ readBufCap by decide)
  have full : (List.replicate 16 chunk).flatten.length = readBufCap := by
    rw [length_flatten, map_replicate, sum_replicate, size]
    decide
  obtain ⟨state, through, asleep, bare, rest⟩ := filledWith_drained full
  refine ⟨state, ?_, asleep, bare, ?_⟩
  · exact filled.runSteps _ (permits_of_forall_mem (fun _ _ _ => trivial) _) through
  · rw [rest, length_drop, full]

/--
The buffer stays below its cap and one read, and a reader that sleeps without a permit has a full
buffer or a drain in front of its notification.
-/
theorem backpressure_without_lost_wakeup {state : ReadSide}
    (reached : Reachable step (fun _ _ => True) {} state) :
    state.readBuf.length < readBufCap + readChunkMax ∧
    (state.reader = .suspended → state.permit = false →
      readBufCap ≤ state.readBuf.length ∨ ∃ id, state.NoticeOwed id ∧ state.WakesReader id) := by
  have paced := paced_of_reachable reached
  refine ⟨paced.bound, fun asleep bare => ?_⟩
  rcases paced.awaited (.inr asleep) bare with crowded | ⟨id, owed⟩
  · exact .inl crowded
  · exact .inr ⟨id, owed, wakesReader_of_owed owed asleep⟩

theorem backpressure_without_lost_wakeup_drained : ∃ state,
    Reachable step (fun _ _ => True) {} state ∧ state.reader = .suspended ∧
    state.permit = false ∧ ∃ id, state.NoticeOwed id ∧ state.WakesReader id := by
  obtain ⟨state, reached, asleep, bare, rest⟩ := drained_asleep_reachable
  refine ⟨state, reached, asleep, bare, ?_⟩
  rcases (backpressure_without_lost_wakeup reached).2 asleep bare with crowded | owed
  · rw [rest] at crowded
    exact absurd crowded (by decide)
  · exact owed

theorem reader_asleep_below_cap : ∃ state, Reachable step (fun _ _ => True) {} state ∧
    state.reader = .suspended ∧ state.permit = false ∧ state.readBuf.length < readBufCap := by
  obtain ⟨state, reached, asleep, bare, rest⟩ := drained_asleep_reachable
  exact ⟨state, reached, asleep, bare, by rw [rest]; decide⟩

end ReadSide

end Gvpn
