import Gvpn.Data.Handed
import Gvpn.Proofs.Downlink
import Gvpn.TunnelNode.Batch
import Gvpn.TunnelNode.ReadSide

/-! What the drains of a session hand out, in any order of steps. -/

namespace Gvpn

open List Option

theorem drainNow_end {rawEof : Bool} {readBuf : Bytes} {maxBytes : Nat}
    (found : (drainNow rawEof readBuf maxBytes).2.1 = true) :
    rawEof = true ∧ (drainNow rawEof readBuf maxBytes).2.2 = [] := by
  unfold drainNow at found ⊢
  by_cases fits : readBuf.length ≤ min maxBytes tcpDrainMaxBytes
  · rw [if_pos fits] at found ⊢
    exact ⟨found, rfl⟩
  · -- A partial drain never reports the end.
    rw [if_neg fits] at found
    cases found

theorem drainNow_rest_length (rawEof : Bool) (readBuf : Bytes) (maxBytes : Nat) :
    (drainNow rawEof readBuf maxBytes).2.2.length ≤ readBuf.length := by
  have parts := congrArg List.length (drainNow_split rawEof readBuf maxBytes)
  rw [length_append] at parts
  omega

def DrainStage.chunk : DrainStage → Option Bytes
  | .started | .loaded _ => none
  | .holding data | .taken data _ | .finished data _ => some data

namespace ReadSide

def chunk (state : ReadSide) (id : Nat) : Option Bytes :=
  takenBy (fun call : DrainCall => call.stage.chunk) state.calls id

def handedOut (state : ReadSide) : Bytes := handed state.order state.chunk

inductive Change (state : ReadSide) : ReadSide → Prop
  | enter (at_ : state.reader = .checking) (room : state.readBuf.length < readBufCap) :
      Change state { state with reader := .reading }
  | fill (at_ : state.reader = .checking) (crowded : readBufCap ≤ state.readBuf.length) :
      Change state { state with reader := .full }
  | usePermit (at_ : state.reader = .full) :
      Change state { state with permit := false, reader := .checking }
  | suspend (at_ : state.reader = .full) (bare : state.permit = false) :
      Change state { state with reader := .suspended }
  | read (chunk : Bytes) (at_ : state.reader = .reading) (small : chunk.length ≤ readChunkMax) :
      Change state { state with reader := .holding chunk }
  | finish (at_ : state.reader = .reading) : Change state { state with reader := .ending }
  | append (chunk : Bytes) (at_ : state.reader = .holding chunk) (free : state.locked = none) :
      Change state { state with
        readBuf := state.readBuf ++ chunk
        appended := state.appended ++ chunk
        reader := .checking }
  | mark (at_ : state.reader = .ending) : Change state { state with eof := true, reader := .ended }
  | call (kind : DrainKind) :
      Change state { state with calls := state.calls ++ [⟨kind, .started⟩] }
  | load (id : Nat) (kind : DrainKind) (at_ : state.calls[id]? = some ⟨kind, .started⟩) :
      Change state (state.advance id ⟨kind, .started⟩ (.loaded state.eof))
  | takeNow (id : Nat) (kind : DrainKind) (rawEof : Bool) (maxBytes : Nat)
      (at_ : state.calls[id]? = some ⟨kind, .loaded rawEof⟩) (free : state.locked = none) :
      Change state (state.takeNow id ⟨kind, .loaded rawEof⟩ rawEof maxBytes)
  | takeAll (id : Nat) (kind : DrainKind) (at_ : state.calls[id]? = some ⟨kind, .started⟩)
      (free : state.locked = none) : Change state (state.takeAll id ⟨kind, .started⟩)
  | release (id : Nat) (kind : DrainKind) (data : Bytes)
      (at_ : state.calls[id]? = some ⟨kind, .holding data⟩) :
      Change state
        { state.advance id ⟨kind, .holding data⟩ (.taken data state.eof) with locked := none }
  | notify (id : Nat) (kind : DrainKind) (data : Bytes) (eof : Bool)
      (at_ : state.calls[id]? = some ⟨kind, .taken data eof⟩) :
      Change state (state.advance id ⟨kind, .taken data eof⟩ (.finished data eof)).notifyReader
  | clean (id : Nat) (kind : DrainKind) (data : Bytes)
      (at_ : state.calls[id]? = some ⟨kind, .finished data true⟩) :
      Change state { state with mapped := false, cleaned := true, stopping := true }
  | stay : Change state state
  | close : Change state { state with mapped := false, stopping := true }
  | abort (running : state.reader ≠ .ended) : Change state { state with reader := .aborted }

variable {state : ReadSide} {id : Nat}

theorem readerStep_change {after : ReadSide} {outcome : ReadOutcome}
    (taken : state.readerStep outcome = some after) : Change state after := by
  unfold readerStep at taken
  cases at_ : state.reader with
  | checking =>
    simp only [at_] at taken
    split at taken
    · cases taken
    · split at taken
      · next room =>
        cases taken
        exact .enter at_ room
      · next crowded =>
        cases taken
        exact .fill at_ (Nat.le_of_not_lt crowded)
  | full =>
    simp only [at_] at taken
    split at taken
    · cases taken
      exact .usePermit at_
    · next bare =>
      cases taken
      exact .suspend at_ (Bool.not_eq_true _ ▸ bare)
  | suspended | ended | aborted => simp [at_] at taken
  | reading =>
    cases outcome with
    | data chunk =>
      simp only [at_] at taken
      split at taken
      · cases taken
      · next fits =>
        cases taken
        exact .read chunk at_ (Nat.le_of_not_lt fun large => fits (.inr large))
    | ended =>
      simp only [at_, some.injEq] at taken
      exact taken ▸ .finish at_
  | holding chunk =>
    simp only [at_] at taken
    split at taken
    · cases taken
    · next free =>
      cases taken
      exact .append chunk at_ (by simpa using free)
  | ending =>
    simp only [at_, some.injEq] at taken
    exact taken ▸ .mark at_

theorem drainStep_change {after : ReadSide} {call : DrainCall} (at_ : state.calls[id]? = some call)
    (taken : state.drainStep id call = some after) : Change state after := by
  obtain ⟨kind, stage⟩ := call
  unfold drainStep at taken
  cases stage with
  | started =>
    cases kind with
    | now maxBytes =>
      cases taken
      exact .load id _ at_
    | wait =>
      simp only at taken
      split at taken
      · cases taken
      · next free =>
        cases taken
        exact .takeAll id _ at_ (by simpa using free)
  | loaded rawEof =>
    cases kind with
    | now maxBytes =>
      simp only at taken
      split at taken
      · cases taken
      · next free =>
        cases taken
        exact .takeNow id _ rawEof maxBytes at_ (by simpa using free)
    | wait => cases taken
  | holding data => cases kind <;> cases taken <;> exact .release id _ data at_
  | taken data eof => cases kind <;> cases taken <;> exact .notify id _ data eof at_
  | finished data eof => cases kind <;> cases taken

theorem result_end (found : state.result id = some true) :
    ∃ kind data, state.calls[id]? = some ⟨kind, .finished data true⟩ := by
  unfold result at found
  split at found
  · next kind data eof at_ =>
    cases found
    exact ⟨kind, data, at_⟩
  · cases found

theorem cleanup_change {after : ReadSide} {ids : List Nat}
    (taken : state.cleanup ids = some after) : Change state after := by
  unfold cleanup at taken
  split at taken
  · simp only at taken
    split at taken
    · next removes =>
      obtain ⟨found, -⟩ := Bool.and_eq_true_iff.mp removes
      obtain ⟨id, -, ends⟩ := List.any_eq_true.mp found
      obtain ⟨kind, data, at_⟩ := result_end (of_decide_eq_true ends)
      cases taken
      exact .clean id kind data at_
    · cases taken
      exact .stay
  · cases taken

theorem step_change {after : ReadSide} {event : ReadEvent} (taken : state.step event = some after) :
    Change state after := by
  cases event with
  | reader outcome => exact readerStep_change taken
  | call kind =>
    cases taken
    exact .call kind
  | drain id =>
    unfold step at taken
    cases at_ : state.calls[id]? with
    | none => simp [at_] at taken
    | some call =>
      simp only [at_] at taken
      exact drainStep_change at_ taken
  | cleanup ids => exact cleanup_change taken
  | close =>
    cases taken
    exact .close
  | abort =>
    simp only [step, ReadSide.abort] at taken
    split at taken
    · next running =>
      cases taken
      exact .abort running.2
    · cases taken

def Remembers (state : ReadSide) (id : Nat) : DrainStage → Prop
  | .started => True
  | .loaded rawEof => rawEof = true → state.eof = true
  | .holding _ => state.locked = some id
  | .taken _ eof | .finished _ eof => eof = true → state.eof = true ∧ state.readBuf = []

theorem Remembers.mono {after : ReadSide} {stage : DrainStage}
    (remembers : state.Remembers id stage) (ends : state.eof = true → after.eof = true)
    (empties : state.eof = true → state.readBuf = [] → after.readBuf = [])
    (locks : state.locked = some id → after.locked = some id) : after.Remembers id stage := by
  cases stage with
  | started => trivial
  | loaded rawEof => exact fun marked => ends (remembers marked)
  | holding data => exact locks remembers
  | taken data eof | finished data eof =>
    intro found
    obtain ⟨marked, empty⟩ := remembers found
    exact ⟨ends marked, empties marked empty⟩

structure Conserved (state : ReadSide) : Prop where
  -- Nothing is lost, doubled or moved.
  stream : state.handedOut ++ state.readBuf = state.appended
  -- No drain has the buffer twice.
  once : state.order.Nodup
  ran : ∀ id, id ∈ state.order ↔ (state.chunk id).isSome
  marked : state.eof = true → state.reader = .ended
  emptied : state.locked.isSome → state.readBuf = []
  remembers : ∀ id call, state.calls[id]? = some call → state.Remembers id call.stage
  cleaned : state.cleaned = true → state.eof = true ∧ state.readBuf = []

theorem conserved_start : Conserved {} where
  stream := rfl
  once := nodup_nil
  ran id := by simp [chunk, takenBy]
  marked := nofun
  emptied := nofun
  remembers id call found := by simp at found
  cleaned := nofun

namespace Conserved

variable {state : ReadSide}

theorem unmarked (sound : state.Conserved) (running : state.reader ≠ .ended) :
    state.eof = false := by
  cases ends : state.eof with
  | true => exact absurd (sound.marked ends) running
  | false => rfl

theorem move (sound : state.Conserved) (running : state.reader ≠ .ended) (reader : ReaderStage)
    (permit : Bool) : Conserved { state with reader := reader, permit := permit } :=
  { sound with
    marked ends := absurd (sound.marked ends) running
    remembers id call found := (sound.remembers id call found).mono (·) (fun _ empty => empty) (·) }

theorem append (sound : state.Conserved) {chunk : Bytes} (at_ : state.reader = .holding chunk)
    (free : state.locked = none) :
    Conserved { state with
      readBuf := state.readBuf ++ chunk
      appended := state.appended ++ chunk
      reader := .checking } := by
  have open_ : state.eof = false := sound.unmarked (by simp [at_])
  exact { sound with
    stream := by
      show state.handedOut ++ (state.readBuf ++ chunk) = state.appended ++ chunk
      rw [← append_assoc, sound.stream]
    marked := fun ends => by simp [open_] at ends
    emptied := fun held => by simp [free] at held
    remembers := fun id call found => (sound.remembers id call found).mono (·)
      (fun ends => by simp [open_] at ends) (·)
    cleaned := fun gone => by
      obtain ⟨ends, -⟩ := sound.cleaned gone
      simp [open_] at ends }

theorem mark (sound : state.Conserved) (at_ : state.reader = .ending) :
    Conserved { state with eof := true, reader := .ended } := by
  have open_ : state.eof = false := sound.unmarked (by simp [at_])
  exact { sound with
    marked := fun _ => rfl
    remembers := fun id call found => (sound.remembers id call found).mono (fun _ => rfl)
      (fun _ empty => empty) (·)
    cleaned := fun gone => by
      obtain ⟨ends, -⟩ := sound.cleaned gone
      simp [open_] at ends }

theorem call (sound : state.Conserved) (kind : DrainKind) :
    Conserved { state with calls := state.calls ++ [⟨kind, .started⟩] } := by
  have same : ReadSide.chunk { state with calls := state.calls ++ [⟨kind, .started⟩] } =
      state.chunk := takenBy_concat rfl
  exact { sound with
    stream := by
      unfold handedOut
      rw [same]
      exact sound.stream
    ran := same ▸ sound.ran
    remembers := fun id call found => by
      rcases getElem?_concat_eq_some found with old | rfl
      · exact (sound.remembers id call old).mono (·) (fun _ empty => empty) (·)
      · trivial }

section Drains

variable {id : Nat} {kind : DrainKind} {stage : DrainStage}

theorem advance_remembers (sound : state.Conserved) (after : ReadSide) (next : DrainStage)
    (calls : after.calls = (state.advance id ⟨kind, stage⟩ next).calls)
    (itself : after.Remembers id next)
    (others : ∀ other stage, other ≠ id → state.Remembers other stage →
      after.Remembers other stage) :
    ∀ other call, after.calls[other]? = some call → after.Remembers other call.stage := by
  intro other call found
  rw [calls] at found
  rcases getElem?_set_eq_some found with ⟨rfl, rfl⟩ | ⟨differs, was⟩
  · exact itself
  · exact others other call.stage differs (sound.remembers other call was)

theorem advance (sound : state.Conserved) (at_ : state.calls[id]? = some ⟨kind, stage⟩)
    (next : DrainStage) (same : next.chunk = stage.chunk) (remembers : state.Remembers id next) :
    (state.advance id ⟨kind, stage⟩ next).Conserved := by
  have kept : (state.advance id ⟨kind, stage⟩ next).chunk = state.chunk :=
    takenBy_set_of_eq at_ same
  exact { sound with
    stream := by
      unfold handedOut
      rw [kept]
      exact sound.stream
    ran := kept ▸ sound.ran
    remembers := sound.advance_remembers _ next rfl
      (remembers.mono (·) (fun _ empty => empty) (·))
      fun _ _ _ others => others.mono (·) (fun _ empty => empty) (·) }

theorem take (sound : state.Conserved) {data : Bytes}
    (at_ : state.calls[id]? = some ⟨kind, stage⟩) (idle : stage.chunk = none)
    (after : ReadSide) (next : DrainStage) (has : next.chunk = some data)
    (calls : after.calls = (state.advance id ⟨kind, stage⟩ next).calls)
    (order : after.order = state.order ++ [id]) (parts : data ++ after.readBuf = state.readBuf)
    (appended : after.appended = state.appended) :
    after.handedOut ++ after.readBuf = after.appended ∧ after.order.Nodup ∧
      ∀ other, other ∈ after.order ↔ (after.chunk other).isSome := by
  have fresh : id ∉ state.order := by
    rw [sound.ran id]
    simp [chunk, takenBy, at_, idle]
  have chunks : ∀ other,
      after.chunk other = if other = id then some data else state.chunk other := by
    intro other
    rw [chunk, calls, ← has]
    exact takenBy_set at_ _ other
  refine ⟨?_, ?_, fun other => ?_⟩
  · rw [handedOut, order, handed_concat chunks fresh, append_assoc, parts, appended]
    exact sound.stream
  · rw [order]
    exact sound.once.append (nodup_singleton id) (by simpa using fresh)
  · rw [order]
    exact mem_concat_iff_isSome chunks sound.ran other

theorem takeNow (sound : state.Conserved) {rawEof : Bool}
    (at_ : state.calls[id]? = some ⟨kind, .loaded rawEof⟩) (free : state.locked = none)
    (maxBytes : Nat) : (state.takeNow id ⟨kind, .loaded rawEof⟩ rawEof maxBytes).Conserved := by
  have parts := drainNow_split rawEof state.readBuf maxBytes
  have empties : state.readBuf = [] → (drainNow rawEof state.readBuf maxBytes).2.2 = [] :=
    fun empty => (List.append_eq_nil_iff.mp (parts.trans empty)).2
  let drained := drainNow rawEof state.readBuf maxBytes
  obtain ⟨stream, once, ran⟩ := sound.take at_ rfl
    (state.takeNow id ⟨kind, .loaded rawEof⟩ rawEof maxBytes) (.taken drained.1 drained.2.1)
    rfl rfl rfl parts rfl
  exact { sound with
    stream := stream
    once := once
    ran := ran
    emptied := fun held => by simp [ReadSide.takeNow, ReadSide.advance, free] at held
    remembers := by
      apply sound.advance_remembers (state.takeNow id ⟨kind, .loaded rawEof⟩ rawEof maxBytes)
        (.taken drained.1 drained.2.1) rfl
      · -- The end was marked before the lock was taken, and is reported with nothing left.
        intro found
        obtain ⟨marked, rest⟩ := drainNow_end found
        exact ⟨sound.remembers id _ at_ marked, rest⟩
      · intro other stage _ others
        exact others.mono (·) (fun _ => empties) (·)
    cleaned := fun gone => (sound.cleaned gone).imp_right empties }

theorem takeAll (sound : state.Conserved) (at_ : state.calls[id]? = some ⟨kind, .started⟩)
    (free : state.locked = none) : (state.takeAll id ⟨kind, .started⟩).Conserved := by
  obtain ⟨stream, once, ran⟩ := sound.take at_ rfl (state.takeAll id ⟨kind, .started⟩)
    (.holding state.readBuf) rfl rfl rfl (append_nil state.readBuf) rfl
  exact { sound with
    stream := stream
    once := once
    ran := ran
    emptied := fun _ => rfl
    remembers := by
      apply sound.advance_remembers (state.takeAll id ⟨kind, .started⟩)
        (.holding state.readBuf) rfl rfl
      intro other stage _ others
      exact others.mono (·) (fun _ _ => rfl) (fun held => by simp [free] at held)
    cleaned := fun gone => (sound.cleaned gone).imp_right fun _ => rfl }

theorem release (sound : state.Conserved) {data : Bytes}
    (at_ : state.calls[id]? = some ⟨kind, .holding data⟩) :
    Conserved
      { state.advance id ⟨kind, .holding data⟩ (.taken data state.eof) with locked := none } := by
  have held : state.locked = some id := sound.remembers id _ at_
  have empty : state.readBuf = [] := sound.emptied (by simp [held])
  have further := sound.advance at_ (.taken data state.eof) rfl fun ends => ⟨ends, empty⟩
  refine { further with emptied := nofun, remembers := fun other call found => ?_ }
  have remembers := further.remembers other call found
  by_cases same : other = id
  · -- The drain itself does not need the lock any more.
    rw [same] at found
    have moved : call = ⟨kind, .taken data state.eof⟩ := by
      simpa [ReadSide.advance, getElem?_set_of_some at_] using found.symm
    rw [moved]
    exact fun ends => ⟨ends, empty⟩
  · -- No other drain holds the lock.
    refine remembers.mono (·) (fun _ empty => empty) fun holds => ?_
    exact absurd (some.inj (held.symm.trans holds)).symm same

end Drains

theorem notifyReader (sound : state.Conserved) : state.notifyReader.Conserved := by
  unfold ReadSide.notifyReader
  split
  · next asleep => exact sound.move (by simp [asleep]) .checking state.permit
  · exact { sound with
      remembers := fun id call found =>
        (sound.remembers id call found).mono (·) (fun _ empty => empty) (·) }

theorem unmap (sound : state.Conserved) (cleaned : Bool)
    (drained : cleaned = true → state.eof = true ∧ state.readBuf = []) :
    Conserved { state with mapped := false, cleaned := cleaned, stopping := true } :=
  { sound with
    remembers id call found := (sound.remembers id call found).mono (·) (fun _ empty => empty) (·)
    cleaned := drained }

theorem change {after : ReadSide} (sound : state.Conserved) (change : Change state after) :
    after.Conserved := by
  cases change with
  | enter at_ _ => exact sound.move (by simp [at_]) _ state.permit
  | fill at_ _ => exact sound.move (by simp [at_]) _ state.permit
  | usePermit at_ => exact sound.move (by simp [at_]) _ _
  | suspend at_ _ => exact sound.move (by simp [at_]) _ state.permit
  | read chunk at_ _ => exact sound.move (by simp [at_]) _ state.permit
  | finish at_ => exact sound.move (by simp [at_]) _ state.permit
  | append chunk at_ free => exact sound.append at_ free
  | mark at_ => exact sound.mark at_
  | call kind => exact sound.call kind
  | load id kind at_ => exact sound.advance at_ (.loaded state.eof) rfl (·)
  | takeNow id kind rawEof maxBytes at_ free => exact sound.takeNow at_ free maxBytes
  | takeAll id kind at_ free => exact sound.takeAll at_ free
  | release id kind data at_ => exact sound.release at_
  | notify id kind data eof at_ =>
    exact (sound.advance at_ (.finished data eof) rfl (sound.remembers id _ at_)).notifyReader
  | clean id kind data at_ => exact sound.unmap true fun _ => sound.remembers id _ at_ rfl
  | stay => exact sound
  | close => exact sound.unmap state.cleaned sound.cleaned
  | abort running => exact sound.move running _ state.permit

end Conserved

theorem conserved_of_reachable (reached : Reachable step (fun _ _ => True) {} state) :
    state.Conserved :=
  reached.invariant Conserved conserved_start fun sound _ taken => sound.change (step_change taken)

/--
The drains hand out the reader's stream in order; only a drain that has seen its end and left
nothing reports it, and only then the session is cleaned up.
-/
theorem drains_conserve_stream {state : ReadSide}
    (reached : Reachable step (fun _ _ => True) {} state) :
    (state.handedOut ++ state.readBuf = state.appended ∧ state.order.Nodup ∧
      ∀ id, id ∈ state.order ↔ (state.chunk id).isSome) ∧
    (∀ (id : Nat) (kind : DrainKind) (data : Bytes),
      state.calls[id]? = some ⟨kind, .finished data true⟩ →
      state.reader = .ended ∧ state.readBuf = []) ∧
    (state.cleaned = true → state.reader = .ended ∧ state.handedOut = state.appended) := by
  have sound := conserved_of_reachable reached
  refine ⟨⟨sound.stream, sound.once, sound.ran⟩, fun id kind data found => ?_, fun gone => ?_⟩
  · obtain ⟨ends, empty⟩ := sound.remembers id _ found rfl
    exact ⟨sound.marked ends, empty⟩
  · -- With nothing left in the buffer, what was handed out is all of the stream.
    obtain ⟨ends, empty⟩ := sound.cleaned gone
    have stream := sound.stream
    rw [empty, append_nil] at stream
    exact ⟨sound.marked ends, stream⟩

def twoDrains : List ReadEvent :=
  [.reader .ended, .reader (.data [104, 105]), .reader .ended, .call (.now 1), .call .wait,
    .drain 0, .drain 0, .reader .ended, .reader .ended, .drain 1, .reader .ended, .drain 1,
    .drain 1, .drain 0, .cleanup [0, 1]]

theorem drains_conserve_stream_two : ∃ state, runSteps step {} twoDrains = some state ∧
    state.cleaned = true ∧ state.order = [0, 1] ∧ state.appended = [104, 105] ∧
    state.handedOut = state.appended := by
  refine ⟨_, rfl, rfl, rfl, rfl, ?_⟩
  have reached : Reachable step (fun _ _ => True) {} _ := Reachable.runSteps twoDrains .begin
    (permits_of_forall_mem (fun _ _ _ => trivial) _) rfl
  exact ((drains_conserve_stream reached).2.2 rfl).2

end ReadSide

end Gvpn
