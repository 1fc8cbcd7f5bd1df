import Gvpn.TunnelNode.UdpQueue

/-! What the drains of a UDP session return, in every order of receipts and drains. -/

namespace Gvpn

open List Option

def receivedIn (history : List QueueEntry) : List Bytes :=
  history.filterMap fun
    | .received datagram => some datagram
    | .drained _ => none

def drainedIn (history : List QueueEntry) : List Nat :=
  history.filterMap fun
    | .received _ => none
    | .drained id => some id

def sinceDrain (history : List QueueEntry) : List Bytes :=
  history.foldl (fun since entry =>
    match entry with
    | .received datagram => since ++ [datagram]
    | .drained _ => []) []

section

variable (history : List QueueEntry)

variable (datagram : Bytes)

@[simp] theorem receivedIn_received :
    receivedIn (history ++ [.received datagram]) = receivedIn history ++ [datagram] := by
  simp [receivedIn]

@[simp] theorem receivedIn_drained (id : Nat) :
    receivedIn (history ++ [.drained id]) = receivedIn history := by simp [receivedIn]

@[simp] theorem drainedIn_received :
    drainedIn (history ++ [.received datagram]) = drainedIn history := by simp [drainedIn]

@[simp] theorem drainedIn_drained (id : Nat) :
    drainedIn (history ++ [.drained id]) = drainedIn history ++ [id] := by simp [drainedIn]

@[simp] theorem sinceDrain_received :
    sinceDrain (history ++ [.received datagram]) = sinceDrain history ++ [datagram] := by
  simp [sinceDrain]

@[simp] theorem sinceDrain_drained (id : Nat) : sinceDrain (history ++ [.drained id]) = [] := by
  simp [sinceDrain]

theorem mem_drainedIn {id : Nat} : id ∈ drainedIn history ↔ .drained id ∈ history := by
  unfold drainedIn
  rw [mem_filterMap]
  constructor
  · rintro ⟨entry, member, is⟩
    cases entry with
    | received datagram => cases is
    | drained other =>
      cases is
      exact member
  · intro member
    exact ⟨.drained id, member, rfl⟩

end

def UdpDrainStage.taken : UdpDrainStage → Option (List Bytes)
  | .started => none
  | .emptied packets | .counted packets | .finished packets _ => some packets

namespace UdpQueue

def taken (state : UdpQueue) (id : Nat) : Option (List Bytes) :=
  takenBy UdpDrainStage.taken state.drains id

def handedOut (state : UdpQueue) : List Bytes := handed (drainedIn state.history) state.taken

variable {state after : UdpQueue} {id : Nat}

def TookLast (history : List QueueEntry) (id : Nat) (packets : List Bytes) : Prop :=
  ∃ before after, history = before ++ .drained id :: after ∧
    .drained id ∉ before ∧ .drained id ∉ after ∧
    packets = (sinceDrain before).rtake udpQueueLimit

theorem TookLast.concat {history : List QueueEntry} {packets : List Bytes}
    (took : TookLast history id packets) {entry : QueueEntry} (other : entry ≠ .drained id) :
    TookLast (history ++ [entry]) id packets := by
  obtain ⟨before, after, split, notBefore, notAfter, is⟩ := took
  refine ⟨before, after ++ [entry], by simp [split], notBefore, ?_, is⟩
  rw [mem_append, mem_singleton]
  rintro (late | same)
  · exact notAfter late
  · exact other same.symm

def holdsLock : UdpDrainStage → Bool
  | .emptied _ | .counted _ => true
  | .started | .finished _ _ => false

def readerHolds : UdpReaderStage → Bool
  | .queued | .counted => true
  | .receiving | .holding _ | .failing | .ended | .aborted => false

structure Sound (state : UdpQueue) : Prop where
  queue : state.packets = (sinceDrain state.history).rtake udpQueueLimit
  counted : state.reader ≠ .queued →
    (∀ (id : Nat) (packets : List Bytes), state.drains[id]? ≠ some (.emptied packets)) →
    state.pktCount = state.packets.length
  emptied : ∀ (id : Nat) (stage : UdpDrainStage), state.drains[id]? = some stage →
    holdsLock stage = true → state.locked = some (.drain id) ∧ state.packets = []
  readerLock : readerHolds state.reader = true → state.locked = some .reader
  balance : state.queueDrops + state.handedOut.length + state.packets.length =
    (receivedIn state.history).length
  ran : ∀ id, id ∈ drainedIn state.history ↔ (state.taken id).isSome
  took : ∀ id packets, state.taken id = some packets → TookLast state.history id packets
  marked : state.eof = true → state.reader = .ended
  ended : ∀ (id : Nat) (packets : List Bytes), state.drains[id]? = some (.finished packets true) →
    state.eof = true ∧ state.packets = []

theorem sound_start : Sound {} where
  queue := rfl
  counted := fun _ _ => rfl
  emptied id stage found := by simp at found
  readerLock := nofun
  balance := rfl
  ran id := by simp [drainedIn, taken, takenBy]
  took id packets found := by simp [taken, takenBy] at found
  marked := nofun
  ended id packets found := by simp at found

namespace Sound

variable {state : UdpQueue}

variable {id : Nat}

theorem no_holder (sound : state.Sound) (free : state.locked = none)
    {stage : UdpDrainStage} (found : state.drains[id]? = some stage) : holdsLock stage = false := by
  cases holds : holdsLock stage with
  | false => rfl
  | true =>
    obtain ⟨held, -⟩ := sound.emptied id stage found holds
    rw [free] at held
    cases held

theorem no_holder_of_reader (sound : state.Sound) (holds : readerHolds state.reader = true)
    {stage : UdpDrainStage} (found : state.drains[id]? = some stage) :
    holdsLock stage = false := by
  cases drain : holdsLock stage with
  | false => rfl
  | true =>
    obtain ⟨held, -⟩ := sound.emptied id stage found drain
    rw [sound.readerLock holds] at held
    cases held

theorem not_emptied (none_ : ∀ {stage}, state.drains[id]? = some stage →
    holdsLock stage = false) (packets : List Bytes) :
    state.drains[id]? ≠ some (.emptied packets) :=
  fun found => Bool.noConfusion (none_ found)

theorem count_of_free (sound : state.Sound) (free : state.locked = none) :
    state.pktCount = state.packets.length := by
  apply sound.counted
  · intro at_
    have held := sound.readerLock (by rw [at_]; rfl)
    rw [free] at held
    cases held
  · intro id packets
    exact not_emptied (fun found => sound.no_holder free found) packets

theorem unmarked (sound : state.Sound) (running : state.reader ≠ .ended) : state.eof = false := by
  cases ends : state.eof with
  | true => exact absurd (sound.marked ends) running
  | false => rfl

theorem move (sound : state.Sound) (running : state.reader ≠ .ended)
    (outside : readerHolds state.reader = false) (reader : UdpReaderStage)
    (stays : readerHolds reader = false) : Sound { state with reader := reader } :=
  { sound with
    counted _ := sound.counted fun at_ => by simp [at_, readerHolds] at outside
    readerLock holds := by simp [stays] at holds
    marked ends := absurd (sound.marked ends) running }

theorem enqueue (sound : state.Sound) {datagram : Bytes} (at_ : state.reader = .holding datagram)
    (free : state.locked = none) :
    Sound { state.enqueue datagram with locked := some .reader, reader := .queued } := by
  have open_ : state.eof = false := sound.unmarked (by simp [at_])
  have positive : 0 < udpQueueLimit := by decide
  have grows := length_pushDropOldest positive state.packets datagram
  exact {
    queue := by
      show pushDropOldest udpQueueLimit state.packets datagram = _
      rw [sound.queue, pushDropOldest_rtake positive]
      simp [UdpQueue.enqueue]
    counted := fun elsewhere => absurd rfl elsewhere
    emptied := fun id stage found holds => by
      rw [sound.no_holder free found] at holds
      cases holds
    readerLock := fun _ => rfl
    balance := by
      have before := sound.balance
      have after : UdpQueue.handedOut { state.enqueue datagram with
          locked := some .reader, reader := .queued } = state.handedOut := by
        simp only [handedOut, UdpQueue.enqueue, drainedIn_received]
        rfl
      rw [after]
      simp only [UdpQueue.enqueue, receivedIn_received, length_append, length_singleton]
      omega
    ran := fun id => by
      simp only [UdpQueue.enqueue, drainedIn_received]
      exact sound.ran id
    took := fun id packets found => (sound.took id packets found).concat nofun
    marked := fun ends => by simp [UdpQueue.enqueue, open_] at ends
    ended := fun id packets found => by
      obtain ⟨ends, -⟩ := sound.ended id packets found
      rw [open_] at ends
      cases ends }

theorem count (sound : state.Sound) (at_ : state.reader = .queued) :
    Sound { state with pktCount := state.packets.length, reader := .counted } := by
  have open_ : state.eof = false := sound.unmarked (by simp [at_])
  exact { sound with
    counted := fun _ _ => rfl
    readerLock := fun _ => sound.readerLock (by rw [at_]; rfl)
    marked := fun ends => by simp [open_] at ends }

theorem unlock (sound : state.Sound) (at_ : state.reader = .counted) {reader : UdpReaderStage}
    (next : reader = .receiving ∨ reader = .aborted) :
    Sound { state with locked := none, reader := reader } := by
  have open_ : state.eof = false := sound.unmarked (by simp [at_])
  have holds : readerHolds state.reader = true := by rw [at_]; rfl
  exact { sound with
    counted := fun _ => sound.counted (by simp [at_])
    emptied := fun id stage found drain => by
      rw [sound.no_holder_of_reader holds found] at drain
      cases drain
    readerLock := fun still => by rcases next with rfl | rfl <;> cases still
    marked := fun ends => by simp [open_] at ends }

theorem mark (sound : state.Sound) (at_ : state.reader = .failing) :
    Sound { state with eof := true, reader := .ended } :=
  { sound with
    counted _ := sound.counted (by simp [at_])
    readerLock := nofun
    marked _ := rfl
    ended id packets found := ⟨rfl, (sound.ended id packets found).2⟩ }

theorem call (sound : state.Sound) : Sound { state with drains := state.drains ++ [.started] } := by
  have same : UdpQueue.taken { state with drains := state.drains ++ [.started] } = state.taken :=
    takenBy_concat rfl
  have old : ∀ {id : Nat} {stage : UdpDrainStage},
      (state.drains ++ [.started])[id]? = some stage → stage ≠ .started →
      state.drains[id]? = some stage := by
    intro id stage found other
    exact (getElem?_concat_eq_some found).resolve_right other
  exact { sound with
    counted := fun elsewhere none_ => sound.counted elsewhere fun id packets found =>
      none_ id packets (getElem?_append_of_some found _)
    emptied := fun id stage found holds =>
      sound.emptied id stage (old found (by rintro rfl; cases holds)) holds
    balance := by
      unfold handedOut
      rw [same]
      exact sound.balance
    ran := same ▸ sound.ran
    took := same ▸ sound.took
    ended := fun id packets found => sound.ended id packets (old found nofun) }

section Drains

variable {id : Nat} {packets : List Bytes}

theorem empty (sound : state.Sound) (at_ : state.drains[id]? = some .started)
    (free : state.locked = none) :
    Sound { state.advance id (.emptied state.packets) with
      packets := []
      locked := some (.drain id)
      history := state.history ++ [.drained id] } := by
  have fresh : id ∉ drainedIn state.history := by
    rw [sound.ran id]
    simp [taken, takenBy, at_, UdpDrainStage.taken]
  have takes : ∀ other, (state.advance id (.emptied state.packets)).taken other =
      if other = id then some state.packets else state.taken other := fun other =>
    takenBy_set at_ _ other
  exact { sound with
    queue := by simp
    counted := fun _ none_ => by
      refine absurd ?_ (none_ id state.packets)
      exact (getElem?_set_of_some at_ _ id).trans (if_pos rfl)
    emptied := fun other stage found holds => by
      rcases getElem?_set_eq_some found with ⟨rfl, -⟩ | ⟨-, was⟩
      · exact ⟨rfl, rfl⟩
      · rw [sound.no_holder free was] at holds
        cases holds
    readerLock := fun holds => by
      have held := sound.readerLock holds
      rw [free] at held
      cases held
    balance := by
      have before := sound.balance
      have handsOut : handed (drainedIn (state.history ++ [.drained id]))
          (state.advance id (.emptied state.packets)).taken =
          state.handedOut ++ state.packets := by
        rw [drainedIn_drained]
        exact handed_concat takes fresh
      show state.queueDrops + (handed (drainedIn (state.history ++ [.drained id]))
        (state.advance id (.emptied state.packets)).taken).length + 0 = _
      rw [handsOut, receivedIn_drained, length_append]
      omega
    ran := fun other => by
      show other ∈ drainedIn (state.history ++ [.drained id]) ↔
        ((state.advance id (.emptied state.packets)).taken other).isSome
      rw [drainedIn_drained]
      exact mem_concat_iff_isSome takes sound.ran other
    took := fun other packets found => by
      have holds : (state.advance id (.emptied state.packets)).taken other = some packets := found
      rw [takes] at holds
      split at holds
      · next same =>
        subst same
        cases holds
        exact ⟨state.history, [], rfl, fun early => fresh ((mem_drainedIn _).mpr early),
          not_mem_nil, sound.queue⟩
      · next differs =>
        refine (sound.took other packets holds).concat fun same => ?_
        exact differs (QueueEntry.drained.inj same).symm
    ended := fun other packets found => by
      rcases getElem?_set_eq_some found with ⟨-, other⟩ | ⟨-, was⟩
      · cases other
      · exact ⟨(sound.ended other packets was).1, rfl⟩ }

theorem further (sound : state.Sound) {before stage : UdpDrainStage}
    (at_ : state.drains[id]? = some before) (same : stage.taken = before.taken) :
    UdpQueue.handedOut (state.advance id stage) = state.handedOut ∧
      (∀ other, other ∈ drainedIn state.history ↔
        ((state.advance id stage).taken other).isSome) ∧
      ∀ other packets, (state.advance id stage).taken other = some packets →
        TookLast state.history other packets := by
  have kept : (state.advance id stage).taken = state.taken := takenBy_set_of_eq at_ same
  unfold handedOut
  rw [kept]
  exact ⟨rfl, sound.ran, sound.took⟩

theorem clear (sound : state.Sound) (at_ : state.drains[id]? = some (.emptied packets)) :
    Sound { state.advance id (.counted packets) with pktCount := 0 } := by
  obtain ⟨held, nothing⟩ := sound.emptied id _ at_ rfl
  obtain ⟨handsOut, ran, took⟩ := sound.further at_ (show (UdpDrainStage.counted packets).taken =
    (UdpDrainStage.emptied packets).taken from rfl)
  exact { sound with
    counted := fun _ _ => by
      show 0 = state.packets.length
      rw [nothing]
      rfl
    emptied := fun other stage found holds => by
      rcases getElem?_set_eq_some found with ⟨rfl, -⟩ | ⟨-, was⟩
      · exact ⟨held, nothing⟩
      · exact sound.emptied other stage was holds
    balance := by
      show state.queueDrops + (UdpQueue.handedOut (state.advance id (.counted packets))).length +
        state.packets.length = _
      rw [handsOut]
      exact sound.balance
    ran := ran
    took := took
    ended := fun other packets found => by
      rcases getElem?_set_eq_some found with ⟨-, other⟩ | ⟨-, was⟩
      · cases other
      · exact sound.ended other packets was }

theorem finish (sound : state.Sound) (at_ : state.drains[id]? = some (.counted packets)) :
    Sound { state.advance id (.finished packets state.eof) with locked := none } := by
  obtain ⟨held, nothing⟩ := sound.emptied id _ at_ rfl
  obtain ⟨handsOut, ran, took⟩ := sound.further at_
    (show (UdpDrainStage.finished packets state.eof).taken =
      (UdpDrainStage.counted packets).taken from rfl)
  have alone : ∀ {other : Nat} {stage : UdpDrainStage}, state.drains[other]? = some stage →
      other ≠ id → holdsLock stage = false := by
    intro other stage found differs
    cases holds : holdsLock stage with
    | false => rfl
    | true =>
      obtain ⟨theirs, -⟩ := sound.emptied other stage found holds
      rw [held] at theirs
      exact absurd (QueueHolder.drain.inj (some.inj theirs)).symm differs
  have outside : ¬ readerHolds state.reader = true := by
    intro holds
    have theirs := sound.readerLock holds
    rw [held] at theirs
    cases theirs
  exact { sound with
    counted := fun elsewhere _ => by
      apply sound.counted elsewhere
      intro other emptied found
      by_cases same : other = id
      · subst same
        rw [at_] at found
        cases found
      · exact Bool.noConfusion (alone found same)
    emptied := fun other stage found holds => by
      rcases getElem?_set_eq_some found with ⟨-, rfl⟩ | ⟨differs, was⟩
      · cases holds
      · rw [alone was differs] at holds
        cases holds
    readerLock := fun holds => absurd holds outside
    balance := by
      show state.queueDrops +
        (UdpQueue.handedOut (state.advance id (.finished packets state.eof))).length +
        state.packets.length = _
      rw [handsOut]
      exact sound.balance
    ran := ran
    took := took
    ended := fun other found finished => by
      rcases getElem?_set_eq_some finished with ⟨-, is⟩ | ⟨-, was⟩
      · exact ⟨(UdpDrainStage.finished.inj is).2.symm, nothing⟩
      · exact sound.ended other found was }

end Drains

variable {after : UdpQueue}

theorem readerStep (sound : state.Sound) {outcome : UdpOutcome}
    (taken : state.readerStep outcome = some after) : after.Sound := by
  unfold UdpQueue.readerStep at taken
  split at taken
  · rename_i receiving
    have moves := sound.move (by simp [receiving]) (by rw [receiving]; rfl)
    split at taken <;> cases taken
    · exact sound
    · exact moves _ rfl
    · exact moves _ rfl
  · rename_i datagram holding
    split at taken
    · cases taken
    · rename_i free
      cases taken
      exact sound.enqueue holding (by simpa using free)
  · rename_i queued
    cases taken
    exact sound.count queued
  · rename_i counted
    cases taken
    exact sound.unlock counted (.inl rfl)
  · rename_i failing
    cases taken
    exact sound.mark failing
  · cases taken
  · cases taken

theorem drainStep (sound : state.Sound) {stage : UdpDrainStage}
    (found : state.drains[id]? = some stage) (taken : state.drainStep id stage = some after) :
    after.Sound := by
  cases stage with
  | started =>
    simp only [UdpQueue.drainStep] at taken
    split at taken
    · cases taken
    · rename_i free
      cases taken
      exact sound.empty found (by simpa using free)
  | emptied packets =>
    cases taken
    exact sound.clear found
  | counted packets =>
    cases taken
    exact sound.finish found
  | finished packets eof => cases taken

theorem abort (sound : state.Sound) (taken : state.abort = some after) : after.Sound := by
  unfold UdpQueue.abort at taken
  split at taken <;> cases taken
  · rename_i receiving
    exact sound.move (by simp [receiving]) (by rw [receiving]; rfl) _ rfl
  · rename_i datagram holding
    exact sound.move (by simp [holding]) (by rw [holding]; rfl) _ rfl
  · rename_i counted
    exact sound.unlock counted (.inr rfl)

theorem step (sound : state.Sound) {event : UdpQueueEvent}
    (taken : state.step event = some after) : after.Sound := by
  cases event with
  | reader outcome => exact sound.readerStep taken
  | call =>
    cases taken
    exact sound.call
  | drain id =>
    simp only [UdpQueue.step] at taken
    split at taken
    · rename_i stage found
      exact sound.drainStep found taken
    · cases taken
  | abort => exact sound.abort taken

end Sound

theorem sound_of_reachable (reached : Reachable step (fun _ _ => True) {} state) : state.Sound :=
  reached.invariant Sound sound_start fun sound _ taken => sound.step taken

/--
A drain returns the last datagrams since the one before it, up to the limit and in order, and the
counters tell of the others; the end is reported with nothing left.
-/
theorem udp_queue_law {state : UdpQueue} (reached : Reachable step (fun _ _ => True) {} state) :
    (∀ (id : Nat) (packets : List Bytes) (eof : Bool),
      state.drains[id]? = some (.finished packets eof) →
        TookLast state.history id packets) ∧
    (state.locked = none → state.pktCount = state.packets.length) ∧
    state.queueDrops + state.handedOut.length + state.packets.length =
      (receivedIn state.history).length ∧
    (∀ (id : Nat) (packets : List Bytes), state.drains[id]? = some (.finished packets true) →
      state.reader = .ended ∧ state.packets = []) := by
  have sound := sound_of_reachable reached
  refine ⟨fun id packets eof found => ?_, sound.count_of_free, sound.balance,
    fun id packets found => ?_⟩
  · apply sound.took
    simp [taken, takenBy, found, UdpDrainStage.taken]
  · obtain ⟨ends, nothing⟩ := sound.ended id packets found
    exact ⟨sound.marked ends, nothing⟩

def twoDatagrams : List UdpQueueEvent :=
  [.reader (.datagram [1]), .reader .failed, .reader .failed, .reader .failed,
    .reader (.datagram []), .reader (.datagram [2]), .reader .failed, .reader .failed,
    .reader .failed, .reader .failed, .reader .failed, .call, .drain 0, .drain 0, .drain 0]

theorem udp_queue_law_two : ∃ state, runSteps step {} twoDatagrams = some state ∧
    state.drains = [.finished [[1], [2]] true] ∧ state.reader = .ended ∧ state.packets = [] := by
  refine ⟨_, rfl, rfl, ?_⟩
  have reached : Reachable step (fun _ _ => True) {} _ := Reachable.runSteps twoDatagrams .begin
    (permits_of_forall_mem (fun _ _ _ => trivial) _) rfl
  exact (udp_queue_law reached).2.2.2 0 [[1], [2]] rfl

end UdpQueue

end Gvpn
