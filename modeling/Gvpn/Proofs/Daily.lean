import Gvpn.Data.Slots
import Gvpn.Fronter.Daily

/-! Whether the daily counters roll over once, and count their day. -/

namespace Gvpn

def DailyStage.counts : DailyStage → Bool
  | .countingCall _ => true
  | _ => false

def DailyStage.On (day key : Nat) : DailyStage → Prop
  | .computed today _ => today = day
  | .countingCall _ | .countingBytes _ => key = day
  | .finished => True

namespace Daily

def Calm (state : Daily) : DailyEvent → Prop
  | .midnight => ∀ stage ∈ state.calls, stage = .finished
  | _ => True

structure Kept (state : Daily) : Prop where
  key_le : state.todayKey ≤ state.day
  current : ∀ stage ∈ state.calls, stage.On state.day state.todayKey
  tally : state.todayCalls + state.calls.countP DailyStage.counts =
    state.checked.count state.todayKey
  checked_le : ∀ day ∈ state.checked, day ≤ state.todayKey
  rollovers : state.rollovers.Nodup ∧ ∀ day ∈ state.rollovers, day ≤ state.todayKey

variable {state after : Daily} {event : DailyEvent}

theorem Kept.rollOver (kept : state.Kept) :
    (state.rollOver state.day).Kept ∧ (state.rollOver state.day).todayKey = state.day ∧
      (state.rollOver state.day).day = state.day ∧
      (state.rollOver state.day).calls = state.calls ∧
      (state.rollOver state.day).checked = state.checked := by
  unfold Daily.rollOver
  split
  · rename_i other
    have older : state.todayKey < state.day := Nat.lt_of_le_of_ne kept.key_le other
    have idle : state.calls.countP DailyStage.counts = 0 := by
      apply List.countP_eq_zero.mpr
      intro stage member counts
      have on := kept.current stage member
      cases stage with
      | countingCall bytes => exact other on
      | _ => cases counts
    have unchecked : state.checked.count state.day = 0 := by
      apply List.count_eq_zero.mpr
      intro member
      exact absurd (kept.checked_le _ member) (Nat.not_le.mpr older)
    refine ⟨⟨Nat.le_refl _, ?_, ?_, ?_, ?_, ?_⟩, rfl, rfl, rfl, rfl⟩
    · intro stage member
      have on := kept.current stage member
      cases stage with
      | countingCall | countingBytes => rfl
      | _ => exact on
    · show 0 + state.calls.countP _ = state.checked.count state.day
      rw [idle, unchecked]
    · exact fun day member => Nat.le_trans (kept.checked_le day member) kept.key_le
    · rw [List.nodup_append]
      refine ⟨kept.rollovers.1, by simp, ?_⟩
      intro day member new here same
      have earlier := kept.rollovers.2 day member
      rw [List.mem_singleton] at here
      omega
    · intro day member
      rcases List.mem_append.mp member with before | new
      · exact Nat.le_trans (kept.rollovers.2 day before) kept.key_le
      · exact Nat.le_of_eq (List.mem_singleton.mp new)
  · rename_i same
    exact ⟨kept, not_not.mp same, rfl, rfl, rfl⟩

theorem Kept.move (kept : state.Kept) {id : Nat} {old : DailyStage} {todayCalls : Nat}
    {checked : List Nat} (found : state.calls[id]? = some old) (new : DailyStage) (todayBytes : Nat)
    (on : new.On state.day state.todayKey) (checked_le : ∀ day ∈ checked, day ≤ state.todayKey)
    (sum : todayCalls + (if new.counts then 1 else 0) + state.checked.count state.todayKey =
      state.todayCalls + (if old.counts then 1 else 0) + checked.count state.todayKey) :
    Kept { state with todayCalls, todayBytes, checked, calls := state.calls.set id new } where
  key_le := kept.key_le
  current stage member := by
    rcases List.mem_or_eq_of_mem_set member with before | rfl
    · exact kept.current stage before
    · exact on
  tally := by
    have counts := countP_set_of_getElem? found DailyStage.counts new
    have tally := kept.tally
    dsimp only
    omega
  checked_le := checked_le
  rollovers := kept.rollovers

theorem Kept.advance (kept : state.Kept) {id : Nat}
    (taken : state.step (.advance id) = some after) :
    after.Kept ∧ state.todayKey ≤ after.todayKey := by
  obtain ⟨rolled, key, day, calls, checked⟩ := kept.rollOver
  simp only [step] at taken
  split at taken
  · rename_i today found
    obtain rfl : today = state.day := kept.current _ (List.mem_of_getElem? found)
    cases taken
    have here : (state.rollOver state.day).calls[id]? = some (.computed state.day none) := by
      rw [calls, found]
    have moved := rolled.move here .finished (state.rollOver state.day).todayBytes trivial rolled.checked_le rfl
    rw [calls] at moved
    exact ⟨moved, Nat.le_trans kept.key_le (Nat.le_of_eq key.symm)⟩
  · rename_i today bytes found
    obtain rfl : today = state.day := kept.current _ (List.mem_of_getElem? found)
    cases taken
    have here : (state.rollOver state.day).calls[id]? = some (.computed state.day (some bytes)) := by
      rw [calls, found]
    have listed : ∀ day ∈ state.checked ++ [state.day], day ≤ (state.rollOver state.day).todayKey := by
      intro other member
      rw [key]
      rcases List.mem_append.mp member with before | new
      · exact Nat.le_trans (kept.checked_le other before) kept.key_le
      · exact Nat.le_of_eq (List.mem_singleton.mp new)
    have moved := rolled.move here (.countingCall bytes) (state.rollOver state.day).todayBytes
      (key.trans day.symm) listed
      (by rw [checked, key, List.count_append, List.count_singleton_self]; exact Nat.add_right_comm _ _ _)
    rw [calls] at moved
    exact ⟨moved, Nat.le_trans kept.key_le (Nat.le_of_eq key.symm)⟩
  · rename_i bytes found
    cases taken
    have on := kept.current _ (List.mem_of_getElem? found)
    exact ⟨kept.move found (.countingBytes bytes) _ on kept.checked_le rfl, Nat.le_refl _⟩
  · rename_i bytes found
    cases taken
    exact ⟨kept.move found .finished _ trivial kept.checked_le rfl, Nat.le_refl _⟩
  · cases taken
  · cases taken

theorem Kept.step (kept : state.Kept) (calm : state.Calm event)
    (taken : state.step event = some after) :
    after.Kept ∧ state.todayKey ≤ after.todayKey := by
  cases event with
  | midnight =>
    cases taken
    refine ⟨{ kept with key_le := Nat.le_succ_of_le kept.key_le, current := ?_ }, Nat.le_refl _⟩
    intro stage member
    rw [calm stage member]
    trivial
  | enter bytes =>
    cases taken
    refine ⟨{ kept with current := ?_, tally := ?_ }, Nat.le_refl _⟩
    · intro stage member
      rcases List.mem_append.mp member with before | new
      · exact kept.current stage before
      · rw [List.mem_singleton.mp new]
        rfl
    · simpa [DailyStage.counts] using kept.tally
  | advance id => exact kept.advance taken

end Daily

/--
As long as no day begins while a call is under way, the key never goes back, the counters are rolled
over at most once to each day, and with no call under way they count the calls of the day of the key.
-/
theorem daily_counters_roll_once {day : Nat} {state : Daily}
    (reached : Reachable Daily.step Daily.Calm (.start day) state) :
    (∀ event after, state.Calm event → state.step event = some after →
      state.todayKey ≤ after.todayKey) ∧ state.rollovers.Nodup ∧
      ((∀ stage ∈ state.calls, stage = .finished) →
        state.todayCalls = state.checked.count state.todayKey) := by
  have initially : (Daily.start day).Kept := ⟨Nat.le_refl _, by simp [Daily.start], rfl,
    by simp [Daily.start], List.nodup_nil, by simp [Daily.start]⟩
  have kept := reached.invariant Daily.Kept initially fun kept calm taken => (kept.step calm taken).1
  refine ⟨fun event after calm taken => (kept.step calm taken).2, kept.rollovers.1, ?_⟩
  intro rests
  rw [← kept.tally, List.countP_eq_zero.mpr]
  · rfl
  · intro stage member
    rw [rests stage member]
    exact Bool.false_ne_true

def callsOfTwoDays : List DailyEvent :=
  [.enter (some 10), .advance 0, .advance 0, .advance 0, .midnight, .enter (some 20), .advance 1,
    .advance 1, .advance 1]

theorem daily_counters_roll_once_twoDays :
    ∃ state, runSteps Daily.step (.start 0) callsOfTwoDays = some state ∧ state.todayKey = 1 ∧
      state.todayCalls = state.checked.count state.todayKey := by
  have permitted : Permits Daily.step Daily.Calm (.start 0) callsOfTwoDays := by
    simp [callsOfTwoDays, Permits, Daily.step, Daily.start, Daily.Calm, Daily.rollOver]
  have reached := Reachable.runSteps _ .begin permitted rfl
  exact ⟨_, rfl, rfl, (daily_counters_roll_once reached).2.2 (by decide)⟩

def callAcrossMidnight : List DailyEvent :=
  [.enter (some 10), .midnight, .enter (some 20), .advance 1, .advance 1, .advance 1, .advance 0,
    .advance 0, .advance 0, .enter (some 30), .advance 2, .advance 2, .advance 2]

theorem key_goes_back_across_midnight :
    (runSteps Daily.step (.start 0) callAcrossMidnight).map (fun state =>
      (state.calls, state.rollovers, state.todayKey, state.todayCalls, state.checked)) =
      some ([.finished, .finished, .finished], [1, 0, 1], 1, 1, [1, 1, 1]) := by
  decide

end Gvpn
