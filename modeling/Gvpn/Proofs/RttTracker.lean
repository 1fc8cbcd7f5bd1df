import Gvpn.TunnelClient.RttTracker

/-! When the multiplexer goes over from one preset to the other. -/

namespace Gvpn

namespace PresetState

def Published (state : PresetState) : Prop :=
  (state.coalesceStepMs, state.coalesceMaxMs) = state.currentPreset.times

inductive Change (state : PresetState) (median : Nat) : PresetState → Prop where
  | stays (fast : state.currentPreset = .fast) (low : median ≤ rttSlowThresholdMs) :
      Change state median state
  | slows (fast : state.currentPreset = .fast) (high : rttSlowThresholdMs < median) :
      Change state median (applyPreset .slow)
  | breaks (slow : state.currentPreset = .slow) (high : rttFastThresholdMs ≤ median) :
      Change state median { state with consecutiveFast := 0 }
  | counts (slow : state.currentPreset = .slow) (low : median < rttFastThresholdMs)
      (few : state.consecutiveFast + 1 < hysteresisFastCount) :
      Change state median { state with consecutiveFast := state.consecutiveFast + 1 }
  | speeds (slow : state.currentPreset = .slow) (low : median < rttFastThresholdMs)
      (many : hysteresisFastCount ≤ state.consecutiveFast + 1) :
      Change state median (applyPreset .fast)

theorem change_evaluate (state : PresetState) (median : Nat) :
    Change state median (state.evaluate median) := by
  unfold evaluate
  cases preset : state.currentPreset with
  | fast =>
    rcases Nat.lt_or_ge rttSlowThresholdMs median with high | low
    · rw [if_pos high]
      exact .slows preset high
    · rw [if_neg (Nat.not_lt.mpr low)]
      exact .stays preset low
  | slow =>
    simp only
    rcases Nat.lt_or_ge median rttFastThresholdMs with low | high
    · rw [if_pos low]
      rcases Nat.lt_or_ge (state.consecutiveFast + 1) hysteresisFastCount with few | many
      · rw [if_neg (Nat.not_le.mpr few), ← preset]
        exact .counts preset low few
      · rw [if_pos many]
        exact .speeds preset low many
    · rw [if_neg (Nat.not_lt.mpr high), ← preset]
      exact .breaks preset high

variable {state after_ : PresetState} {median : Nat}

theorem Change.published (change : Change state median after_) (published : state.Published) :
    after_.Published := by
  cases change with
  | stays | breaks | counts => exact published
  | slows | speeds => rfl

theorem Change.published_of_ne (change : Change state median after_)
    (switched : after_.currentPreset ≠ state.currentPreset) : after_.Published := by
  cases change with
  | stays | breaks | counts => exact absurd rfl switched
  | slows | speeds => rfl

theorem Change.consecutiveFast_lt (change : Change state median after_)
    (below : state.consecutiveFast < hysteresisFastCount) :
    after_.consecutiveFast < hysteresisFastCount := by
  cases change with
  | stays => exact below
  | counts _ _ few => exact few
  | slows | speeds | breaks => exact Nat.zero_lt_succ _

theorem Change.slowed (change : Change state median after_) (fast : state.currentPreset = .fast)
    (slow : after_.currentPreset = .slow) :
    rttSlowThresholdMs < median ∧ after_.consecutiveFast = 0 := by
  cases change with
  | slows _ high => exact ⟨high, rfl⟩
  | stays => exact absurd (fast.symm.trans slow) (by decide)
  | breaks before | counts before | speeds before =>
    exact absurd (fast.symm.trans before) (by decide)

theorem Change.reset (change : Change state median after_) (slow : state.currentPreset = .slow)
    (high : rttFastThresholdMs ≤ median) :
    after_.currentPreset = .slow ∧ after_.consecutiveFast = 0 := by
  cases change with
  | breaks => exact ⟨slow, rfl⟩
  | counts _ low | speeds _ low => omega
  | stays fast | slows fast => exact absurd (slow.symm.trans fast) (by decide)

theorem Change.counted (change : Change state median after_) (slow : state.currentPreset = .slow)
    (low : median < rttFastThresholdMs) :
    (after_.currentPreset = .fast ∧ hysteresisFastCount ≤ state.consecutiveFast + 1) ∨
      (after_.currentPreset = .slow ∧ after_.consecutiveFast = state.consecutiveFast + 1 ∧
        state.consecutiveFast + 1 < hysteresisFastCount) := by
  cases change with
  | speeds _ _ many => exact .inl ⟨rfl, many⟩
  | counts _ _ few => exact .inr ⟨slow, rfl, few⟩
  | breaks _ high => omega
  | stays fast | slows fast => exact absurd (slow.symm.trans fast) (by decide)

end PresetState

namespace RttTracker

def medianAfter (rtts : Nat → Nat) (count : Nat) : Nat :=
  upperMedian (lastValues (fun turn => rttMillis (rtts turn)) rttWindow count)

structure Tracks (tracker : RttTracker) (rtts : Nat → Nat) (count : Nat) : Prop where
  holds : RingHolds tracker.samples (fun turn => rttMillis (rtts turn)) count
  head : tracker.head = count % 2 ^ 64
  filled : tracker.filled = min count rttWindow

theorem Tracks.start (startSlow : Bool) (stepMs maxMs : Nat) (rtts : Nat → Nat) :
    Tracks (new startSlow stepMs maxMs) rtts 0 :=
  ⟨RingHolds.start _ _, rfl, rfl⟩

variable {tracker : RttTracker} {rtts : Nat → Nat} {count : Nat}

theorem Tracks.write (tracks : Tracks tracker rtts count) :
    RingHolds
      (tracker.samples.set (tracker.head % rttWindow) (rttMillis (rtts count))
        (Nat.mod_lt _ (by decide)))
      (fun turn => rttMillis (rtts turn)) (count + 1) := by
  apply tracks.holds.write
  rw [tracks.head]
  exact Nat.mod_mod_of_dvd count (by decide)

theorem Tracks.record (tracks : Tracks tracker rtts count) :
    Tracks (tracker.record (rtts count)) rtts (count + 1) := by
  have next : (tracker.head + 1) % 2 ^ 64 = (count + 1) % 2 ^ 64 := by
    rw [tracks.head, Nat.mod_add_mod]
  have filled := tracks.filled
  unfold RttTracker.record
  by_cases filling : tracker.filled < rttWindow
  · rw [if_pos filling]
    refine ⟨tracks.write, next, ?_⟩
    show tracker.filled + 1 = min (count + 1) rttWindow
    omega
  · rw [if_neg filling]
    refine ⟨tracks.write, next, ?_⟩
    show tracker.filled = min (count + 1) rttWindow
    omega

theorem Tracks.change (tracks : Tracks tracker rtts count) :
    (count < rttWindow ∧
        (tracker.record (rtts count)).toPresetState = tracker.toPresetState) ∨
      (rttWindow ≤ count ∧ PresetState.Change tracker.toPresetState (medianAfter rtts (count + 1))
        (tracker.record (rtts count)).toPresetState) := by
  have filled := tracks.filled
  unfold RttTracker.record
  by_cases filling : tracker.filled < rttWindow
  · rw [if_pos filling]
    exact .inl ⟨by omega, rfl⟩
  · rw [if_neg filling]
    have full : rttWindow ≤ count := by omega
    have median := upperMedian_perm (tracks.write.perm (Nat.le_succ_of_le full))
    refine .inr ⟨full, ?_⟩
    rw [medianAfter, ← median]
    exact PresetState.change_evaluate _ _

theorem tracks_afterCalls {start : RttTracker} (tracks : Tracks start rtts 0)
    (count : Nat) : Tracks (start.afterCalls rtts count) rtts count := by
  induction count with
  | zero => exact tracks
  | succ count ih => exact ih.record

structure CalmSince (start : RttTracker) (rtts : Nat → Nat) (since count : Nat) : Prop where
  within : since ≤ count
  slow : ∀ call ≤ count, since ≤ call → (start.afterCalls rtts call).currentPreset = .slow
  low : ∀ call ≤ count, since < call → rttWindow < call →
    medianAfter rtts call < rttFastThresholdMs
  begins : since = 0 ∨ (start.afterCalls rtts (since - 1)).currentPreset = .fast ∨
    (rttWindow < since ∧ rttFastThresholdMs ≤ medianAfter rtts since)

section Run

variable {start : RttTracker} {rtts : Nat → Nat}

variable {count : Nat}

theorem exists_calmSince (slow : (start.afterCalls rtts count).currentPreset = .slow) :
    ∃ since, CalmSince start rtts since count := by
  induction count with
  | zero =>
    refine ⟨0, Nat.le_refl _, ?_, ?_, .inl rfl⟩
    · intro call upper _
      rw [Nat.le_zero.mp upper]
      exact slow
    · intro call upper lower
      omega
  | succ count ih =>
    have latest : ∀ begins, CalmSince start rtts (count + 1) (count + 1) := fun begins =>
      { within := Nat.le_refl _
        slow := fun call upper lower => Nat.le_antisymm upper lower ▸ slow
        low := fun call upper lower => absurd lower (Nat.not_lt.mpr upper)
        begins := begins }
    cases before : (start.afterCalls rtts count).currentPreset with
    | fast => exact ⟨count + 1, latest (.inr (.inl before))⟩
    | slow =>
      by_cases high : rttWindow < count + 1 ∧ rttFastThresholdMs ≤ medianAfter rtts (count + 1)
      · exact ⟨count + 1, latest (.inr (.inr high))⟩
      · obtain ⟨since, calm⟩ := ih before
        refine ⟨since, Nat.le_succ_of_le calm.within, ?_, ?_, calm.begins⟩
        · intro call upper lower
          rcases Nat.le_succ_iff.mp upper with earlier | rfl
          · exact calm.slow call earlier lower
          · exact slow
        · intro call upper lower evaluated
          rcases Nat.le_succ_iff.mp upper with earlier | rfl
          · exact calm.low call earlier lower evaluated
          · exact Nat.not_le.mp fun not_low => high ⟨evaluated, not_low⟩

variable {since : Nat}

theorem CalmSince.earlier (calm : CalmSince start rtts since (count + 1))
    (within : since ≤ count) : CalmSince start rtts since count where
  within := within
  slow call upper := calm.slow call (Nat.le_succ_of_le upper)
  low call upper := calm.low call (Nat.le_succ_of_le upper)
  begins := calm.begins

variable (tracks : Tracks start rtts 0)
include tracks

theorem change_afterCalls (count : Nat) :
    (count < rttWindow ∧
        (start.afterCalls rtts (count + 1)).toPresetState =
          (start.afterCalls rtts count).toPresetState) ∨
      (rttWindow ≤ count ∧ PresetState.Change (start.afterCalls rtts count).toPresetState
        (medianAfter rtts (count + 1)) (start.afterCalls rtts (count + 1)).toPresetState) :=
  (tracks_afterCalls tracks count).change

theorem published_of_switched {call : Nat} (earlier : call < count)
    (switched : (start.afterCalls rtts (call + 1)).currentPreset ≠
      (start.afterCalls rtts call).currentPreset) :
    (start.afterCalls rtts count).Published := by
  induction count, earlier using Nat.le_induction with
  | base =>
    rcases change_afterCalls tracks call with ⟨-, same⟩ | ⟨-, change⟩
    · exact absurd (congrArg PresetState.currentPreset same) switched
    · exact change.published_of_ne switched
  | succ count _ ih =>
    rcases change_afterCalls tracks count with ⟨-, same⟩ | ⟨-, change⟩
    · rw [same]
      exact ih
    · exact change.published ih

theorem median_of_slowed (fast : (start.afterCalls rtts count).currentPreset = .fast)
    (slow : (start.afterCalls rtts (count + 1)).currentPreset = .slow) :
    rttWindow ≤ count ∧ rttSlowThresholdMs < medianAfter rtts (count + 1) ∧
      (start.afterCalls rtts (count + 1)).consecutiveFast = 0 := by
  rcases change_afterCalls tracks count with ⟨-, same⟩ | ⟨full, change⟩
  · rw [same, fast] at slow
    exact nomatch slow
  · exact ⟨full, change.slowed fast slow⟩

theorem consecutiveFast_lt (count : Nat) (zero : start.consecutiveFast = 0) :
    (start.afterCalls rtts count).consecutiveFast < hysteresisFastCount := by
  induction count with
  | zero =>
    show start.consecutiveFast < hysteresisFastCount
    rw [zero]
    decide
  | succ count ih =>
    rcases change_afterCalls tracks count with ⟨-, same⟩ | ⟨-, change⟩
    · rw [same]
      exact ih
    · exact change.consecutiveFast_lt ih

theorem consecutiveFast_of_calmSince (zero : start.consecutiveFast = 0)
    (calm : CalmSince start rtts since count) :
    (start.afterCalls rtts count).consecutiveFast = count - max since rttWindow := by
  induction count with
  | zero =>
    rw [Nat.zero_sub]
    exact zero
  | succ count ih =>
    have slow := calm.slow (count + 1) (Nat.le_refl _) calm.within
    rcases Nat.lt_or_ge count since with began | within
    · -- The calm begins with this call, which starts the count again.
      obtain rfl : since = count + 1 := Nat.le_antisymm calm.within began
      have none_ : count + 1 - max (count + 1) rttWindow = 0 := by omega
      rw [none_]
      cases before : (start.afterCalls rtts count).currentPreset with
      | fast => exact (median_of_slowed tracks before slow).2.2
      | slow =>
        rcases calm.begins with never | fast | ⟨evaluated, high⟩
        · exact absurd never (Nat.succ_ne_zero _)
        · exact absurd (before.symm.trans fast) (by decide)
        · rcases change_afterCalls tracks count with ⟨filling, -⟩ | ⟨-, change⟩
          · omega
          · exact (change.reset before high).2
    · have counted := ih (calm.earlier within)
      have before := calm.slow count (Nat.le_succ count) within
      rcases change_afterCalls tracks count with ⟨filling, same⟩ | ⟨full, change⟩
      · -- While the ring is filled there is nothing to count.
        rw [same, counted]
        omega
      · have low := calm.low (count + 1) (Nat.le_refl _) (by omega) (by omega)
        rcases change.counted before low with ⟨fast, -⟩ | ⟨-, more, -⟩
        · exact absurd (slow.symm.trans fast) (by decide)
        · omega

theorem fast_iff_of_calmSince (zero : start.consecutiveFast = 0)
    (calm : CalmSince start rtts since count) :
    (start.afterCalls rtts (count + 1)).currentPreset = .fast ↔
      rttWindow ≤ count ∧ medianAfter rtts (count + 1) < rttFastThresholdMs ∧
        count + 1 - max since rttWindow = hysteresisFastCount := by
  have before := calm.slow count (Nat.le_refl _) calm.within
  have counted := consecutiveFast_of_calmSince tracks zero calm
  have below := consecutiveFast_lt tracks count zero
  have within := calm.within
  rcases change_afterCalls tracks count with ⟨filling, same⟩ | ⟨full, change⟩
  · -- No median is looked at while the ring is filled.
    rw [same, before]
    exact ⟨nofun, fun evaluated => absurd evaluated.1 (Nat.not_le.mpr filling)⟩
  · rcases Nat.lt_or_ge (medianAfter rtts (count + 1)) rttFastThresholdMs with low | high
    · rcases change.counted before low with ⟨fast, many⟩ | ⟨slow, -, few⟩
      · exact ⟨fun _ => ⟨full, low, by omega⟩, fun _ => fast⟩
      · rw [slow]
        exact ⟨nofun, fun third => by omega⟩
    · rw [(change.reset before high).1]
      exact ⟨nofun, fun evaluated => absurd evaluated.2.1 (Nat.not_lt.mpr high)⟩

end Run

/--
Step and limit are those of the preset; it gets slow only at a median of 8 samples above 1200, and
fast exactly at the third median in a row below 700.
-/
theorem preset_hysteresis (startSlow : Bool) (stepMs maxMs : Nat) (rtts : Nat → Nat) (count : Nat) :
    ((∃ call < count,
        ((new startSlow stepMs maxMs).afterCalls rtts (call + 1)).currentPreset ≠
          ((new startSlow stepMs maxMs).afterCalls rtts call).currentPreset) →
      (((new startSlow stepMs maxMs).afterCalls rtts count).coalesceStepMs,
        ((new startSlow stepMs maxMs).afterCalls rtts count).coalesceMaxMs) =
        ((new startSlow stepMs maxMs).afterCalls rtts count).currentPreset.times) ∧
    (((new startSlow stepMs maxMs).afterCalls rtts count).currentPreset = .fast →
      ((new startSlow stepMs maxMs).afterCalls rtts (count + 1)).currentPreset = .slow →
      8 ≤ count ∧ 1200 < medianAfter rtts (count + 1)) ∧
    (((new startSlow stepMs maxMs).afterCalls rtts count).currentPreset = .slow →
      (∃ since, CalmSince (new startSlow stepMs maxMs) rtts since count) ∧
      ∀ since, CalmSince (new startSlow stepMs maxMs) rtts since count →
        (((new startSlow stepMs maxMs).afterCalls rtts (count + 1)).currentPreset = .fast ↔
          8 ≤ count ∧ medianAfter rtts (count + 1) < 700 ∧ count + 1 - max since 8 = 3)) := by
  have tracks := Tracks.start startSlow stepMs maxMs rtts
  refine ⟨?_, ?_, ?_⟩
  · rintro ⟨call, earlier, switched⟩
    exact published_of_switched tracks earlier switched
  · intro fast slow
    obtain ⟨full, high, -⟩ := median_of_slowed tracks fast slow
    exact ⟨full, high⟩
  · intro slow
    exact ⟨exists_calmSince slow, fun since calm => fast_iff_of_calmSince tracks rfl calm⟩

def easingRtts (call : Nat) : Nat := if call < 9 then 1300000000 else 100000000

theorem preset_hysteresis_easing :
    1200 < medianAfter easingRtts 9 ∧
      ((new false 200 1000).afterCalls easingRtts 16).currentPreset = .fast ∧
      ((new false 200 1000).afterCalls easingRtts 16).coalesceStepMs = 50 := by
  have calm : CalmSince (new false 200 1000) easingRtts 13 15 :=
    ⟨by decide, by decide +kernel, by decide +kernel, by decide +kernel⟩
  have slows : ((new false 200 1000).afterCalls easingRtts 8).currentPreset = .fast ∧
      ((new false 200 1000).afterCalls easingRtts 9).currentPreset = .slow := by decide +kernel
  have high := (preset_hysteresis false 200 1000 easingRtts 8).2.1 slows.1 slows.2
  have law := (preset_hysteresis false 200 1000 easingRtts 15).2.2 (by decide +kernel)
  have fast := (law.2 13 calm).mpr (by decide +kernel)
  have published := (preset_hysteresis false 200 1000 easingRtts 16).1
    ⟨8, by decide, by rw [slows.1, slows.2]; decide⟩
  exact ⟨high.2, fast, congrArg Prod.fst published⟩

end RttTracker

end Gvpn
