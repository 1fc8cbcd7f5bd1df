import Gvpn.Data.Ring

/-! How the multiplexer's waiting times follow its round trips. -/

namespace Gvpn

inductive CoalescePreset where
  | fast
  | slow
  deriving DecidableEq

def coalesceFastStepMs : Nat := 50

def coalesceFastMaxMs : Nat := 300

def coalesceSlowStepMs : Nat := 150

def coalesceSlowMaxMs : Nat := 600

def rttSlowThresholdMs : Nat := 1200

def rttFastThresholdMs : Nat := 700

def hysteresisFastCount : Nat := 3

def rttWindow : Nat := 8

def CoalescePreset.times : CoalescePreset → Nat × Nat
  | .slow => (coalesceSlowStepMs, coalesceSlowMaxMs)
  | .fast => (coalesceFastStepMs, coalesceFastMaxMs)

structure PresetState where
  currentPreset : CoalescePreset
  -- Medians in a row that were fast under the slow preset.
  consecutiveFast : Nat
  coalesceStepMs : Nat
  coalesceMaxMs : Nat

namespace PresetState

def applyPreset (preset : CoalescePreset) : PresetState where
  currentPreset := preset
  coalesceStepMs := preset.times.1
  coalesceMaxMs := preset.times.2
  consecutiveFast := 0

def evaluate (state : PresetState) (median : Nat) : PresetState :=
  match state.currentPreset with
  | .slow =>
    if median < rttFastThresholdMs then
      if hysteresisFastCount ≤ state.consecutiveFast + 1 then applyPreset .fast
      else { state with consecutiveFast := state.consecutiveFast + 1 }
    else { state with consecutiveFast := 0 }
  | .fast => if rttSlowThresholdMs < median then applyPreset .slow else state

end PresetState

structure RttTracker extends PresetState where
  samples : Vector Nat rttWindow
  head : Nat
  filled : Nat

def rttMillis (rtt : Nat) : Nat := rtt / 1000000 % 2 ^ 64

namespace RttTracker

def new (startSlow : Bool) (stepMs maxMs : Nat) : RttTracker where
  currentPreset := if startSlow then .slow else .fast
  consecutiveFast := 0
  coalesceStepMs := stepMs
  coalesceMaxMs := maxMs
  samples := Vector.replicate rttWindow 0
  head := 0
  filled := 0

def record (tracker : RttTracker) (rtt : Nat) : RttTracker :=
  let slot := tracker.head % rttWindow
  let samples := tracker.samples.set slot (rttMillis rtt) (Nat.mod_lt _ (by decide))
  -- The counter of slots wraps like a machine word.
  let head := (tracker.head + 1) % 2 ^ 64
  if tracker.filled < rttWindow then
    { tracker with samples, head, filled := tracker.filled + 1 }
  else
    { tracker.toPresetState.evaluate (upperMedian samples.toList) with
      samples, head, filled := tracker.filled }

def afterCalls (start : RttTracker) (rtts : Nat → Nat) : Nat → RttTracker
  | 0 => start
  | count + 1 => (afterCalls start rtts count).record (rtts count)

end RttTracker

end Gvpn
