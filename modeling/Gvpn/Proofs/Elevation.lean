import Gvpn.Data.Slots
import Gvpn.Proofs.Permits
import Gvpn.Proofs.Rise
import Gvpn.TunnelClient.Elevation

/-! Permits come back unless a write fails, and are capped unless two look. -/

namespace Gvpn

namespace MuxSessions

open TunnelLoop

variable {maxElevated : Nat} {state : MuxSessions}

variable {after : MuxSessions} {event : MuxEvent}

theorem step_loop {id : Nat} {event : LoopEvent}
    (steps : state.step maxElevated (.loop id event) = some after) :
    ∃ loop behind permit, state.loops[id]? = some loop ∧
      loop.step maxElevated state.elevatedSessions event = some (behind, permit) ∧
      after = ⟨permit.apply state.elevatedSessions, state.loops.set id behind⟩ := by
  unfold step at steps
  cases found : state.loops[id]? with
  | none => simp [found] at steps
  | some loop =>
    simp only [found] at steps
    obtain ⟨⟨behind, permit⟩, stepped, rfl⟩ := Option.map_eq_some_iff.mp steps
    exact ⟨loop, behind, permit, rfl, stepped, rfl⟩

structure Counted (state : MuxSessions) : Prop where
  unraised : ∀ loop ∈ state.loops, loop.Unraised
  counted : state.elevatedSessions = state.loops.countP keepsPermit

theorem Counted.covered (counted : state.Counted) {id : Nat}
    {loop : TunnelLoop} (found : state.loops[id]? = some loop) (keeps : loop.keepsPermit) :
    0 < state.elevatedSessions := by
  rw [counted.counted]
  exact List.countP_pos_iff.mpr ⟨loop, List.mem_of_getElem? found, keeps⟩

theorem Counted.step (counted : state.Counted) (steps : state.step maxElevated event = some after) :
    after.Counted := by
  cases event with
  | start sid pendingClientData =>
    cases steps
    obtain ⟨top, without⟩ := start_fields sid pendingClientData
    constructor
    · intro loop member
      rcases List.mem_append.mp member with old | new
      · exact counted.unraised loop old
      · obtain rfl := List.mem_singleton.mp new
        exact fun _ => without
    · simpa [keepsPermit, without] using counted.counted
  | loop id event =>
    obtain ⟨loop, behind, permit, found, stepped, rfl⟩ := step_loop steps
    have effect := effect_of_step stepped
    have unraised := counted.unraised loop (List.mem_of_getElem? found)
    constructor
    · intro other member
      rcases List.mem_or_eq_of_mem_set member with old | rfl
      · exact counted.unraised other old
      · exact effect.unraised unraised
    · -- One loop changes, and the number of permits changes with it.
      have moved := countP_set_of_getElem? found keepsPermit behind
      have applied := effect.apply_add unraised (counted.covered found)
      have same := counted.counted
      show permit.apply state.elevatedSessions = (state.loops.set id behind).countP keepsPermit
      omega

theorem counted_start : ({} : MuxSessions).Counted := ⟨by simp, rfl⟩

theorem counted_of_reachable {allowed : MuxSessions → MuxEvent → Prop}
    (reachable : Reachable (step maxElevated) allowed {} state) :
    state.Counted :=
  reachable.invariant Counted counted_start fun counted _ steps => counted.step steps

def WritesThrough (state : MuxSessions) : MuxEvent → Prop
  | .start _ _ => True
  | .loop id event =>
    event.fails = true → ∀ loop, state.loops[id]? = some loop → loop.isElevated = false

def NoneLost (state : MuxSessions) : Prop :=
  ∀ loop ∈ state.loops, loop.stage = .returned → loop.isElevated = false

theorem NoneLost.step (noneLost : state.NoneLost) (through : WritesThrough state event)
    (steps : state.step maxElevated event = some after) : after.NoneLost := by
  cases event with
  | start sid pendingClientData =>
    cases steps
    intro loop member returned
    rcases List.mem_append.mp member with old | new
    · exact noneLost loop old returned
    · obtain rfl := List.mem_singleton.mp new
      exact (start_fields sid pendingClientData).2
  | loop id event =>
    obtain ⟨loop, behind, permit, found, stepped, rfl⟩ := step_loop steps
    have effect := effect_of_step stepped
    intro other member returned
    rcases List.mem_or_eq_of_mem_set member with old | rfl
    · exact noneLost other old returned
    · cases effect with
      | fails top same _ fails => exact same.trans (through fails loop found)
      | steady top same stage => rcases stage with stage | stage <;> simp [stage] at returned
      | rises top same without => exact same.trans without
      | lowers top elevated without => exact without
      | loadFree loading same free adding => simp [adding] at returned
      | loadFull loading same full stays => simp [stays] at returned
      | add adding elevated stays => simp [stays] at returned
      | leave leaving same ended => simp [ended] at returned

theorem countP_keepsPermit (loops : List TunnelLoop) :
    loops.countP keepsPermit =
      (loops.countP fun loop => loop.live && loop.isElevated) +
        loops.countP fun loop => loop.stage = .returned && loop.isElevated := by
  induction loops with
  | nil => rfl
  | cons loop rest ih =>
    have first : (if loop.keepsPermit then 1 else 0) =
        (if loop.live && loop.isElevated then 1 else 0) +
          (if loop.stage = .returned && loop.isElevated then 1 else 0) := by
      unfold keepsPermit live
      cases loop.isElevated <;> cases loop.stage <;> rfl
    simp only [List.countP_cons]
    omega

theorem Counted.balanced_iff (counted : state.Counted) :
    state.Balanced ↔ state.NoneLost := by
  have lost : state.NoneLost ↔
      (state.loops.countP fun loop => loop.stage = .returned && loop.isElevated) = 0 := by
    simp [NoneLost, List.countP_eq_zero]
  have split := countP_keepsPermit state.loops
  have same := counted.counted
  rw [lost, Balanced]
  omega

theorem not_noneLost_of_fails (fails : ¬ WritesThrough state event)
    (steps : state.step maxElevated event = some after) : ¬ after.NoneLost := by
  cases event with
  | start => exact absurd trivial fails
  | loop id event =>
    obtain ⟨loop, behind, permit, found, stepped, rfl⟩ := step_loop steps
    have effect := effect_of_step stepped
    simp only [WritesThrough, not_forall] at fails
    obtain ⟨failing, other, same, elevated⟩ := fails
    obtain rfl := Option.some.inj (found.symm.trans same)
    have elevated := Bool.not_eq_false _ ▸ elevated
    cases effect with
    | fails top same returned =>
      intro noneLost
      have member : behind ∈ state.loops.set id behind :=
        List.mem_set (List.getElem?_eq_some_iff.mp found).1 behind
      have without := same.symm.trans (noneLost behind member returned)
      contradiction
    | steady _ _ _ through | rises _ _ _ _ through | lowers _ _ _ _ through =>
      rw [failing] at through
      contradiction
    | loadFree _ _ _ _ load | loadFull _ _ _ _ load =>
      subst load
      contradiction
    | add _ _ _ add =>
      subst add
      contradiction
    | leave _ _ _ leave =>
      subst leave
      contradiction

section Rise

variable {maxElevated taken : Nat} {allowed : MuxSessions → MuxEvent → Prop}
  {first : MuxSessions} {before : List TunnelLoop}

theorem reachable_last {loop after : TunnelLoop} {event : LoopEvent} {permit : Permit}
    (reached : Reachable (step maxElevated) allowed first ⟨taken, before ++ [loop]⟩)
    (permitted : allowed ⟨taken, before ++ [loop]⟩ (.loop before.length event))
    (steps : loop.step maxElevated taken event = some (after, permit)) :
    Reachable (step maxElevated) allowed first ⟨permit.apply taken, before ++ [after]⟩ := by
  refine reached.next permitted ?_
  simp [step, steps]

theorem reachable_adding {response : TunnelResponse} (heavy : Heavy response)
    (reached : Reachable (step maxElevated) allowed first ⟨taken, before⟩)
    (free : taken < maxElevated) (starts : ∀ state, allowed state (.start [] none))
    (replies : ∀ state id, allowed state (.loop id (.reply 0 (.ok response) none)))
    (loads : allowed ⟨taken, before ++ [twice response]⟩ (.loop before.length .load)) :
    Reachable (step maxElevated) allowed first ⟨taken, before ++ [adding response]⟩ := by
  have started : Reachable (step maxElevated) allowed first
      ⟨taken, before ++ [TunnelLoop.start [] none]⟩ := reached.next (starts _) rfl
  have answered := reachable_last started (replies _ _) (step_start heavy maxElevated taken)
  have again := reachable_last answered (replies _ _) (step_once heavy maxElevated taken)
  exact reachable_last again loads (step_twice response free)

end Rise

/--
As many permits are taken as live loops hold one while each session with a permit writes through,
and the first step that is not so loses one.
-/
theorem permits_given_back {maxElevated : Nat} {state : MuxSessions}
    (reachable : Reachable (step maxElevated) WritesThrough {} state) :
    state.Balanced ∧
      ((∀ loop ∈ state.loops, loop.live = false) → state.elevatedSessions = 0) ∧
      ∀ event after, state.step maxElevated event = some after →
        (after.Balanced ↔ WritesThrough state event) := by
  have counted := counted_of_reachable reachable
  have noneLost : state.NoneLost :=
    reachable.invariant NoneLost (by simp [NoneLost])
      fun noneLost through steps => noneLost.step through steps
  have balanced := counted.balanced_iff.mpr noneLost
  refine ⟨balanced, fun ended => ?_, fun event after steps => ?_⟩
  · rw [balanced, List.countP_eq_zero]
    intro loop member
    simp [ended loop member]
  · rw [(counted.step steps).balanced_iff]
    constructor
    · intro kept
      by_contra fails
      exact not_noneLost_of_fails fails steps kept
    · exact fun through => noneLost.step through steps

theorem permits_given_back_behind_rise :
    ∃ state, Reachable (step maxElevatedTotal) WritesThrough {} state ∧
      state.elevatedSessions = 1 ∧ state.Balanced := by
  obtain ⟨response, heavy⟩ := exists_heavy
  have found : Reachable (step maxElevatedTotal) WritesThrough {} ⟨0, [] ++ [adding response]⟩ :=
    reachable_adding heavy .begin (by decide) (fun _ => trivial) (fun _ _ fails => by cases fails)
      (fun fails => by cases fails)
  have risen := reachable_last found (fun fails => by cases fails)
    (step_adding response maxElevatedTotal 0)
  exact ⟨_, risen, rfl, (permits_given_back risen).1⟩

theorem permit_lost_behind_failed_write :
    ∃ state, Reachable (step maxElevatedTotal) (fun _ _ => True) {} state ∧
      (∀ loop ∈ state.loops, loop.live = false) ∧ state.elevatedSessions = 1 ∧
      ¬ state.Balanced := by
  obtain ⟨response, heavy⟩ := exists_heavy
  have found : Reachable (step maxElevatedTotal) (fun _ _ => True) {}
      ⟨0, [] ++ [adding response]⟩ :=
    reachable_adding heavy .begin (by decide) (fun _ => trivial) (fun _ _ => trivial) trivial
  have risen := reachable_last found trivial (step_adding response maxElevatedTotal 0)
  have polled := reachable_last risen trivial
    (show (raised response).step maxElevatedTotal 1 (.idle false none) =
      some ((raised response).pushPoll, .keep) from rfl)
  have failed := reachable_last polled trivial
    (step_failing heavy maxElevatedTotal 1 rfl rfl rfl rfl)
  refine ⟨_, failed, by simp [TunnelLoop.live], rfl, ?_⟩
  -- One permit is taken, and no loop is live.
  show ¬ 1 = _
  simp [TunnelLoop.live]

def isAdding (loop : TunnelLoop) : Bool := loop.stage = .adding

def addingCount (state : MuxSessions) : Nat := state.loops.countP isAdding

def LoadsAlone (maxElevated : Nat) (state : MuxSessions) : MuxEvent → Prop
  | .loop _ .load => state.elevatedSessions < maxElevated →
      state.elevatedSessions + state.addingCount < maxElevated
  | _ => True

theorem apply_add_isAdding_le {taken : Nat} {loop after : TunnelLoop}
    {event : LoopEvent} {permit : Permit}
    (effect : Effect maxElevated taken loop after event permit)
    (covered : loop.keepsPermit → 0 < taken) :
    permit.apply taken + (if isAdding after then 1 else 0) ≤
        taken + (if isAdding loop then 1 else 0) ∨
      event = .load ∧ taken < maxElevated ∧ permit.apply taken = taken ∧ isAdding loop = false := by
  have released : 0 < taken → Permit.release.apply taken ≤ taken := by
    intro positive
    have := Permit.apply_release positive
    omega
  cases effect with
  | steady top same stage =>
    rcases stage with stage | stage <;> simp [isAdding, stage, Permit.apply]
  | rises top same without loading => simp [isAdding, loading, Permit.apply]
  | fails top same returned => simp [isAdding, returned, Permit.apply]
  | lowers top elevated without stays =>
    left
    have fewer := released (covered (by simp [keepsPermit, elevated, top]))
    simpa [isAdding, top, stays] using fewer
  | loadFree loading same free adding load =>
    exact .inr ⟨load, free, rfl, by simp [isAdding, loading]⟩
  | loadFull loading same full stays => simp [isAdding, stays, Permit.apply]
  | add adding elevated stays => simp [isAdding, adding, stays, Permit.apply]
  | leave leaving same ended =>
    left
    cases elevated : loop.isElevated with
    | false => simp [isAdding, ended, Permit.apply]
    | true =>
      have fewer := released (covered (by simp [keepsPermit, elevated, leaving]))
      simpa [isAdding, leaving, ended] using fewer

def Capped (maxElevated : Nat) (state : MuxSessions) : Prop :=
  state.elevatedSessions + state.addingCount ≤ maxElevated

theorem Capped.step (capped : state.Capped maxElevated) (counted : state.Counted)
    (alone : LoadsAlone maxElevated state event)
    (steps : state.step maxElevated event = some after) : after.Capped maxElevated := by
  cases event with
  | start sid pendingClientData =>
    cases steps
    have top := (start_fields sid pendingClientData).1
    simpa [Capped, addingCount, isAdding, top] using capped
  | loop id event =>
    obtain ⟨loop, behind, permit, found, stepped, rfl⟩ := step_loop steps
    have effect := effect_of_step stepped
    have moved := countP_set_of_getElem? found isAdding behind
    unfold Capped addingCount at capped ⊢
    show permit.apply state.elevatedSessions + (state.loops.set id behind).countP isAdding ≤ _
    rcases apply_add_isAdding_le effect (counted.covered found) with
      fewer | ⟨rfl, free, same, fresh⟩
    · omega
    · -- One more has found a permit, and there was room for it.
      have room : state.elevatedSessions + state.loops.countP isAdding < maxElevated := alone free
      simp only [fresh, Bool.false_eq_true, if_false] at moved
      split at moved <;> omega

theorem exists_all_added (maxElevated : Nat) (state : MuxSessions) :
    ∃ final, Reachable (step maxElevated) (fun _ _ => True) state final ∧
      final.elevatedSessions = state.elevatedSessions + state.addingCount := by
  obtain ⟨count, found⟩ : ∃ count, state.addingCount = count := ⟨_, rfl⟩
  rw [found]
  induction count generalizing state with
  | zero => exact ⟨state, .begin, rfl⟩
  | succ count ih =>
    obtain ⟨loop, member, waits⟩ := List.countP_pos_iff.mp (by rw [← addingCount, found]; omega)
    obtain ⟨id, here⟩ := List.mem_iff_getElem?.mp member
    have adding : loop.stage = .adding := by simpa [isAdding] using waits
    obtain ⟨raised, stepped, stays⟩ : ∃ raised : TunnelLoop,
        loop.step maxElevated state.elevatedSessions .add = some (raised, .acquire) ∧
          raised.stage = .top := by
      simp only [TunnelLoop.step, adding]
      exact ⟨_, rfl, stage_scheduleRefill _⟩
    have steps : state.step maxElevated (.loop id .add) =
        some ⟨state.elevatedSessions + 1, state.loops.set id raised⟩ := by
      simp [step, here, stepped, Permit.apply]
    have moved := countP_set_of_getElem? here isAdding raised
    have fewer : addingCount ⟨state.elevatedSessions + 1, state.loops.set id raised⟩ = count := by
      have taken : isAdding raised = false := by simp [isAdding, stays]
      simp only [waits, taken, if_true, Bool.false_eq_true, if_false] at moved
      unfold addingCount at found
      show (state.loops.set id raised).countP isAdding = count
      omega
    obtain ⟨final, later, total⟩ := ih _ fewer
    refine ⟨final, (Reachable.begin.next trivial steps).trans later, ?_⟩
    rw [total]
    show state.elevatedSessions + 1 + count = _
    omega

/--
No more permits are taken than there are while each session that finds one leaves room for those
before it; after the first that does not, more can be.
-/
theorem permits_capped {maxElevated : Nat} {state : MuxSessions}
    (reachable : Reachable (step maxElevated) (LoadsAlone maxElevated) {} state) :
    state.elevatedSessions ≤ maxElevated ∧
      ∀ id after, ¬ LoadsAlone maxElevated state (.loop id .load) →
        state.step maxElevated (.loop id .load) = some after →
        ∃ final, Reachable (step maxElevated) (fun _ _ => True) after final ∧
          maxElevated < final.elevatedSessions := by
  obtain ⟨-, capped⟩ : state.Counted ∧ state.Capped maxElevated :=
    reachable.invariant (fun state => state.Counted ∧ state.Capped maxElevated)
      ⟨counted_start, Nat.zero_le _⟩
      fun both alone steps => ⟨both.1.step steps, both.2.step both.1 alone steps⟩
  refine ⟨le_trans (Nat.le_add_right _ _) capped, fun id after crowded steps => ?_⟩
  simp only [LoadsAlone, Classical.not_imp, Nat.not_lt] at crowded
  obtain ⟨free, full⟩ := crowded
  obtain ⟨loop, behind, permit, found, stepped, rfl⟩ := step_loop steps
  cases change_of_step stepped with
  | loadFull loading filled => exact absurd free (Nat.not_lt.mpr filled)
  | loadFree loading =>
    obtain ⟨final, later, total⟩ := exists_all_added maxElevated
      ⟨state.elevatedSessions, state.loops.set id { loop with stage := .adding }⟩
    refine ⟨final, later, ?_⟩
    have moved := countP_set_of_getElem? found isAdding { loop with stage := .adding }
    have fresh : isAdding loop = false := by simp [isAdding, loading]
    have waits : isAdding { loop with stage := .adding } = true := by simp [isAdding]
    simp only [fresh, waits, if_true, Bool.false_eq_true, if_false] at moved
    unfold addingCount at full total
    rw [total]
    show maxElevated < state.elevatedSessions + (state.loops.set id _).countP isAdding
    omega

theorem permits_capped_behind_rise :
    ∃ state, Reachable (step maxElevatedTotal) (LoadsAlone maxElevatedTotal) {} state ∧
      state.elevatedSessions = 1 ∧ state.elevatedSessions ≤ maxElevatedTotal := by
  obtain ⟨response, heavy⟩ := exists_heavy
  have found : Reachable (step maxElevatedTotal) (LoadsAlone maxElevatedTotal) {}
      ⟨0, [] ++ [adding response]⟩ :=
    reachable_adding heavy .begin (by decide) (fun _ => trivial) (fun _ _ => trivial)
      (fun free => free)
  have permitted : LoadsAlone maxElevatedTotal ⟨0, [] ++ [adding response]⟩ (.loop 0 .add) :=
    trivial
  have risen := reachable_last found permitted (step_adding response maxElevatedTotal 0)
  exact ⟨_, risen, rfl, (permits_capped risen).1⟩

theorem eleven_rise_together :
    ∃ state, Reachable (step maxElevatedTotal) (fun _ _ => True) {} state ∧
      maxElevatedTotal < state.elevatedSessions := by
  obtain ⟨response, heavy⟩ := exists_heavy
  have crowd : ∀ count, Reachable (step maxElevatedTotal) (fun _ _ => True) {}
      ⟨0, List.replicate count (adding response)⟩ := by
    intro count
    induction count with
    | zero => exact .begin
    | succ count ih =>
      rw [List.replicate_succ']
      exact reachable_adding heavy ih (by decide) (fun _ => trivial) (fun _ _ => trivial) trivial
  obtain ⟨final, later, total⟩ := exists_all_added maxElevatedTotal
    ⟨0, List.replicate 11 (adding response)⟩
  refine ⟨final, (crowd 11).trans later, ?_⟩
  rw [total]
  simp [addingCount, isAdding, adding, maxElevatedTotal]

end MuxSessions

end Gvpn
