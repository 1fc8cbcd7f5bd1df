import Gvpn.Data.Slots
import Gvpn.Fronter.H2

/-! A usable connection is given up only by its users, or for good. -/

namespace Gvpn

namespace H2Stage

def opens : H2Stage → Bool
  | .opening | .failing | .clearing | .tagging | .tagged _ | .storing _ => true
  | _ => false

def tag : H2Stage → Option Nat
  | .tagged generation | .storing generation => some generation
  | _ => none

end H2Stage

namespace H2State

structure Kept (state : H2State) : Prop where
  alone : ∀ {id : Nat} {stage : H2Stage}, state.tasks[id]? = some stage → stage.holds = true →
    state.openLock = some id
  spent : ∀ {id : Nat} {stage : H2Stage}, state.tasks[id]? = some stage → stage.opens = true →
    ∀ cell, state.cell = some cell → cell.usable state.now = false
  fresh : ∀ {id : Nat} {stage : H2Stage} {generation}, state.tasks[id]? = some stage →
    stage.tag = some generation →
    generation ≤ state.generation ∧ ∀ old ∈ state.stored, old < generation
  bounded : ∀ old ∈ state.stored, old ≤ state.generation
  sorted : state.stored.Pairwise (· > ·)

variable {state after : H2State} {id : Nat}

variable {stage : H2Stage}

theorem holds_of_opens (opens : stage.opens = true) : stage.holds = true := by
  cases stage <;> first | rfl | cases opens

theorem holds_of_tag {generation : Nat} (tag : stage.tag = some generation) :
    stage.holds = true := by
  cases stage <;> first | rfl | cases tag

theorem Kept.quiet (kept : state.Kept)
    (tasks : ∀ {id : Nat} {stage : H2Stage}, after.tasks[id]? = some stage → stage.holds = true →
      state.tasks[id]? = some stage)
    (lock : after.openLock = state.openLock)
    (cell : ∀ later, after.cell = some later → ∃ earlier, state.cell = some earlier ∧
      (earlier.usable state.now = false → later.usable after.now = false))
    (same : after.generation = state.generation ∧ after.stored = state.stored) : after.Kept where
  alone found holds := lock.trans (kept.alone (tasks found holds) holds)
  spent found opens later is := by
    obtain ⟨earlier, was, keeps⟩ := cell later is
    exact keeps (kept.spent (tasks found (holds_of_opens opens)) opens earlier was)
  fresh found tag := by
    rw [same.1, same.2]
    exact kept.fresh (tasks found (holds_of_tag tag)) tag
  bounded := by
    rw [same.1, same.2]
    exact kept.bounded
  sorted := same.2 ▸ kept.sorted

theorem Kept.own (kept : state.Kept) (free : state.openLock = none ∨ state.openLock = some id)
    (tasks : after.tasks = state.tasks.set id stage)
    (lock : stage.holds = true → after.openLock = some id)
    (spent : stage.opens = true → ∀ cell, after.cell = some cell → cell.usable after.now = false)
    (fresh : ∀ {generation}, stage.tag = some generation → generation ≤ after.generation ∧ ∀ old ∈ after.stored, old < generation)
    (bounded : ∀ old ∈ after.stored, old ≤ after.generation)
    (sorted : after.stored.Pairwise (· > ·)) : after.Kept := by
  -- Every other task is outside of the lock.
  have cases_ : ∀ {other : Nat} {found : H2Stage}, after.tasks[other]? = some found →
      found.holds = true → other = id ∧ found = stage := by
    intro other found is holds
    rw [tasks] at is
    rcases getElem?_set_eq_some is with ⟨here, same⟩ | ⟨away, before⟩
    · exact ⟨here, same⟩
    · have locked := kept.alone before holds
      rcases free with unlocked | own
      · cases unlocked.symm.trans locked
      · exact absurd (Option.some.inj (locked.symm.trans own)) away
  refine ⟨?_, ?_, ?_, bounded, sorted⟩
  · intro other found is holds
    obtain ⟨rfl, rfl⟩ := cases_ is holds
    exact lock holds
  · intro other found is opens
    obtain ⟨rfl, rfl⟩ := cases_ is (holds_of_opens opens)
    exact spent opens
  · intro other found generation is tag
    obtain ⟨rfl, rfl⟩ := cases_ is (holds_of_tag tag)
    exact fresh tag

theorem Kept.move (kept : state.Kept) (outside : stage.holds = false) :
    (state.move id stage).Kept := by
  refine kept.quiet ?_ rfl (fun later is => ⟨later, is, fun unusable => unusable⟩) ⟨rfl, rfl⟩
  intro other found is holds
  rcases getElem?_set_eq_some is with ⟨-, rfl⟩ | ⟨-, before⟩
  · cases outside.symm.trans holds
  · exact before

theorem Kept.leave (kept : state.Kept) (locked : state.openLock = some id) {generation : Option Nat}
    (tasks : after.tasks = state.tasks.set id (.finished generation))
    (bounded : ∀ old ∈ after.stored, old ≤ after.generation)
    (sorted : after.stored.Pairwise (· > ·)) : after.Kept :=
  kept.own (.inr locked) tasks (fun holds => by cases holds) (fun opens => by cases opens)
    (fun tag => by cases tag) bounded sorted

theorem Kept.open (kept : state.Kept) {old : H2Stage} (found : state.tasks[id]? = some old)
    (opens : old.opens = true) (tasks : after.tasks = state.tasks.set id stage)
    (same : after.openLock = state.openLock ∧ after.cell = state.cell ∧ after.now = state.now ∧ after.stored = state.stored)
    (more : state.generation ≤ after.generation)
    (fresh : ∀ {generation}, stage.tag = some generation → generation ≤ after.generation ∧ ∀ old ∈ after.stored, old < generation) :
    after.Kept := by
  have locked := kept.alone found (holds_of_opens opens)
  obtain ⟨lock, cell, now, stored⟩ := same
  refine kept.own (.inr locked) tasks (fun _ => lock.trans locked) ?_ fresh ?_ (stored ▸ kept.sorted)
  · intro _
    rw [cell, now]
    exact kept.spent found opens
  · intro old member
    exact (kept.bounded old (stored ▸ member)).trans more

theorem unusable_of_usableGeneration (none_ : state.usableGeneration = none) :
    ∀ cell, state.cell = some cell → cell.usable state.now = false := by
  intro cell is
  simpa [usableGeneration, is, Option.filter_some] using none_

theorem Kept.advance (kept : state.Kept) (found : state.tasks[id]? = some stage)
    {outcome : OpenOutcome} {dead : Bool}
    (taken : state.advance id outcome dead stage = some after) : after.Kept := by
  cases stage with
  | entered | backingOff =>
    cases taken
    exact kept.move (by split <;> rfl)
  | looking =>
    simp only [H2State.advance] at taken
    split at taken <;> cases taken <;> exact kept.move rfl
  | contending =>
    simp only [H2State.advance] at taken
    split at taken
    · rename_i free
      cases taken
      exact kept.own (.inl free) rfl (fun _ => rfl) (fun opens => by cases opens)
        (fun tag => by cases tag) kept.bounded kept.sorted
    · cases taken
      exact kept.move rfl
  | rechecking =>
    have locked := kept.alone found rfl
    simp only [H2State.advance] at taken
    split at taken
    · cases taken
      exact kept.leave locked rfl kept.bounded kept.sorted
    · rename_i none_
      cases taken
      exact kept.own (.inr locked) rfl (fun _ => locked)
        (fun _ => unusable_of_usableGeneration none_) (fun tag => by cases tag) kept.bounded kept.sorted
  | opening =>
    cases outcome <;> cases taken <;>
      exact kept.open found rfl rfl ⟨rfl, rfl, rfl, rfl⟩ (Nat.le_refl _) (fun tag => by cases tag)
  | failing =>
    cases taken
    exact kept.open found rfl rfl ⟨rfl, rfl, rfl, rfl⟩ (Nat.le_refl _) (fun tag => by cases tag)
  | clearing =>
    cases taken
    exact kept.leave (kept.alone found rfl) rfl kept.bounded kept.sorted
  | tagging =>
    cases taken
    refine kept.open found rfl rfl ⟨rfl, rfl, rfl, rfl⟩ (Nat.le_succ _) ?_
    intro generation tag
    cases tag
    exact ⟨Nat.le_refl _, fun old member => Nat.lt_succ_of_le (kept.bounded old member)⟩
  | tagged generation =>
    cases taken
    refine kept.open found rfl rfl ⟨rfl, rfl, rfl, rfl⟩ (Nat.le_refl _) ?_
    intro same tag
    cases tag
    exact kept.fresh found rfl
  | storing generation =>
    cases taken
    obtain ⟨known, newer⟩ := kept.fresh found rfl
    refine kept.leave (kept.alone found rfl) rfl ?_ (List.pairwise_cons.mpr ⟨newer, kept.sorted⟩)
    intro old member
    rcases List.mem_cons.mp member with rfl | before
    · exact known
    · exact kept.bounded old before
  | disabling =>
    cases taken
    have moved : (state.move id (.finished none)).Kept := kept.move rfl
    exact moved.quiet (fun is _ => is) rfl (fun later is => by cases is) ⟨rfl, rfl⟩
  | finished => cases taken

theorem Kept.enter (kept : state.Kept) (outside : stage.holds = false) (disabled : Bool) :
    Kept { state with disabled, tasks := state.tasks ++ [stage] } := by
  refine kept.quiet ?_ rfl (fun later is => ⟨later, is, fun unusable => unusable⟩) ⟨rfl, rfl⟩
  intro other found is holds
  by_cases inside : other < state.tasks.length
  · rwa [List.getElem?_append_left inside] at is
  · rw [List.getElem?_append_right (Nat.le_of_not_lt inside)] at is
    rw [List.mem_singleton.mp (List.mem_of_getElem? is), outside] at holds
    cases holds

variable {event : H2Event}

theorem Kept.step (kept : state.Kept) (taken : state.step event = some after) : after.Kept := by
  cases event with
  | ensure | refuse =>
    cases taken
    exact kept.enter rfl _
  | poison generation =>
    cases taken
    refine kept.quiet (fun is _ => is) rfl ?_ ⟨rfl, rfl⟩
    intro later is
    exact ⟨later, (Option.filter_eq_some_iff.mp is).1, fun unusable => unusable⟩
  | driverEnds =>
    cases taken
    refine kept.quiet (fun is _ => is) rfl ?_ ⟨rfl, rfl⟩
    intro later is
    obtain ⟨earlier, was, rfl⟩ := Option.map_eq_some_iff.mp is
    exact ⟨earlier, was, fun _ => by simp [H2Cell.usable]⟩
  | pass time =>
    cases taken
    refine kept.quiet (fun is _ => is) rfl ?_ ⟨rfl, rfl⟩
    intro later is
    refine ⟨later, is, ?_⟩
    -- A connection that has expired stays so.
    have grows : (state.now - later.created) / second ≤ (state.now + time - later.created) / second :=
      Nat.div_le_div_right (by omega)
    simp only [H2Cell.usable, Bool.and_eq_false_iff, decide_eq_false_iff_not]
    exact Or.imp_left fun expired => by omega
  | advance id outcome dead =>
    obtain ⟨stage, found, moved⟩ := Option.bind_eq_some_iff.mp taken
    exact kept.advance found moved
  | drop id =>
    simp only [H2State.step] at taken
    split at taken
    · cases taken
    · cases taken
    · rename_i stage _ found
      cases taken
      split
      · rename_i holds
        exact kept.leave (kept.alone found holds) rfl kept.bounded kept.sorted
      · exact kept.move rfl

theorem Kept.removes (kept : state.Kept) (taken : state.step event = some after) {cell : H2Cell}
    (is : state.cell = some cell) (usable : cell.usable state.now = true) :
    after.cell.map H2Cell.generation = some cell.generation ∨ event = .poison cell.generation ∨
      ∃ id outcome dead, event = .advance id outcome dead ∧
        state.tasks[id]? = some .disabling := by
  have stays : state.cell.map H2Cell.generation = some cell.generation := by rw [is]; rfl
  cases event with
  | ensure | refuse | pass =>
    cases taken
    exact .inl stays
  | poison generation =>
    cases taken
    by_cases own : cell.generation = generation
    · exact .inr (.inl (by rw [own]))
    · exact .inl (by simp [is, Option.filter_some, own])
  | driverEnds =>
    cases taken
    exact .inl (by simp [is])
  | advance id outcome dead =>
    obtain ⟨stage, found, moved⟩ := Option.bind_eq_some_iff.mp taken
    have busy : stage.opens = true → False := fun opens => by
      rw [kept.spent found opens cell is] at usable
      cases usable
    cases stage with
    | clearing | storing => exact (busy rfl).elim
    | disabling => exact .inr (.inr ⟨id, outcome, dead, rfl, found⟩)
    | entered | backingOff | failing | tagging | tagged =>
      cases moved
      exact .inl stays
    | looking | contending | rechecking =>
      simp only [H2State.advance] at moved
      split at moved <;> cases moved <;> exact .inl stays
    | opening => cases outcome <;> cases moved <;> exact .inl stays
    | finished => cases moved
  | drop id =>
    simp only [H2State.step] at taken
    split at taken
    · cases taken
    · cases taken
    · cases taken
      split <;> exact .inl stays

end H2State

/--
Over every interleaving, generations increase, one connection is opened at a time, a poison leaves
other generations alone, and a usable connection is removed only by a poison of its own generation
or by the sticky disable.
-/
theorem h2_cell_safe {disabled : Bool} {state : H2State}
    (reached : Reachable H2State.step (fun _ _ => True) { disabled } state) :
    state.stored.Pairwise (· > ·) ∧
    (∀ first second : Nat, state.tasks[first]? = some .opening →
      state.tasks[second]? = some .opening → first = second) ∧
    (∀ generation after cell, state.step (.poison generation) = some after →
      state.cell = some cell → cell.generation ≠ generation → after.cell = some cell) ∧
    ∀ event after cell, state.step event = some after → state.cell = some cell →
      cell.usable state.now = true →
      after.cell.map H2Cell.generation = some cell.generation ∨ event = .poison cell.generation ∨
        ∃ id outcome dead, event = .advance id outcome dead ∧
          state.tasks[id]? = some .disabling := by
  have initially : H2State.Kept { disabled } :=
    ⟨by simp, by simp, by simp, by simp, List.Pairwise.nil⟩
  have kept := reached.invariant H2State.Kept initially fun kept _ taken => kept.step taken
  refine ⟨kept.sorted, ?_, ?_, fun event after cell taken => kept.removes taken⟩
  · intro first second one other
    exact Option.some.inj ((kept.alone one rfl).symm.trans (kept.alone other rfl))
  · intro generation after cell taken is other
    cases taken
    simp [is, Option.filter_some, other]

def h2OpenedTwice : List H2Event :=
  let opened (id : Nat) : List H2Event :=
    .ensure :: List.replicate 9 (.advance id .connected false)
  opened 0 ++ [.pass (540 * second)] ++ opened 1

theorem h2_cell_safe_openedTwice :
    ∃ state, runSteps H2State.step { disabled := false } h2OpenedTwice = some state ∧
      state.stored = [2, 1] ∧ state.stored.Pairwise (· > ·) := by
  have reached : Reachable H2State.step (fun _ _ => True) { disabled := false } _ :=
    Reachable.runSteps h2OpenedTwice .begin (permits_of_forall_mem (fun _ _ _ => trivial) _) rfl
  exact ⟨_, rfl, rfl, (h2_cell_safe reached).1⟩

end Gvpn
