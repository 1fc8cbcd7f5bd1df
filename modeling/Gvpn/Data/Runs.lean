import Mathlib.Data.Option.Basic

/-! Runs of a system whose steps can be refused, and their invariants. -/

namespace Gvpn

variable {σ ε : Type}

inductive Reachable (step : σ → ε → Option σ) (allowed : σ → ε → Prop) (start : σ) : σ → Prop
  -- Every run begins at the start.
  | begin : Reachable step allowed start start
  -- An allowed step extends a run.
  | next {state after : σ} {event : ε} (reached : Reachable step allowed start state)
      (permitted : allowed state event) (taken : step state event = some after) :
      Reachable step allowed start after

variable {step : σ → ε → Option σ} {allowed : σ → ε → Prop} {start final : σ}

theorem Reachable.invariant (holds : σ → Prop) (initially : holds start)
    (kept : ∀ {state after : σ} {event : ε}, holds state → allowed state event →
      step state event = some after → holds after)
    (reached : Reachable step allowed start final) : holds final := by
  induction reached with
  | begin => exact initially
  | next _ permitted taken ih => exact kept ih permitted taken

def runSteps (step : σ → ε → Option σ) (state : σ) : List ε → Option σ
  | [] => some state
  | event :: rest =>
    match step state event with
    | some after => runSteps step after rest
    | none => none

variable {state : σ}

theorem exists_step_of_runSteps {event : ε}
    {rest : List ε} (through : runSteps step state (event :: rest) = some final) :
    ∃ next, step state event = some next ∧ runSteps step next rest = some final := by
  unfold runSteps at through
  split at through
  · rename_i next taken
    exact ⟨next, taken, through⟩
  · cases through

def Permits (step : σ → ε → Option σ) (allowed : σ → ε → Prop) (state : σ) : List ε → Prop
  | [] => True
  | event :: rest =>
    allowed state event ∧
      match step state event with
      | some after => Permits step allowed after rest
      | none => True

instance decidablePermits [∀ state event, Decidable (allowed state event)] (events : List ε)
    (state : σ) : Decidable (Permits step allowed state events) := by
  induction events generalizing state with
  | nil => exact isTrue trivial
  | cons event rest ih =>
    unfold Permits
    cases step state event with
    | none => infer_instance
    | some after => infer_instance

theorem permits_of_forall_mem {events : List ε}
    (every : ∀ event ∈ events, ∀ state, allowed state event) (state : σ) :
    Permits step allowed state events := by
  induction events generalizing state with
  | nil => trivial
  | cons event rest ih =>
    obtain ⟨first, later⟩ := List.forall_mem_cons.mp every
    refine ⟨first state, ?_⟩
    cases step state event with
    | none => trivial
    | some after => exact ih later after

theorem Reachable.runSteps (events : List ε) (reached : Reachable step allowed start state)
    (permitted : Permits step allowed state events)
    (through : Gvpn.runSteps step state events = some final) :
    Reachable step allowed start final := by
  induction events generalizing state with
  | nil =>
    simp only [Gvpn.runSteps, Option.some.injEq] at through
    exact through ▸ reached
  | cons event rest ih =>
    obtain ⟨first, later⟩ := permitted
    obtain ⟨after, taken, through⟩ := exists_step_of_runSteps through
    rw [taken] at later
    exact ih (reached.next first taken) later through

theorem Reachable.trans {middle : σ} (first : Reachable step allowed start middle)
    (second : Reachable step allowed middle final) : Reachable step allowed start final := by
  induction second with
  | begin => exact first
  | next _ permitted taken ih => exact ih.next permitted taken

theorem Reachable.mono {more : σ → ε → Prop}
    (weaker : ∀ {state event}, allowed state event → more state event)
    (reached : Reachable step allowed start final) : Reachable step more start final := by
  induction reached with
  | begin => exact .begin
  | next _ permitted taken ih => exact ih.next (weaker permitted) taken

def Rests (step : σ → ε → Option σ) (allowed : σ → ε → Prop) (state : σ) : Prop :=
  ∀ event, allowed state event → step state event = none

theorem exists_rests (holds : σ → Prop) (measure : σ → Nat)
    (lowers : ∀ {state after : σ} {event : ε}, holds state → allowed state event →
      step state event = some after → holds after ∧ measure after < measure state)
    (start : holds state) :
    ∃ final, Reachable step allowed state final ∧ Rests step allowed final := by
  induction size : measure state using Nat.strongRecOn generalizing state with
  | _ n ih =>
    by_cases rests : Rests step allowed state
    · exact ⟨state, .begin, rests⟩
    · simp only [Rests, not_forall] at rests
      obtain ⟨event, permitted, moves⟩ := rests
      obtain ⟨after, taken⟩ := Option.ne_none_iff_exists'.mp moves
      obtain ⟨kept, lower⟩ := lowers start permitted taken
      obtain ⟨final, reached, resting⟩ := ih _ (size ▸ lower) kept rfl
      exact ⟨final, (Reachable.begin.next permitted taken).trans reached, resting⟩

end Gvpn
