import Gvpn.TunnelNode.Waiting

/-! A batch does not sleep while a session that it waits for has something to drain. -/

namespace Gvpn

def WatcherStage.left (eof : Bool) : WatcherStage → Nat
  | .asking | .woken => if eof then 2 else 3
  | .looking => if eof then 1 else 2
  | .unended => if eof then 3 else 1
  | .parked | .signalled => 0

namespace Watched

variable {α : Type} {session after : Watched α} {event : WatchedEvent α} {seen : Nat}

/-- There is something to drain, and the reader has told so. -/
def Ready (session : Watched α) : Prop :=
  session.notifying = false ∧ (session.eof = true ∨ session.buffer ≠ [])

/-- A wake-up is on its way to the watcher, or has brought it to look. -/
def Armed (session : Watched α) : Prop :=
  session.notifying = true ∨ session.permit = true ∨
    session.watcher = .woken ∨ session.watcher = .looking ∨ session.watcher = .signalled

/-- What came in after the batch had looked is still to be noticed. -/
structure Guarded (seen : Nat) (session : Watched α) : Prop where
  ended : session.eof = true → 0 < seen → session.Armed
  filled : session.buffer ≠ [] → seen = 2 → session.Armed ∨ session.watcher = .unended
  parked : session.watcher = .parked → session.permit = false

theorem Guarded.step (guarded : session.Guarded seen) (own : event ≠ .notify true)
    (kept : event ≠ .steal) (taken : session.step event = some after) : after.Guarded seen := by
  obtain ⟨ended, filled, parked⟩ := guarded
  cases event with
  | append | finish | drain => constructor <;> grind [Watched.step, Armed]
  | notify | forward => constructor <;> grind [Watched.step, notifyOne, Armed]
  | steal => exact absurd rfl kept
  | watch => constructor <;> grind [Watched.step, watch, Armed]

theorem Ready.watch (ready : session.Ready) (taken : session.watch = some after) :
    after.Ready ∧ after.watcher.left after.eof < session.watcher.left session.eof := by
  grind [Watched.watch, WatcherStage.left, Ready]

end Watched

namespace CheckStage

/-- How much of a session was looked at. -/
def seen (id : Nat) : CheckStage → Nat
  | .checking next => if id < next then 2 else 0
  | .unended next => if id < next then 2 else if id = next then 1 else 0
  | .selecting => 2
  | .over => 0

def left (count : Nat) : CheckStage → Nat
  | .checking id => 2 * (count - id) + 3
  | .unended id => 2 * (count - id) + 2
  | .selecting => 1
  | .over => 0

end CheckStage

namespace DrainWait

variable {α : Type} {state after : DrainWait α} {event : DrainWaitEvent α} {id : Nat}

/-- No wake-up of a session goes to another batch. -/
def Undisturbed (id : Nat) : DrainWaitEvent α → Prop
  | .session other (.notify true) | .session other .steal => other ≠ id
  | _ => True

def Own (id : Nat) : DrainWaitEvent α → Prop
  | .session other .watch => other = id
  | .check => True
  | _ => False

theorem Own.undisturbed (own : Own id event) : Undisturbed id event := by
  unfold Own at own
  split at own
  · trivial
  · trivial
  · cases own

def Ready (id : Nat) (state : DrainWait α) : Prop :=
  ∃ session, state.sessions[id]? = some session ∧ session.Ready

def Guarded (id : Nat) (state : DrainWait α) : Prop :=
  ∀ session, state.sessions[id]? = some session → session.Guarded (state.check.seen id)

theorem Guarded.step (guarded : state.Guarded id) (undisturbed : Undisturbed id event)
    (taken : state.step event = some after) : after.Guarded id := by
  cases event with
  | session other event =>
    obtain ⟨moved, moves, rfl⟩ := Option.map_eq_some_iff.mp taken
    obtain ⟨session, found, steps⟩ := Option.bind_eq_some_iff.mp moves
    intro watched here
    by_cases same : other = id
    · subst same
      have is : moved = watched := by grind
      exact is ▸ (guarded session found).step (by grind [Undisturbed])
        (by grind [Undisturbed]) steps
    · exact guarded watched (by grind)
  | check =>
    obtain ⟨check, checks, rfl⟩ := Option.map_eq_some_iff.mp taken
    intro watched here
    obtain ⟨ended, filled, parked⟩ := guarded watched here
    constructor <;> grind [checkStep, CheckStage.seen]
  | deadline =>
    intro watched here
    obtain ⟨ended, filled, parked⟩ := guarded watched (by grind [DrainWait.step])
    constructor <;> grind [DrainWait.step, CheckStage.seen]

def left (id : Nat) (state : DrainWait α) : Nat :=
  state.check.left state.sessions.length +
    (state.sessions[id]?.elim 0 fun session => session.watcher.left session.eof)

theorem Ready.step (ready : state.Ready id) (own : Own id event)
    (taken : state.step event = some after) :
    after.Ready id ∧ after.left id < state.left id := by
  obtain ⟨session, found, ready⟩ := ready
  cases event with
  | session other event =>
    cases event with
    | watch =>
      cases own
      obtain ⟨moved, moves, rfl⟩ := Option.map_eq_some_iff.mp taken
      obtain ⟨watched, here, steps⟩ := Option.bind_eq_some_iff.mp moves
      cases found.symm.trans here
      have fewer := ready.watch steps
      exact ⟨⟨moved, by grind, fewer.1⟩, by grind [left]⟩
    | _ => cases own
  | check =>
    obtain ⟨check, checks, rfl⟩ := Option.map_eq_some_iff.mp taken
    exact ⟨⟨session, found, ready⟩, by grind [left, checkStep, CheckStage.left]⟩
  | deadline => cases own

/--
A waiting batch ends its wait by steps of its own once one of its sessions has something to drain
and its reader has told so, if no wake-up of that session went to another batch.
-/
theorem wait_ends_once_ready {sessions : List (Watched α)}
    (reached : Reachable step (fun _ => Undisturbed id) (start sessions) state)
    (ready : state.Ready id) :
    ∃ after, Reachable step (fun _ => Own id) state after ∧ after.check = .over := by
  obtain ⟨final, goes, rests⟩ : ∃ final, Reachable step (fun _ => Own id) state final ∧
      Rests step (fun _ => Own id) final := exists_rests (Ready id) (left id) Ready.step ready
  obtain ⟨session, found, still⟩ : final.Ready id :=
    goes.invariant (Ready id) ready fun ready own taken => (ready.step own taken).1
  have all : Reachable step (fun _ => Undisturbed id) _ final :=
    reached.trans (goes.mono Own.undisturbed)
  have guarded : final.Guarded id := all.invariant (Guarded id) (fun _ here => by
    obtain ⟨_, -, rfl⟩ := List.mem_map.mp (List.mem_of_getElem? here)
    clear here
    constructor <;> grind [start, CheckStage.seen]) .step
  obtain ⟨ended, filled, parked⟩ := guarded session found
  -- A wait at rest that is not over would be asleep, with a wake-up on its way.
  have check := rests .check trivial
  have watch := rests (.session id .watch) rfl
  simp only [DrainWait.step, Watched.step, found, Option.bind_some, Option.map_eq_none_iff]
    at check watch
  have unsignalled : final.check = .selecting → session.watcher ≠ .signalled := by
    grind [checkStep, List.mem_of_getElem?]
  refine ⟨final, goes, ?_⟩
  grind [checkStep, Watched.watch, Watched.Armed, Watched.Ready, CheckStage.seen]

theorem wait_ends_once_filled : ∃ after, Reachable step (fun _ => Own 0)
    (⟨[⟨[0], false, false, true, .asking⟩], .checking 0⟩ : DrainWait Nat) after ∧
      after.check = .over := by
  have reached : Reachable step (fun _ => Undisturbed 0)
      (start [⟨[], false, false, false, .asking⟩]) _ :=
    .runSteps [.session 0 (.append [0]), .session 0 (.notify false)] .begin
      ⟨trivial, trivial, trivial⟩ rfl
  exact wait_ends_once_ready reached ⟨_, rfl, rfl, .inr (by decide)⟩

end DrainWait

end Gvpn
