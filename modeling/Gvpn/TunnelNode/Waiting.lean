import Gvpn.Data.Runs

/-! A batch that waits for its sessions: their readers, its watchers, and the look at the start. -/

namespace Gvpn

inductive WatcherStage where
  -- About to ask for a notification.
  | asking
  | parked
  -- Notified, and not yet run again.
  | woken
  | looking
  | unended
  | signalled
  deriving DecidableEq

structure Watched (α : Type) where
  buffer : List α
  eof : Bool
  -- The reader is about to notify of a change.
  notifying : Bool
  permit : Bool
  watcher : WatcherStage

inductive WatchedEvent (α : Type) where
  | append (items : List α)
  | finish
  -- The reader notifies, and may wake another batch instead.
  | notify (elsewhere : Bool)
  -- Another batch passes a wake-up on, or takes the stored one.
  | forward
  | steal
  | drain (count : Nat)
  | watch

namespace Watched

variable {α : Type}

def notifyOne (session : Watched α) : Watched α :=
  if session.watcher = .parked then { session with watcher := .woken }
  else { session with permit := true }

def watch (session : Watched α) : Option (Watched α) :=
  match session.watcher with
  | .asking =>
    if session.permit then some { session with permit := false, watcher := .looking }
    else some { session with watcher := .parked }
  | .woken => some { session with watcher := .looking }
  | .looking => some { session with watcher := if session.eof then .signalled else .unended }
  -- Without anything to see, the wake-up was an old one.
  | .unended =>
    some { session with watcher := if session.buffer.isEmpty then .asking else .signalled }
  | .parked | .signalled => none

def step (session : Watched α) : WatchedEvent α → Option (Watched α)
  | .append items =>
    if session.notifying then none
    else some { session with buffer := session.buffer ++ items, notifying := true }
  | .finish =>
    if session.notifying then none else some { session with eof := true, notifying := true }
  | .notify elsewhere =>
    if session.notifying then
      some { if elsewhere then session else session.notifyOne with notifying := false }
    else none
  | .forward => some session.notifyOne
  | .steal => some { session with permit := false }
  | .drain count => some { session with buffer := session.buffer.drop count }
  | .watch => session.watch

end Watched

inductive CheckStage where
  -- About to load the end flag of a session, and then to look at its buffer.
  | checking (id : Nat)
  | unended (id : Nat)
  -- Asleep until a watcher signals, or up to the deadline.
  | selecting
  | over

structure DrainWait (α : Type) where
  sessions : List (Watched α)
  check : CheckStage

inductive DrainWaitEvent (α : Type) where
  | session (id : Nat) (event : WatchedEvent α)
  | check
  | deadline

namespace DrainWait

variable {α : Type}

def start (sessions : List (Watched α)) : DrainWait α where
  sessions := sessions.map ({ · with watcher := .asking })
  check := if sessions.isEmpty then .over else .checking 0

def checkStep (state : DrainWait α) : Option CheckStage :=
  match state.check with
  | .checking id => some <| state.sessions[id]?.elim .selecting fun session =>
    if session.eof then .over else .unended id
  | .unended id => some <| state.sessions[id]?.elim .selecting fun session =>
    if session.buffer.isEmpty then .checking (id + 1) else .over
  | .selecting => if state.sessions.any (·.watcher = .signalled) then some .over else none
  | .over => none

def step (state : DrainWait α) : DrainWaitEvent α → Option (DrainWait α)
  | .session id event => (state.sessions[id]?.bind (·.step event)).map fun session =>
    { state with sessions := state.sessions.set id session }
  | .check => state.checkStep.map fun check => { state with check }
  | .deadline =>
    match state.check with
    | .selecting => some { state with check := .over }
    | _ => none

end DrainWait

end Gvpn
