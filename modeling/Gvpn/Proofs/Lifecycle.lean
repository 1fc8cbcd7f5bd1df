import Gvpn.TunnelNode.Lifecycle

/-! Where a session's reader is stopped before the session is dropped. -/

namespace Gvpn

section Opening

variable (decodeError : Text → Text) (host : Option Text) (port : Option UInt16) (dial : Dial)

end Opening

@[simp] theorem TaskStatus.abort_ne_running (status : TaskStatus) : status.abort ≠ .running := by
  cases status <;> decide

namespace NodeSessions

def Sound (state : NodeSessions) : Prop :=
  ∀ session ∈ state.objects, session.owner = .dropped → session.readerHandle ≠ .running

def Fresh (state : NodeSessions) : SessionEvent → Prop
  | .settle id => ∀ (session : ManagedSession) (name : Text), state.objects[id]? = some session →
      session.owner = .opening (some name) → state.isMapped name = false
  | _ => True

def Detaches (state : NodeSessions) : SessionEvent → Prop
  | .removeFailed sid =>
    ∃ session ∈ state.objects, session.owner = .mapped sid ∧ session.readerHandle = .running
  | _ => False

variable {state : NodeSessions}

theorem mem_onMapped {named : Text → Bool}
    {update : ManagedSession → ManagedSession} {session : ManagedSession}
    (member : session ∈ (state.onMapped named update).objects) :
    session ∈ state.objects ∨ ∃ before ∈ state.objects, ∃ sid, before.owner = .mapped sid ∧
      named sid = true ∧ session = update before := by
  obtain ⟨before, inside, rfl⟩ := List.mem_map.mp member
  split
  · rename_i sid owner
    split
    · rename_i hit
      exact .inr ⟨before, inside, sid, owner, hit, rfl⟩
    · exact .inl inside
  · exact .inl inside

theorem Sound.onMapped (sound : state.Sound) {named : Text → Bool}
    {update : ManagedSession → ManagedSession}
    (stops : ∀ session ∈ state.objects, ∀ sid, session.owner = .mapped sid → named sid = true →
      (update session).owner = .dropped → (update session).readerHandle ≠ .running) :
    (state.onMapped named update).Sound := by
  intro session member dropped
  rcases mem_onMapped member with old | ⟨before, inside, sid, owner, hit, rfl⟩
  · exact sound session old dropped
  · exact stops before inside sid owner hit dropped

theorem Sound.set (sound : state.Sound) (id : Nat) {session : ManagedSession}
    (stops : session.owner = .dropped → session.readerHandle ≠ .running) :
    ({ state with objects := state.objects.set id session } : NodeSessions).Sound := by
  intro other member dropped
  rcases List.mem_or_eq_of_mem_set member with old | rfl
  · exact sound other old dropped
  · exact stops dropped

theorem Sound.create (sound : state.Sound) (udpgw : Bool)
    (name : Option Text) : (state.create udpgw name).Sound := by
  intro session member dropped
  rcases List.mem_append.mp member with old | new
  · exact sound session old dropped
  · obtain rfl := List.mem_singleton.mp new
    contradiction

theorem Sound.insert (sound : state.Sound) (id : Nat)
    (session : ManagedSession) {name : Text} (unused : state.isMapped name = false) :
    (state.insert id session name).Sound := by
  simp only [isMapped, List.any_eq_false, decide_eq_true_eq] at unused
  have dropsNone : (state.onMapped (· = name) ManagedSession.drop).Sound := by
    refine sound.onMapped fun other inside sid owner hit => ?_
    obtain rfl : sid = name := by simpa using hit
    exact absurd owner (unused other inside)
  exact dropsNone.set id (by simp)

theorem Sound.step {after : NodeSessions} {event : SessionEvent} (sound : state.Sound)
    (fresh : state.Fresh event) (keeps : ¬ state.Detaches event)
    (taken : step state event = some after) : after.Sound := by
  cases event with
  | connect host port dial =>
    simp only [NodeSessions.step] at taken
    split at taken <;> obtain rfl := Option.some.inj taken
    · exact sound
    · exact sound.create _ _
  | connectData host port d dial =>
    simp only [NodeSessions.step] at taken
    split at taken <;> obtain rfl := Option.some.inj taken
    · exact sound
    · exact sound.create _ _
  | settle id =>
    simp only [NodeSessions.step] at taken
    split at taken
    · contradiction
    · rename_i session found
      split at taken
      · rename_i name owner
        cases taken
        exact sound.insert id session (fresh session name found owner)
      · -- A session that is given up is stopped first.
        cases taken
        exact sound.set id fun _ => TaskStatus.abort_ne_running _
      · contradiction
  | data sid d writeFails =>
    simp only [NodeSessions.step] at taken
    split at taken
    · cases taken
      exact sound
    · split at taken <;> obtain rfl := Option.some.inj taken <;> exact sound
  | removeFailed sid =>
    simp only [NodeSessions.step] at taken
    split at taken
    · cases taken
      refine Sound.onMapped sound fun session inside name owner hit _ running => ?_
      obtain rfl : name = sid := by simpa using hit
      exact keeps ⟨session, inside, owner, running⟩
    · contradiction
  | drainedEof sid =>
    cases taken
    exact sound.onMapped fun session _ _ _ _ _ => TaskStatus.abort_ne_running _
  | batchEof sids =>
    cases taken
    exact sound.onMapped fun session _ _ _ _ _ => TaskStatus.abort_ne_running _
  | close sid =>
    simp only [NodeSessions.step] at taken
    split at taken <;> obtain rfl := Option.some.inj taken
    · exact sound
    · exact sound.onMapped fun session _ _ _ _ _ => TaskStatus.abort_ne_running _
  | reap stale =>
    cases taken
    exact sound.onMapped fun session _ _ _ _ dropped => by simp at dropped
  | abortReaped =>
    cases taken
    intro session member dropped
    obtain ⟨before, inside, rfl⟩ := List.mem_map.mp member
    by_cases reaped : before.owner = .reaper
    · rw [if_pos reaped]
      exact TaskStatus.abort_ne_running _
    · rw [if_neg reaped] at dropped ⊢
      exact sound before inside dropped
  | readerEnds id =>
    simp only [NodeSessions.step] at taken
    split at taken
    · contradiction
    · split at taken
      · cases taken
        exact sound.set id fun _ => by simp
      · contradiction

theorem Detaches.not_sound {after : NodeSessions} {event : SessionEvent}
    (detaches : state.Detaches event) (taken : step state event = some after) :
    ¬ after.Sound := by
  cases event with
  | removeFailed sid =>
    obtain ⟨session, inside, owner, running⟩ := detaches
    simp only [NodeSessions.step] at taken
    split at taken
    · cases taken
      intro sound
      have member : session.drop ∈ (state.onMapped (· = sid) ManagedSession.drop).objects := by
        refine List.mem_map.mpr ⟨session, inside, ?_⟩
        simp [owner]
      exact sound session.drop member rfl running
    · contradiction
  | _ => exact detaches.elim

/--
No session is dropped with its reader running, until a single request removes one behind a failed
write.
-/
theorem readers_end_with_sessions {state : NodeSessions}
    (reached : Reachable step (fun state event => state.Fresh event ∧ ¬ state.Detaches event) {}
      state) :
    state.Sound ∧ ∀ event after, state.Fresh event → step state event = some after →
      (after.Sound ↔ ¬ state.Detaches event) := by
  have sound : state.Sound := by
    refine Reachable.invariant Sound (fun session member => by simp at member) ?_ reached
    exact fun sound allowed taken => sound.step allowed.1 allowed.2 taken
  refine ⟨sound, fun event after fresh taken => ⟨fun sound detaches => ?_, fun keeps => ?_⟩⟩
  · exact detaches.not_sound taken sound
  · exact sound.step fresh keeps taken

def writeFailsBehindEnd : List SessionEvent :=
  [.connect (some ['h']) (some 80) { name := ['s'] }, .settle 0, .readerEnds 0,
    .data (some ['s']) (some ['A', 'A', '=', '=']) true]

def readerHasEnded : NodeSessions :=
  { objects := [{ owner := .mapped ['s'], readerHandle := .ended }], failing := [['s']] }

theorem readers_end_with_sessions_behind_end :
    runSteps step {} writeFailsBehindEnd = some readerHasEnded ∧
    ∃ after, step readerHasEnded (.removeFailed ['s']) = some after ∧ after.Sound := by
  refine ⟨rfl, _, rfl, ?_⟩
  have reached : Reachable step (fun state event => state.Fresh event ∧ ¬ state.Detaches event) {}
      readerHasEnded := by
    refine Reachable.runSteps writeFailsBehindEnd .begin ?_ rfl
    refine ⟨⟨trivial, not_false⟩, ⟨?_, not_false⟩, ⟨trivial, not_false⟩, ⟨trivial, not_false⟩,
      trivial⟩
    exact fun _ _ _ _ => rfl
  refine ((readers_end_with_sessions reached).2 (.removeFailed ['s']) _ trivial rfl).mpr ?_
  rintro ⟨session, member, -, running⟩
  obtain rfl := List.mem_singleton.mp member
  contradiction

def writeFailsBeforeEnd : List SessionEvent :=
  [.connect (some ['h']) (some 80) { name := ['s'] }, .settle 0,
    .data (some ['s']) (some ['A', 'A', '=', '=']) true, .removeFailed ['s']]

theorem reader_outlives_session : ∃ state, runSteps step {} writeFailsBeforeEnd = some state ∧
    state.objects = [{ owner := .dropped, readerHandle := .running }] ∧ ¬ state.Sound := by
  refine ⟨_, rfl, rfl, fun sound => ?_⟩
  exact sound _ (List.mem_singleton.mpr rfl) rfl rfl

end NodeSessions

end Gvpn
