import Gvpn.Proofs.Scripts
import Gvpn.Proofs.Strikes

/-! How long a blacklisted script is left alone. -/

namespace Gvpn

open List Option

namespace ScriptPool

theorem usable_prune_iff {pool : ScriptPool} {now : Nat} {scriptId : Text} (draws : Nat) :
    ((pool.prune now).advance draws).Usable now scriptId ↔ pool.Usable now scriptId := by
  refine and_congr ?_ Iff.rfl
  constructor
  · intro expired until_ listed
    by_contra later
    -- An entry that has not run out is kept.
    have kept : AList.lookup scriptId (pool.prune now).blacklist = some until_ :=
      Table.lookup_retain_eq_some.mpr ⟨listed, by simpa using later⟩
    exact later (expired until_ kept)
  · intro expired until_ kept
    exact expired until_ (Table.lookup_retain_eq_some.mp kept).1

theorem drawOpen_first {rounds draws : Nat} {pool : ScriptPool} (inside : draws < rounds)
    (open_ : pool.isOpen (pool.drawnAfter draws) = true)
    (closed : ∀ earlier, earlier < draws → pool.isOpen (pool.drawnAfter earlier) = false) :
    drawOpen rounds pool = (some (pool.drawnAfter draws), pool.advance (draws + 1)) := by
  induction draws generalizing rounds pool with
  | zero =>
    obtain ⟨rounds, rfl⟩ := Nat.exists_eq_succ_of_ne_zero (Nat.ne_of_gt inside)
    simp only [drawOpen, isOpen_advance, idAt_scriptIdx, open_, if_true]
  | succ draws ih =>
    obtain ⟨rounds, rfl⟩ := Nat.exists_eq_succ_of_ne_zero (Nat.ne_of_gt (Nat.zero_lt_of_lt inside))
    have here := closed 0 (Nat.succ_pos draws)
    have found := @ih rounds (pool.advance 1) (Nat.lt_of_succ_lt_succ inside)
      (by rw [drawnAfter_advance]; exact open_)
      (fun earlier before => by
        rw [drawnAfter_advance]
        exact closed (earlier + 1) (Nat.succ_lt_succ before))
    simp only [drawOpen, isOpen_advance, idAt_scriptIdx, here, Bool.false_eq_true, if_false]
    rw [found, drawnAfter_advance, advance_advance, Nat.add_comm 1]

theorem nextScriptId_first {pool : ScriptPool} {now draws : Nat}
    (inside : draws < pool.scriptIds.length) (usable : pool.Usable now (pool.drawnAfter draws))
    (unusable : ∀ earlier, earlier < draws → ¬ pool.Usable now (pool.drawnAfter earlier)) :
    nextScriptId now pool = (pool.drawnAfter draws, (pool.prune now).advance (draws + 1)) := by
  have found := @drawOpen_first (pool.prune now).scriptIds.length draws (pool.prune now) inside
    (isOpen_prune_iff.mpr usable)
    (fun earlier before => Bool.eq_false_iff.mpr fun open_ =>
      unusable earlier before (isOpen_prune_iff.mp open_))
  simp only [nextScriptId, found]
  rfl

theorem nextScriptIds_drawn {pool after : ScriptPool} {now want : Nat} {chosen : List Text}
    (result : pool.nextScriptIds now want = some (chosen, after)) :
    ∃ draws, after = (pool.prune now).advance draws := by
  obtain ⟨draws, -, drawn, -⟩ := pickOpen_spec want (pool.prune now).scriptIds.length []
    (pool.prune now) nodup_nil (by simp)
  refine ⟨draws, ?_⟩
  unfold nextScriptIds at result
  simp only at result
  split at result
  · cases result
  · split at result
    all_goals
      simp only [some.injEq, Prod.mk.injEq] at result
      rw [← result.2, drawn]

theorem scriptIds_nextScriptId (now : Nat) (pool : ScriptPool) :
    (nextScriptId now pool).2.scriptIds = pool.scriptIds := by
  obtain ⟨draws, -, after, -⟩ := drawOpen_spec (pool.prune now).scriptIds.length (pool.prune now)
  have drawn : (drawOpen (pool.prune now).scriptIds.length (pool.prune now)).2.scriptIds =
      pool.scriptIds := by
    rw [after]
    rfl
  unfold nextScriptId
  cases result : drawOpen (pool.prune now).scriptIds.length (pool.prune now) with
  | mk found behind =>
    rw [result] at drawn
    cases found with
    | some scriptId => simpa [result] using drawn
    | none =>
      simp only [result]
      split
      · exact drawn
      · split
        · exact drawn
        · exact drawn

end ScriptPool

namespace Rotation

def blacklistedUntil (rules : AutoBlacklist) (scriptId : Text) (rotation : Rotation) :
    Nat × RotationEvent → Option Nat
  | (now, .blacklist listed) => if listed = scriptId then some (now + blacklistCooldown) else none
  | (now, .strike struck) =>
    if struck = scriptId ∧ rotation.strikesOut rules now scriptId then some (now + rules.cooldown)
    else none
  | _ => none

def lastUntil (rules : AutoBlacklist) (scriptId : Text) :
    Rotation → Nat → List (Nat × RotationEvent) → Nat
  | _, until_, [] => until_
  | rotation, until_, event :: rest =>
    match rotation.step rules event with
    | some after =>
      lastUntil rules scriptId after
        ((rotation.blacklistedUntil rules scriptId event).getD until_) rest
    | none => until_

def Attended (scriptId : Text) (rotation : Rotation) (now : Nat) : Prop :=
  ∃ other ∈ rotation.pool.scriptIds, other ≠ scriptId ∧ rotation.pool.Usable now other

def Covered (rules : AutoBlacklist) (scriptId : Text) (until_ : Nat) (rotation : Rotation)
    (event : Nat × RotationEvent) : Prop :=
  event.1 < until_ ∧ rotation.Attended scriptId event.1 ∧
    ∀ after, rotation.step rules event = some after →
      after.Attended scriptId event.1 ∧ rotation.pool.scriptIdx ≤ after.pool.scriptIdx

def Listed (scriptId : Text) (until_ now : Nat) (rotation : Rotation) : Prop :=
  AList.lookup scriptId rotation.pool.blacklist = some until_ ∨
    (AList.lookup scriptId rotation.pool.blacklist = none ∧ until_ ≤ now)

theorem Listed.later {scriptId : Text} {until_ now later : Nat} {rotation : Rotation}
    (listed : Listed scriptId until_ now rotation) (after : now ≤ later) :
    Listed scriptId until_ later rotation :=
  listed.imp id fun gone => ⟨gone.1, gone.2.trans after⟩

theorem Listed.pruned {scriptId : Text} {until_ now : Nat} {rotation : Rotation} {pool : ScriptPool}
    (listed : Listed scriptId until_ now rotation)
    (pruned : pool.blacklist = (rotation.pool.prune now).blacklist) :
    Listed scriptId until_ now { rotation with pool := pool } := by
  unfold Listed
  simp only [pruned]
  cases looked : AList.lookup scriptId (rotation.pool.prune now).blacklist with
  | some kept =>
    obtain ⟨before, -⟩ := Table.lookup_retain_eq_some.mp looked
    rcases listed with there | ⟨nothing, -⟩
    · exact .inl (before.symm.trans there)
    · rw [nothing] at before
      cases before
  | none =>
    refine .inr ⟨rfl, ?_⟩
    rcases listed with there | ⟨-, passed⟩
    · -- An entry that has not run out would have been kept.
      by_contra later
      have kept : AList.lookup scriptId (rotation.pool.prune now).blacklist = some until_ :=
        Table.lookup_retain_eq_some.mpr ⟨there, by simpa using later⟩
      rw [looked] at kept
      cases kept
    · exact passed

section

variable {rules : AutoBlacklist} {scriptId : Text} {until_ : Nat}

variable {rotation : Rotation}

theorem Covered.next {now : Nat} (covered : Covered rules scriptId until_ rotation (now, .next)) :
    ∃ draws, (rotation.pool.nextScriptId now).2 = (rotation.pool.prune now).advance draws ∧
      rotation.pool.Usable now (rotation.pool.nextScriptId now).1 := by
  obtain ⟨-, ⟨other, configured, -, usable⟩, behind⟩ := covered
  exact ScriptPool.nextScriptId_drawn configured usable (behind _ rfl).2

theorem listed_blacklistScriptFor {now cooldown : Nat} {other : Text}
    {timeouts : Table Text (Nat × Nat)} (listed : Listed scriptId until_ now rotation) :
    Listed scriptId (if other = scriptId then now + cooldown else until_) now
      ⟨rotation.pool.blacklistScriptFor now other cooldown, timeouts⟩ := by
  unfold Listed ScriptPool.blacklistScriptFor
  by_cases same : other = scriptId
  · subst same
    rw [if_pos rfl]
    exact .inl (AList.lookup_insert _)
  · rw [if_neg same]
    simp only [AList.lookup_insert_ne (Ne.symm same)]
    exact listed

theorem Listed.step {after : Rotation} {event : Nat × RotationEvent} {listedUntil : Nat}
    (listed : Listed scriptId listedUntil event.1 rotation)
    (covered : Covered rules scriptId until_ rotation event)
    (taken : rotation.step rules event = some after) :
    Listed scriptId ((rotation.blacklistedUntil rules scriptId event).getD listedUntil) event.1
      after := by
  obtain ⟨now, event⟩ := event
  cases event with
  | blacklist other =>
    cases taken
    have entered := @listed_blacklistScriptFor scriptId listedUntil rotation now blacklistCooldown
      other rotation.scriptTimeouts listed
    unfold blacklistedUntil
    split at entered
    · rename_i same
      simp only [same, if_true, getD_some]
      exact same ▸ entered
    · rename_i differ
      simp only [differ, if_false, getD_none]
      exact entered
  | strike other =>
    cases taken
    unfold recordTimeoutStrike blacklistedUntil
    by_cases out : rotation.strikesOut rules now other = true
    · have entered := @listed_blacklistScriptFor scriptId listedUntil rotation now rules.cooldown
        other (AList.erase other rotation.scriptTimeouts) listed
      rw [if_pos out]
      by_cases same : other = scriptId
      · subst same
        simpa [out] using entered
      · simpa [same] using entered
    · rw [if_neg out]
      have none_ : ¬ (other = scriptId ∧ rotation.strikesOut rules now scriptId = true) := by
        rintro ⟨rfl, again⟩
        exact out again
      simp only [none_, if_false, getD_none]
      exact listed
  | success other =>
    cases taken
    exact listed
  | next =>
    obtain ⟨draws, drawn, -⟩ := covered.next
    cases taken
    exact listed.pruned (by rw [drawn]; rfl)
  | several want =>
    simp only [Rotation.step, map_eq_some_iff] at taken
    obtain ⟨⟨chosen, drawn⟩, result, rfl⟩ := taken
    obtain ⟨draws, rfl⟩ := ScriptPool.nextScriptIds_drawn result
    exact listed.pruned rfl
  | quota tracker =>
    cases taken
    exact listed

theorem Listed.run {events : List (Nat × RotationEvent)} {after : Rotation}
    {listedUntil now moment : Nat} (listed : Listed scriptId listedUntil now rotation)
    (ordered : (now :: events.map Prod.fst ++ [moment]).Pairwise (· ≤ ·))
    (covered : Permits (Rotation.step rules) (Covered rules scriptId until_) rotation events)
    (through : runSteps (Rotation.step rules) rotation events = some after) :
    Listed scriptId (lastUntil rules scriptId rotation listedUntil events) moment after := by
  induction events generalizing rotation listedUntil now with
  | nil =>
    simp only [runSteps, some.injEq] at through
    subst through
    exact listed.later (rel_of_pairwise_cons ordered (by simp))
  | cons event rest ih =>
    obtain ⟨first, later⟩ := List.pairwise_cons.mp ordered
    obtain ⟨here, behind⟩ := covered
    obtain ⟨next, taken, through⟩ := exists_step_of_runSteps through
    rw [taken] at behind
    have kept := (listed.later (first event.1 (by simp))).step here taken
    rw [lastUntil, taken]
    exact ih kept later behind through

def Honoured (rules : AutoBlacklist) (scriptId : Text) (until_ now : Nat) (rotation : Rotation) :
    Prop :=
  ∀ count after,
    Permits (Rotation.step rules) (Covered rules scriptId until_) rotation
      (List.replicate count (now, .next)) →
    runSteps (Rotation.step rules) rotation (List.replicate count (now, .next)) = some after →
    Covered rules scriptId until_ after (now, .next) →
    (after.pool.nextScriptId now).1 ≠ scriptId

theorem Covered.ne {now : Nat} (covered : Covered rules scriptId until_ rotation (now, .next))
    (unusable : ¬ rotation.pool.Usable now scriptId) :
    (rotation.pool.nextScriptId now).1 ≠ scriptId := by
  obtain ⟨draws, -, usable⟩ := covered.next
  intro same
  exact unusable (same ▸ usable)

theorem usable_of_choices {now count : Nat} {after : Rotation}
    (covered : Permits (Rotation.step rules) (Covered rules scriptId until_) rotation (List.replicate count (now, .next)))
    (through : runSteps (Rotation.step rules) rotation (List.replicate count (now, .next)) = some after)
    (usable : after.pool.Usable now scriptId) : rotation.pool.Usable now scriptId := by
  induction count generalizing rotation with
  | zero =>
    cases through
    exact usable
  | succ count ih =>
    obtain ⟨here, behind⟩ := covered
    obtain ⟨draws, drawn, -⟩ := here.next
    have next := ih behind through
    simp only [drawn] at next
    exact (ScriptPool.usable_prune_iff draws).mp next

theorem exists_choice {now : Nat} (inside : now < until_) (draws : Nat) :
    ∀ {rotation : Rotation}, draws < rotation.pool.scriptIds.length →
      rotation.pool.drawnAfter draws = scriptId → rotation.pool.Usable now scriptId →
      rotation.Attended scriptId now → rotation.pool.scriptIdx + draws + 1 < 2 ^ 64 →
      ∃ count after,
        Permits (Rotation.step rules) (Covered rules scriptId until_) rotation
          (List.replicate count (now, .next)) ∧
        runSteps (Rotation.step rules) rotation (List.replicate count (now, .next)) = some after ∧
        Covered rules scriptId until_ after (now, .next) ∧
        (after.pool.nextScriptId now).1 = scriptId := by
  classical
  induction draws using Nat.strongRecOn with
  | _ draws ih =>
    intro rotation few drawn usable attended room
    have some_ : ∃ count, rotation.pool.Usable now (rotation.pool.drawnAfter count) :=
      ⟨draws, drawn ▸ usable⟩
    have found := Nat.find_spec some_
    have least : Nat.find some_ ≤ draws := Nat.find_min' some_ (drawn ▸ usable)
    have chosen := ScriptPool.nextScriptId_first (Nat.lt_of_le_of_lt least few) found
      (fun earlier before => Nat.find_min some_ before)
    have covered : Covered rules scriptId until_ rotation (now, .next) := by
      refine ⟨inside, attended, ?_⟩
      intro after taken
      cases taken
      rw [chosen]
      obtain ⟨other, configured, differ, free⟩ := attended
      refine ⟨⟨other, configured, differ, (ScriptPool.usable_prune_iff _).mpr free⟩, ?_⟩
      have within : rotation.pool.scriptIdx + (Nat.find some_ + 1) < 2 ^ 64 := by omega
      show rotation.pool.scriptIdx ≤ (rotation.pool.scriptIdx + (Nat.find some_ + 1)) % 2 ^ 64
      omega
    by_cases here : rotation.pool.drawnAfter (Nat.find some_) = scriptId
    · exact ⟨0, rotation, trivial, rfl, covered, by rw [chosen, here]⟩
    · -- Another script comes first, and the draws that are left are fewer.
      have before : Nat.find some_ < draws := by
        rcases Nat.lt_or_eq_of_le least with less | same
        · exact less
        · exact absurd (same ▸ drawn) here
      set moved : Rotation :=
        { rotation with pool := (rotation.pool.nextScriptId now).2 } with movedIs
      have pool : moved.pool = (rotation.pool.prune now).advance (Nat.find some_ + 1) := by
        rw [movedIs, chosen]
      have counter : moved.pool.scriptIdx = rotation.pool.scriptIdx + (Nat.find some_ + 1) := by
        rw [pool]
        show (rotation.pool.scriptIdx + (Nat.find some_ + 1)) % 2 ^ 64 = _
        exact Nat.mod_eq_of_lt (by omega)
      have taken : rotation.step rules (now, .next) = some moved := rfl
      have left : moved.pool.drawnAfter (draws - (Nat.find some_ + 1)) = scriptId := by
        rw [← drawn, ScriptPool.drawnAfter, ScriptPool.drawnAfter, counter]
        have sum : rotation.pool.scriptIdx + (Nat.find some_ + 1) +
            (draws - (Nat.find some_ + 1)) = rotation.pool.scriptIdx + draws := by omega
        rw [sum, pool]
        rfl
      have configured : moved.pool.scriptIds.length = rotation.pool.scriptIds.length := by
        rw [pool]
        rfl
      obtain ⟨count, after, permitted, through, last, result⟩ :=
        ih (draws - (Nat.find some_ + 1)) (by omega) (by omega) left
          (by rw [pool]; exact (ScriptPool.usable_prune_iff _).mpr usable)
          (covered.2.2 moved taken).1 (by omega)
      exact ⟨count + 1, after, ⟨covered, permitted⟩, through, last, result⟩

theorem honoured_iff {now : Nat} (configured : scriptId ∈ rotation.pool.scriptIds)
    (inside : now < until_) (attended : rotation.Attended scriptId now)
    (room : rotation.pool.scriptIdx + rotation.pool.scriptIds.length < 2 ^ 64) :
    Honoured rules scriptId until_ now rotation ↔ ¬ rotation.pool.Usable now scriptId := by
  constructor
  · intro honoured usable
    obtain ⟨draws, few, drawn⟩ := ScriptPool.exists_drawnAfter configured (by
      show rotation.pool.scriptIdx ≤
        (rotation.pool.scriptIdx + rotation.pool.scriptIds.length) % 2 ^ 64
      omega)
    obtain ⟨count, after, permitted, through, covered, chosen⟩ :=
      @exists_choice rules scriptId until_ now inside draws rotation few drawn usable attended
        (by omega)
    exact honoured count after permitted through covered chosen
  · intro unusable count after permitted through covered
    exact covered.ne fun usable => unusable (usable_of_choices permitted through usable)

theorem Listed.usable_iff {listedUntil now : Nat}
    (listed : Listed scriptId listedUntil now rotation) :
    rotation.pool.Usable now scriptId ↔
      listedUntil ≤ now ∧ rotation.pool.tracker.isHardStopped scriptId = false := by
  refine and_congr ?_ Iff.rfl
  rcases listed with there | ⟨nothing, passed⟩
  · simp [there]
  · simp [nothing, passed]

theorem listed_of_blacklistedUntil {before start : Rotation} {event : Nat × RotationEvent}
    (entered : before.blacklistedUntil rules scriptId event = some until_)
    (taken : before.step rules event = some start) : Listed scriptId until_ event.1 start := by
  obtain ⟨now, event⟩ := event
  unfold blacklistedUntil at entered
  cases event with
  | blacklist other =>
    simp only [Rotation.step, some.injEq] at taken
    simp only [ite_none_right_eq_some, some.injEq] at entered
    obtain ⟨rfl, rfl⟩ := entered
    subst taken
    exact .inl (AList.lookup_insert _)
  | strike other =>
    simp only [Rotation.step, some.injEq] at taken
    simp only [ite_none_right_eq_some, some.injEq] at entered
    obtain ⟨⟨rfl, out⟩, rfl⟩ := entered
    subst taken
    rw [recordTimeoutStrike, if_pos out]
    exact .inl (AList.lookup_insert _)
  | success other => cases entered
  | next => cases entered
  | several want => cases entered
  | quota tracker => cases entered

theorem scriptIds_step {after : Rotation} {event : Nat × RotationEvent}
    (taken : rotation.step rules event = some after) :
    after.pool.scriptIds = rotation.pool.scriptIds := by
  obtain ⟨now, event⟩ := event
  cases event with
  | blacklist other | success other | quota tracker =>
    cases taken
    rfl
  | strike other =>
    cases taken
    unfold recordTimeoutStrike
    split <;> rfl
  | next =>
    cases taken
    exact ScriptPool.scriptIds_nextScriptId now rotation.pool
  | several want =>
    simp only [Rotation.step, map_eq_some_iff] at taken
    obtain ⟨⟨chosen, drawn⟩, result, rfl⟩ := taken
    obtain ⟨draws, rfl⟩ := ScriptPool.nextScriptIds_drawn result
    rfl

structure Cooling (rules : AutoBlacklist) (scriptId : Text) (until_ : Nat) (before : Rotation)
    (event : Nat × RotationEvent) (start : Rotation) (events : List (Nat × RotationEvent))
    (moment : Nat) (rotation : Rotation) : Prop where
  configured : scriptId ∈ before.pool.scriptIds
  entered : before.blacklistedUntil rules scriptId event = some until_
  taken : before.step rules event = some start
  ordered : (event.1 :: events.map Prod.fst ++ [moment]).Pairwise (· ≤ ·)
  covered : Permits (Rotation.step rules) (Covered rules scriptId until_) start events
  through : runSteps (Rotation.step rules) start events = some rotation
  inside : moment < until_
  attended : rotation.Attended scriptId moment
  room : rotation.pool.scriptIdx + rotation.pool.scriptIds.length < 2 ^ 64

/--
A cooldown is honoured at a moment exactly if the end entered last has not passed, or the script is
stopped anyway. A second, shorter entry makes it pass early.
-/
theorem cooldown_honoured_iff {rules : AutoBlacklist} {scriptId : Text} {until_ moment : Nat}
    {before start rotation : Rotation} {event : Nat × RotationEvent}
    {events : List (Nat × RotationEvent)}
    (cooling : Cooling rules scriptId until_ before event start events moment rotation) :
    Honoured rules scriptId until_ moment rotation ↔
      moment < lastUntil rules scriptId start until_ events ∨
        rotation.pool.tracker.isHardStopped scriptId = true := by
  have listed : Listed scriptId (lastUntil rules scriptId start until_ events) moment rotation :=
    (listed_of_blacklistedUntil cooling.entered cooling.taken).run cooling.ordered cooling.covered
      cooling.through
  have configured : scriptId ∈ rotation.pool.scriptIds := by
    have same : rotation.pool.scriptIds = start.pool.scriptIds :=
      (Reachable.begin.runSteps events cooling.covered cooling.through).invariant
        (fun reached => reached.pool.scriptIds = start.pool.scriptIds) rfl
        (fun kept _ taken => (scriptIds_step taken).trans kept)
    rw [same, scriptIds_step cooling.taken]
    exact cooling.configured
  rw [honoured_iff configured cooling.inside cooling.attended cooling.room, listed.usable_iff,
    not_and_or, Nat.not_le, Bool.not_eq_false]

theorem cooldown_honoured_fresh :
    Honoured defaultRules (lit "main") blacklistCooldown 0
      ⟨freshPool.blacklistScript 0 (lit "main"), ∅⟩ := by
  have free : (freshPool.blacklistScript 0 (lit "main")).Usable 0 (lit "spare") := by
    rw [← ScriptPool.isOpen_prune_iff]
    decide +kernel
  have cooling : Cooling defaultRules (lit "main") blacklistCooldown ⟨freshPool, ∅⟩
      (0, .blacklist (lit "main")) ⟨freshPool.blacklistScript 0 (lit "main"), ∅⟩ [] 0
      ⟨freshPool.blacklistScript 0 (lit "main"), ∅⟩ :=
    { configured := by simp [freshPool]
      entered := by simp [blacklistedUntil]
      taken := rfl
      ordered := by simp
      covered := trivial
      through := rfl
      inside := by decide
      attended := ⟨lit "spare", by decide +kernel, by decide +kernel, free⟩
      room := by decide +kernel }
  exact (cooldown_honoured_iff cooling).mpr (.inl (by decide))

def errorThenTimeouts : List (Nat × RotationEvent) :=
  (0, .blacklist (lit "main")) :: strikesAt [1, 1, 1]

theorem shorter_cooldown_replaces_longer :
    (⟨freshPool, ∅⟩ : Rotation).blacklistedUntil defaultRules (lit "main")
        (0, .blacklist (lit "main")) = some (600 * second) ∧
      (∀ count ≤ 4, (runSteps (Rotation.step defaultRules) ⟨freshPool, ∅⟩
        (errorThenTimeouts.take count)).map (fun rotation => rotation.pool.isOpen (lit "spare")) =
          some true) ∧
      (runSteps (Rotation.step defaultRules) ⟨freshPool, ∅⟩ errorThenTimeouts).map
        (fun rotation => (rotation.pool.nextScriptId (200 * second)).1) = some (lit "main") := by
  decide +kernel

end

end Rotation

end Gvpn
