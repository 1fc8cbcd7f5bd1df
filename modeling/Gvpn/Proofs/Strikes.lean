import Gvpn.Data.Runs
import Gvpn.Fronter.Rotation

/-! When timeouts take a script out of the rotation, and when they should. -/

namespace Gvpn

open List Option

namespace Rotation

def countStrike (rules : AutoBlacklist) (scriptId : Text) (rotation : Rotation) (since : List Nat) :
    Nat × RotationEvent → List Nat
  | (now, .strike struck) =>
    if struck = scriptId then
      if rotation.strikesOut rules now scriptId then [] else since ++ [now]
    else since
  | (_, .success succeeded) => if succeeded = scriptId then [] else since
  | _ => since

def strikesSince (rules : AutoBlacklist) (scriptId : Text) :
    Rotation → List Nat → List (Nat × RotationEvent) → List Nat
  | _, since, [] => since
  | rotation, since, event :: rest =>
    match rotation.step rules event with
    | some after =>
      strikesSince rules scriptId after (countStrike rules scriptId rotation since event) rest
    | none => since

def ShouldStrikeOut (rules : AutoBlacklist) (since : List Nat) (now : Nat) : Prop :=
  rules.strikes ≤ (since.filter fun time => now ≤ time + rules.window).length + 1

instance (rules : AutoBlacklist) (since : List Nat) (now : Nat) :
    Decidable (ShouldStrikeOut rules since now) := inferInstanceAs (Decidable (_ ≤ _))

variable {rules : AutoBlacklist} {scriptId : Text}

theorem strikesOut_iff {rotation : Rotation} {now : Nat} :
    rotation.strikesOut rules now scriptId = true ↔
      rules.strikes ≤ (strikeEntry rules now
        ((AList.lookup scriptId rotation.scriptTimeouts).getD (now, 0))).2 :=
  decide_eq_true_iff

structure Tracks (rules : AutoBlacklist) (entry : Nat × Nat) (earlier window : List Nat) : Prop where
  opened : window.head? = some entry.1
  counted : entry.2 = window.length
  few : window.length < rules.strikes
  behind : ∀ time ∈ window, entry.1 ≤ time
  reached : ∀ time ∈ window, time ≤ entry.1 + rules.window
  lost : rules.strikes ≤ 2 ∨ rules.window = 0 → ∀ time ∈ earlier, time + rules.window < entry.1

namespace Tracks

variable {entry : Nat × Nat} {earlier window : List Nat} {now : Nat}

theorem late (tracks : Tracks rules entry earlier window)
    (simple : rules.strikes ≤ 2 ∨ rules.window = 0) (late : rules.window < now - entry.1) :
    ∀ time ∈ window, time + rules.window < now := by
  intro time member
  rcases simple with few | instant
  · -- With two strikes needed at most, the window holds only the strike that opened it.
    have single : window.length = 1 := by
      have some_ := length_pos_of_mem member
      have below := tracks.few
      omega
    obtain ⟨only, rfl⟩ := List.length_eq_one_iff.mp single
    have opened := tracks.opened
    simp only [head?_cons, some.injEq] at opened
    rw [mem_singleton] at member
    omega
  · have close := tracks.reached time member
    omega

theorem strike (tracks : Tracks rules entry earlier window)
    (past : ∀ time ∈ earlier ++ window, time ≤ now)
    (stays : (strikeEntry rules now entry).2 < rules.strikes) :
    ∃ before inside, earlier ++ window ++ [now] = before ++ inside ∧
      Tracks rules (strikeEntry rules now entry) before inside := by
  have opening : entry.1 ≤ now :=
    past entry.1 (mem_append_right _ (mem_of_mem_head? tracks.opened))
  unfold strikeEntry at stays ⊢
  by_cases late : rules.window < now - entry.1
  · -- The strike opens a window of its own, and the old one is lost.
    rw [if_pos late] at stays ⊢
    refine ⟨earlier ++ window, [now], rfl, ?_⟩
    exact
      { opened := rfl
        counted := rfl
        few := stays
        behind := by simp
        reached := by simp
        lost := by
          intro simple time member
          rcases List.mem_append.mp member with old | recent
          · have gone := tracks.lost simple time old
            omega
          · exact tracks.late simple late time recent }
  · rw [if_neg late] at stays ⊢
    refine ⟨earlier, window ++ [now], append_assoc _ _ _, ?_⟩
    exact
      { opened := by rw [head?_append, tracks.opened]; rfl
        counted := by simp [tracks.counted]
        few := by simpa [tracks.counted] using stays
        behind := by
          intro time member
          rcases List.mem_append.mp member with old | new
          · exact tracks.behind time old
          · exact List.mem_singleton.mp new ▸ opening
        reached := by
          intro time member
          rcases List.mem_append.mp member with old | new
          · exact tracks.reached time old
          · rw [List.mem_singleton.mp new]
            omega
        lost := tracks.lost }

theorem shouldStrikeOut (tracks : Tracks rules entry earlier window)
    (out : rules.strikes ≤ (strikeEntry rules now entry).2) :
    ShouldStrikeOut rules (earlier ++ window) now := by
  unfold strikeEntry at out
  unfold ShouldStrikeOut
  by_cases late : rules.window < now - entry.1
  · rw [if_pos late] at out
    omega
  · rw [if_neg late] at out
    have recent : window.filter (fun time => now ≤ time + rules.window) = window := by
      rw [filter_eq_self]
      intro time member
      have later := tracks.behind time member
      rw [decide_eq_true_eq]
      omega
    rw [filter_append, length_append, recent]
    have counted := tracks.counted
    omega

theorem strikesOut_of_should (tracks : Tracks rules entry earlier window)
    (simple : rules.strikes ≤ 2 ∨ rules.window = 0) (past : ∀ time ∈ earlier ++ window, time ≤ now)
    (should : ShouldStrikeOut rules (earlier ++ window) now) :
    rules.strikes ≤ (strikeEntry rules now entry).2 := by
  have opening : entry.1 ≤ now :=
    past entry.1 (mem_append_right _ (mem_of_mem_head? tracks.opened))
  have gone : earlier.filter (fun time => now ≤ time + rules.window) = [] := by
    rw [filter_eq_nil_iff]
    intro time member
    have before := tracks.lost simple time member
    rw [decide_eq_true_eq]
    omega
  unfold ShouldStrikeOut at should
  rw [filter_append, gone, nil_append] at should
  unfold strikeEntry
  by_cases late : rules.window < now - entry.1
  · -- Nothing but the strike itself is recent.
    have old : window.filter (fun time => now ≤ time + rules.window) = [] := by
      rw [filter_eq_nil_iff]
      intro time member
      have before := tracks.late simple late time member
      rw [decide_eq_true_eq]
      omega
    rw [old, length_nil] at should
    rw [if_pos late]
    exact should
  · rw [if_neg late]
    have most := length_filter_le (fun time => decide (now ≤ time + rules.window)) window
    have counted := tracks.counted
    omega

end Tracks

def Records (rules : AutoBlacklist) (scriptId : Text) (rotation : Rotation) (since : List Nat) :
    Prop :=
  match AList.lookup scriptId rotation.scriptTimeouts with
  | none => since = []
  | some entry => ∃ earlier window, since = earlier ++ window ∧ Tracks rules entry earlier window

variable {since : List Nat}

theorem Records.congr {rotation after : Rotation} (records : Records rules scriptId rotation since)
    (same : AList.lookup scriptId after.scriptTimeouts = AList.lookup scriptId rotation.scriptTimeouts) :
    Records rules scriptId after since := by
  unfold Records at records ⊢
  rw [same]
  exact records

theorem records_erased (rotation : Rotation) (pool : ScriptPool) :
    Records rules scriptId ⟨pool, AList.erase scriptId rotation.scriptTimeouts⟩ [] := by
  unfold Records
  simp only [AList.lookup_erase]

theorem Records.strike {rotation : Rotation} {now : Nat}
    (records : Records rules scriptId rotation since) (past : ∀ time ∈ since, time ≤ now) :
    Records rules scriptId (rotation.recordTimeoutStrike rules now scriptId)
      (if rotation.strikesOut rules now scriptId then [] else since ++ [now]) := by
  unfold recordTimeoutStrike
  by_cases out : rotation.strikesOut rules now scriptId = true
  · rw [if_pos out, if_pos out]
    exact records_erased rotation _
  · rw [if_neg out, if_neg out]
    have stays : (rotation.struck rules now scriptId).2 < rules.strikes := by
      rw [strikesOut_iff] at out
      exact Nat.lt_of_not_le out
    unfold Records at records ⊢
    simp only [AList.lookup_insert]
    unfold struck at stays ⊢
    cases kept : AList.lookup scriptId rotation.scriptTimeouts with
    | none =>
      -- The first strike opens the window.
      rw [kept] at records stays
      subst records
      rw [getD_none] at stays ⊢
      have entry : strikeEntry rules now (now, 0) = (now, 1) := by simp [strikeEntry]
      rw [entry] at stays ⊢
      refine ⟨[], [now], rfl, ?_⟩
      exact
        { opened := rfl
          counted := rfl
          few := stays
          behind := by simp
          reached := by simp
          lost := by simp }
    | some entry =>
      rw [kept] at records stays
      obtain ⟨earlier, window, rfl, tracks⟩ := records
      exact tracks.strike past stays

theorem Records.step {rotation after : Rotation} {event : Nat × RotationEvent}
    (records : Records rules scriptId rotation since) (past : ∀ time ∈ since, time ≤ event.1)
    (taken : rotation.step rules event = some after) :
    Records rules scriptId after (countStrike rules scriptId rotation since event) := by
  obtain ⟨now, event⟩ := event
  cases event with
  | blacklist other | next | quota tracker =>
    cases taken
    exact records.congr rfl
  | several want =>
    simp only [Rotation.step, map_eq_some_iff] at taken
    obtain ⟨result, -, rfl⟩ := taken
    exact records.congr rfl
  | success other =>
    cases taken
    by_cases same : other = scriptId
    · subst same
      simp only [countStrike, if_true]
      exact records_erased rotation _
    · simp only [countStrike, if_neg same]
      exact records.congr (AList.lookup_erase_ne (Ne.symm same))
  | strike other =>
    cases taken
    by_cases same : other = scriptId
    · subst same
      simp only [countStrike, if_true]
      exact records.strike past
    · simp only [countStrike, if_neg same]
      apply records.congr
      unfold recordTimeoutStrike
      split
      · exact AList.lookup_erase_ne (Ne.symm same)
      · exact AList.lookup_insert_ne (Ne.symm same)

theorem countStrike_past {rotation : Rotation} {event : Nat × RotationEvent} {now : Nat}
    (past : ∀ time ∈ since, time ≤ now) (here : event.1 ≤ now) :
    ∀ time ∈ countStrike rules scriptId rotation since event, time ≤ now := by
  intro time member
  unfold countStrike at member
  split at member
  · split at member
    · split at member
      · cases member
      · rcases List.mem_append.mp member with old | new
        · exact past time old
        · exact List.mem_singleton.mp new ▸ here
    · exact past time member
  · split at member
    · cases member
    · exact past time member
  · exact past time member

theorem Records.run {events : List (Nat × RotationEvent)} {rotation after : Rotation} {now : Nat}
    (records : Records rules scriptId rotation since)
    (past : ∀ time ∈ since, ∀ moment ∈ events.map Prod.fst ++ [now], time ≤ moment)
    (ordered : (events.map Prod.fst ++ [now]).Pairwise (· ≤ ·))
    (through : runSteps (Rotation.step rules) rotation events = some after) :
    Records rules scriptId after (strikesSince rules scriptId rotation since events) ∧
      ∀ time ∈ strikesSince rules scriptId rotation since events, time ≤ now := by
  induction events generalizing rotation since with
  | nil =>
    simp only [runSteps, some.injEq] at through
    subst through
    exact ⟨records, fun time member => past time member now (by simp)⟩
  | cons event rest ih =>
    obtain ⟨first, later⟩ := List.pairwise_cons.mp ordered
    obtain ⟨next, taken, through⟩ := exists_step_of_runSteps through
    have kept := records.step (fun time member => past time member event.1 (by simp)) taken
    rw [strikesSince, taken]
    refine ih kept ?_ later through
    intro time member moment inside
    exact countStrike_past (fun earlier old => past earlier old moment (by simp [inside]))
      (first moment inside) time member

structure After (rules : AutoBlacklist) (pool : ScriptPool) (events : List (Nat × RotationEvent))
    (now : Nat) (rotation : Rotation) : Prop where
  ordered : (events.map Prod.fst ++ [now]).Pairwise (· ≤ ·)
  through : runSteps (Rotation.step rules) ⟨pool, ∅⟩ events = some rotation

theorem After.records {pool : ScriptPool} {events : List (Nat × RotationEvent)} {now : Nat}
    {rotation : Rotation} (after : After rules pool events now rotation) :
    Records rules scriptId rotation (strikesSince rules scriptId ⟨pool, ∅⟩ [] events) ∧
      ∀ time ∈ strikesSince rules scriptId ⟨pool, ∅⟩ [] events, time ≤ now := by
  have fresh : Records rules scriptId ⟨pool, ∅⟩ [] := by
    unfold Records
    simp only [AList.lookup_empty]
  exact fresh.run (by simp) after.ordered after.through

theorem Records.shouldStrikeOut {rotation : Rotation} {now : Nat}
    (records : Records rules scriptId rotation since)
    (out : rotation.strikesOut rules now scriptId = true) : ShouldStrikeOut rules since now := by
  unfold Records at records
  rw [strikesOut_iff] at out
  cases kept : AList.lookup scriptId rotation.scriptTimeouts with
  | none =>
    rw [kept] at out
    simp only [strikeEntry, getD_none, Nat.sub_self, Nat.not_lt_zero, if_false,
      Nat.zero_add] at out
    unfold ShouldStrikeOut
    omega
  | some entry =>
    rw [kept] at records out
    obtain ⟨earlier, window, rfl, tracks⟩ := records
    exact tracks.shouldStrikeOut out

theorem Records.strikesOut {rotation : Rotation} {now : Nat}
    (records : Records rules scriptId rotation since)
    (simple : rules.strikes ≤ 2 ∨ rules.window = 0) (past : ∀ time ∈ since, time ≤ now)
    (should : ShouldStrikeOut rules since now) : rotation.strikesOut rules now scriptId = true := by
  unfold Records at records
  rw [strikesOut_iff]
  cases kept : AList.lookup scriptId rotation.scriptTimeouts with
  | none =>
    rw [kept] at records
    subst records
    simpa [ShouldStrikeOut, strikeEntry] using should
  | some entry =>
    rw [kept] at records
    obtain ⟨earlier, window, rfl, tracks⟩ := records
    exact tracks.strikesOut_of_should simple past should

def Leads (rules : AutoBlacklist) (scriptId : Text) (rotation : Rotation) (since : List Nat)
    (events : List (Nat × RotationEvent)) (entry : Nat × Nat) (strikes : List Nat) : Prop :=
  ∃ after, runSteps (Rotation.step rules) rotation events = some after ∧
    AList.lookup scriptId after.scriptTimeouts = some entry ∧
    strikesSince rules scriptId rotation since events = strikes

theorem leads_strike {rotation : Rotation} {strikes : List Nat} {now : Nat}
    {rest : List (Nat × RotationEvent)} {entry : Nat × Nat}
    (stays : ¬ rotation.strikesOut rules now scriptId = true)
    (later : ∀ after : Rotation, AList.lookup scriptId after.scriptTimeouts = some (rotation.struck rules now scriptId) → Leads rules scriptId after (since ++ [now]) rest entry strikes) :
    Leads rules scriptId rotation since ((now, .strike scriptId) :: rest) entry strikes := by
  have taken : rotation.step rules (now, .strike scriptId) =
      some (rotation.recordTimeoutStrike rules now scriptId) := rfl
  have kept : AList.lookup scriptId (rotation.recordTimeoutStrike rules now scriptId).scriptTimeouts =
      some (rotation.struck rules now scriptId) := by
    rw [recordTimeoutStrike, if_neg stays]
    exact AList.lookup_insert _
  obtain ⟨after, through, found, counted⟩ := later _ kept
  refine ⟨after, ?_, found, ?_⟩
  · exact through
  · rw [strikesSince, taken]
    simp only [countStrike, if_true, if_neg stays]
    exact counted

theorem leads_replicate {moment opened : Nat} (inReach : ¬ rules.window < moment - opened)
    {rest : List (Nat × RotationEvent)} {entry : Nat × Nat} {strikes : List Nat} (more : Nat) :
    ∀ {rotation : Rotation} {since : List Nat} {count : Nat},
      AList.lookup scriptId rotation.scriptTimeouts = some (opened, count) →
      count + more < rules.strikes →
      (∀ after : Rotation,
        AList.lookup scriptId after.scriptTimeouts = some (opened, count + more) →
          Leads rules scriptId after (since ++ List.replicate more moment) rest entry strikes) →
      Leads rules scriptId rotation since
        (List.replicate more (moment, .strike scriptId) ++ rest) entry strikes := by
  induction more with
  | zero =>
    intro rotation since count kept _ later
    simpa using later rotation kept
  | succ more ih =>
    intro rotation since count kept few later
    have struck : rotation.struck rules moment scriptId = (opened, count + 1) := by
      simp [struck, kept, strikeEntry, inReach]
    refine leads_strike ?_ ?_
    · simp only [strikesOut, struck, decide_eq_true_eq]
      omega
    · intro after found
      rw [struck] at found
      refine ih found (by omega) ?_
      intro final last
      have rearranged : since ++ [moment] ++ List.replicate more moment =
          since ++ List.replicate (more + 1) moment := by
        rw [replicate_succ, append_assoc, singleton_append]
      rw [rearranged]
      exact later final (by rw [last, Nat.add_assoc, Nat.add_comm 1 more])

def splitBurst (rules : AutoBlacklist) (scriptId : Text) : List (Nat × RotationEvent) :=
  (0, .strike scriptId) ::
    (List.replicate (rules.strikes - 2) (rules.window, .strike scriptId) ++
      [(rules.window + 1, .strike scriptId)])

theorem leads_splitBurst (pool : ScriptPool) (enough : 3 ≤ rules.strikes) :
    Leads rules scriptId ⟨pool, ∅⟩ [] (splitBurst rules scriptId) (rules.window + 1, 1)
      (0 :: List.replicate (rules.strikes - 2) rules.window ++ [rules.window + 1]) := by
  have first : (⟨pool, ∅⟩ : Rotation).struck rules 0 scriptId = (0, 1) := by
    simp [struck, strikeEntry]
  refine leads_strike ?_ ?_
  · simp only [strikesOut, first, decide_eq_true_eq]
    omega
  · intro after kept
    rw [first] at kept
    refine leads_replicate (by omega) (rules.strikes - 2) kept (by omega) ?_
    intro later full
    have last : later.struck rules (rules.window + 1) scriptId = (rules.window + 1, 1) := by
      simp [struck, full, strikeEntry]
    refine leads_strike ?_ ?_
    · simp only [strikesOut, last, decide_eq_true_eq]
      omega
    · intro final found
      rw [last] at found
      exact ⟨final, rfl, found, by simp [strikesSince]⟩

theorem splitBurst_ordered :
    ((splitBurst rules scriptId).map Prod.fst ++ [rules.window + 1]).Pairwise (· ≤ ·) := by
  have times : (splitBurst rules scriptId).map Prod.fst ++ [rules.window + 1] =
      0 :: (List.replicate (rules.strikes - 2) rules.window ++
        [rules.window + 1, rules.window + 1]) := by
    simp [splitBurst]
  rw [times, pairwise_cons, pairwise_append]
  refine ⟨by simp, List.pairwise_replicate.mpr (.inr (Nat.le_refl _)), by simp, ?_⟩
  intro early inside late member
  rw [eq_of_mem_replicate inside]
  simp only [mem_cons, not_mem_nil, or_false, or_self_iff] at member
  omega

/--
A script is only taken out if it should be, but whenever it should be only if two strikes are enough
or one moment counts: the kept window is lost with the first late strike.
-/
theorem timeout_strikes_iff (rules : AutoBlacklist) (pool : ScriptPool) (scriptId : Text) :
    (∀ events now rotation, After rules pool events now rotation →
      rotation.strikesOut rules now scriptId = true →
        ShouldStrikeOut rules (strikesSince rules scriptId ⟨pool, ∅⟩ [] events) now) ∧
    ((∀ events now rotation, After rules pool events now rotation →
      (rotation.strikesOut rules now scriptId = true ↔
        ShouldStrikeOut rules (strikesSince rules scriptId ⟨pool, ∅⟩ [] events) now)) ↔
      rules.strikes ≤ 2 ∨ rules.window = 0) := by
  have sound : ∀ events now rotation, After rules pool events now rotation →
      rotation.strikesOut rules now scriptId = true →
        ShouldStrikeOut rules (strikesSince rules scriptId ⟨pool, ∅⟩ [] events) now :=
    fun _ _ _ after out => after.records.1.shouldStrikeOut out
  refine ⟨sound, ?_, ?_⟩
  · -- With more strikes and a longer window, the burst should take the script out but does not.
    intro agree
    by_contra complex
    have enough : 3 ≤ rules.strikes := by omega
    obtain ⟨rotation, through, kept, counted⟩ := @leads_splitBurst rules scriptId pool enough
    have should : ShouldStrikeOut rules
        (strikesSince rules scriptId ⟨pool, ∅⟩ [] (splitBurst rules scriptId))
        (rules.window + 1) := by
      rw [counted]
      have recent : (List.replicate (rules.strikes - 2) rules.window).filter
          (fun time => rules.window + 1 ≤ time + rules.window) =
          List.replicate (rules.strikes - 2) rules.window := by
        rw [filter_eq_self]
        intro time member
        rw [eq_of_mem_replicate member, decide_eq_true_eq]
        omega
      unfold ShouldStrikeOut
      rw [filter_append, filter_cons_of_neg (by simp), recent]
      simp
      omega
    have out := (agree _ _ _ ⟨splitBurst_ordered, through⟩).mpr should
    rw [strikesOut_iff, kept] at out
    simp [strikeEntry] at out
    omega
  · intro simple events now rotation after
    obtain ⟨records, past⟩ := @After.records rules scriptId pool events now rotation after
    exact ⟨sound events now rotation after, records.strikesOut simple past⟩

def freshPool : ScriptPool where
  scriptIds := [lit "main", lit "spare"]
  scriptIdx := 0
  blacklist := ∅
  tracker := ⟨{}, [lit "main", lit "spare"], 20000, 50⟩
  manned := by simp
  countable := by simp
  counted := by simp

def defaultRules : AutoBlacklist := .ofConfig 3 30 120

def strikesAt (seconds : List Nat) : List (Nat × RotationEvent) :=
  seconds.map fun at_ => (at_ * second, .strike (lit "main"))

theorem strikes_across_windows_missed :
    (runSteps (Rotation.step defaultRules) ⟨freshPool, ∅⟩ (strikesAt [0, 25, 31])).map
        (Rotation.strikesOut defaultRules (40 * second) (lit "main")) = some false ∧
      ShouldStrikeOut defaultRules
        (strikesSince defaultRules (lit "main") ⟨freshPool, ∅⟩ [] (strikesAt [0, 25, 31]))
        (40 * second) := by
  decide +kernel

end Rotation

end Gvpn
