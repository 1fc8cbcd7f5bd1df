import Gvpn.Fronter.Scripts

/-! Which scripts are chosen, whatever is blacklisted or stopped. -/

namespace Gvpn

open List Option

theorem exists_add_mod_eq (start : Nat) {place count : Nat} (below : place < count) :
    ∃ steps, steps < count ∧ (start + steps) % count = place := by
  have positive : 0 < count := by omega
  have rest := Nat.mod_lt start positive
  by_cases ahead : start % count ≤ place
  · refine ⟨place - start % count, by omega, ?_⟩
    rw [Nat.add_mod, Nat.mod_eq_of_lt (show place - start % count < count by omega)]
    rw [show start % count + (place - start % count) = place by omega, Nat.mod_eq_of_lt below]
  · refine ⟨place + count - start % count, by omega, ?_⟩
    rw [Nat.add_mod, Nat.mod_eq_of_lt (show place + count - start % count < count by omega)]
    rw [show start % count + (place + count - start % count) = place + count by omega,
      Nat.add_mod_right, Nat.mod_eq_of_lt below]

namespace ScriptPool

def Usable (pool : ScriptPool) (now : Nat) (scriptId : Text) : Prop :=
  (∀ until_, AList.lookup scriptId pool.blacklist = some until_ → until_ ≤ now) ∧
    pool.tracker.isHardStopped scriptId = false

variable {pool : ScriptPool} {now : Nat} {scriptId : Text}

theorem isOpen_prune_iff :
    (pool.prune now).isOpen scriptId = true ↔ pool.Usable now scriptId := by
  unfold isOpen Usable
  rw [Bool.and_eq_true, isNone_iff_eq_none, Bool.not_eq_true']
  refine and_congr ?_ Iff.rfl
  constructor
  · -- An entry that has not run out would still be there.
    intro nothing until_ listed
    by_contra later
    have kept : AList.lookup scriptId (pool.prune now).blacklist = some until_ :=
      Table.lookup_retain_eq_some.mpr ⟨listed, by simpa using later⟩
    rw [nothing] at kept
    simp at kept
  · intro expired
    cases looked : AList.lookup scriptId (pool.prune now).blacklist with
    | none => rfl
    | some until_ =>
      obtain ⟨listed, later⟩ := Table.lookup_retain_eq_some.mp looked
      have passed := expired until_ listed
      rw [decide_eq_true_eq] at later
      omega

@[simp]
theorem advance_zero (pool : ScriptPool) : pool.advance 0 = pool := by
  unfold advance
  simp only [Nat.add_zero, Nat.mod_eq_of_lt pool.counted]

@[simp]
theorem advance_advance (pool : ScriptPool) (first second : Nat) :
    (pool.advance first).advance second = pool.advance (first + second) := by
  unfold advance
  simp only [Nat.mod_add_mod, Nat.add_assoc]

variable (draws : Nat)

@[simp]
theorem isOpen_advance (pool : ScriptPool) (scriptId : Text) :
    (pool.advance draws).isOpen scriptId = pool.isOpen scriptId := rfl

@[simp]
theorem idAt_advance (pool : ScriptPool) (idx : Nat) :
    (pool.advance draws).idAt idx = pool.idAt idx := rfl

def drawnAfter (pool : ScriptPool) (draws : Nat) : Text :=
  pool.idAt ((pool.scriptIdx + draws) % 2 ^ 64)

theorem idAt_scriptIdx (pool : ScriptPool) : pool.idAt pool.scriptIdx = pool.drawnAfter 0 := by
  rw [drawnAfter, Nat.add_zero, Nat.mod_eq_of_lt pool.counted]

theorem drawnAfter_advance (pool : ScriptPool) :
    (pool.advance 1).drawnAfter draws = pool.drawnAfter (draws + 1) := by
  have further : (pool.advance 1).scriptIdx = (pool.scriptIdx + 1) % 2 ^ 64 := rfl
  rw [drawnAfter, drawnAfter, idAt_advance, further, Nat.mod_add_mod, Nat.add_assoc,
    Nat.add_comm 1]

theorem forall_drawnAfter_succ {rounds : Nat} {holds : Text → Prop} :
    (∀ earlier, earlier < rounds + 1 → holds (pool.drawnAfter earlier)) ↔
      holds (pool.drawnAfter 0) ∧
        ∀ earlier, earlier < rounds → holds ((pool.advance 1).drawnAfter earlier) := by
  simp only [drawnAfter_advance]
  exact Nat.forall_lt_succ_left

theorem drawnAfter_mem (pool : ScriptPool) :
    pool.drawnAfter draws ∈ pool.scriptIds := List.get_mem _ _

theorem exists_drawnAfter (listed : scriptId ∈ pool.scriptIds)
    (steady : pool.scriptIdx ≤ (pool.advance pool.scriptIds.length).scriptIdx) :
    ∃ draws, draws < pool.scriptIds.length ∧ pool.drawnAfter draws = scriptId := by
  obtain ⟨place, below, placed⟩ := getElem_of_mem listed
  obtain ⟨draws, few, here⟩ := exists_add_mod_eq pool.scriptIdx below
  refine ⟨draws, few, ?_⟩
  have inRange : pool.scriptIdx + draws < 2 ^ 64 := by
    have count := pool.countable
    simp only [advance] at steady
    omega
  rw [drawnAfter, Nat.mod_eq_of_lt inRange, idAt, get_eq_getElem]
  simp only [here, placed]

theorem drawOpen_spec (rounds : Nat) (pool : ScriptPool) :
    ∃ draws, draws ≤ rounds ∧ (drawOpen rounds pool).2 = pool.advance draws ∧
      match (drawOpen rounds pool).1 with
      | some scriptId => pool.isOpen scriptId = true
      | none => draws = rounds ∧
        ∀ earlier, earlier < rounds → pool.isOpen (pool.drawnAfter earlier) = false := by
  induction rounds generalizing pool with
  | zero => exact ⟨0, Nat.le_refl 0, by simp [drawOpen], rfl, by simp⟩
  | succ rounds ih =>
    unfold drawOpen
    simp only [isOpen_advance, idAt_scriptIdx]
    by_cases open_ : pool.isOpen (pool.drawnAfter 0) = true
    · rw [if_pos open_]
      exact ⟨1, by omega, rfl, open_⟩
    · rw [if_neg open_]
      obtain ⟨draws, few, after, drawn⟩ := ih (pool.advance 1)
      refine ⟨draws + 1, by omega, ?_, ?_⟩
      · rw [after, advance_advance, Nat.add_comm]
      · cases result : (drawOpen rounds (pool.advance 1)).1 with
        | some scriptId =>
          rw [result] at drawn
          exact drawn
        | none =>
          rw [result] at drawn
          refine ⟨by omega, ?_⟩
          rw [@forall_drawnAfter_succ pool rounds fun scriptId => pool.isOpen scriptId = false]
          exact ⟨by simpa using open_, drawn.2⟩

variable {picked : List Text}

theorem picked_append (distinct : picked.Nodup)
    (chosen : ∀ earlier ∈ picked, earlier ∈ pool.scriptIds ∧ pool.isOpen earlier = true)
    (new : scriptId ∉ picked) (listed : scriptId ∈ pool.scriptIds)
    (open_ : pool.isOpen scriptId = true) :
    (picked ++ [scriptId]).Nodup ∧
      ∀ earlier ∈ picked ++ [scriptId], earlier ∈ pool.scriptIds ∧ pool.isOpen earlier = true := by
  constructor
  · rw [nodup_append]
    refine ⟨distinct, by simp, ?_⟩
    intro first inside second last same
    rw [mem_singleton] at last
    rw [same, last] at inside
    exact new inside
  · intro earlier member
    rw [mem_append, mem_singleton] at member
    rcases member with before | rfl
    · exact chosen earlier before
    · exact ⟨listed, open_⟩

theorem pickOpen_spec (want rounds : Nat) (picked : List Text) (pool : ScriptPool)
    (distinct : picked.Nodup)
    (chosen : ∀ scriptId ∈ picked, scriptId ∈ pool.scriptIds ∧ pool.isOpen scriptId = true) :
    ∃ draws, draws ≤ rounds ∧ (pickOpen want rounds picked pool).2 = pool.advance draws ∧
      (pickOpen want rounds picked pool).1.Nodup ∧
      (∀ scriptId ∈ (pickOpen want rounds picked pool).1,
        scriptId ∈ pool.scriptIds ∧ pool.isOpen scriptId = true) ∧
      picked ⊆ (pickOpen want rounds picked pool).1 ∧
      (pickOpen want rounds picked pool).1.length ≤ max want picked.length ∧
      ((pickOpen want rounds picked pool).1.length < want → draws = rounds ∧
        ∀ earlier, earlier < rounds → pool.isOpen (pool.drawnAfter earlier) = true →
          pool.drawnAfter earlier ∈ (pickOpen want rounds picked pool).1) := by
  induction rounds generalizing picked pool with
  | zero =>
    exact ⟨0, Nat.le_refl 0, by simp [pickOpen], distinct, chosen, fun _ member => member,
      Nat.le_max_right _ _, fun _ => ⟨rfl, by simp⟩⟩
  | succ rounds ih =>
    unfold pickOpen
    by_cases enough : want ≤ picked.length
    · rw [if_pos enough]
      exact ⟨0, by omega, by simp, distinct, chosen, fun _ member => member,
        Nat.le_max_right _ _, fun few => absurd few (by simpa using enough)⟩
    · rw [if_neg enough]
      simp only [isOpen_advance, idAt_scriptIdx]
      by_cases taken : (pool.isOpen (pool.drawnAfter 0) && !picked.contains (pool.drawnAfter 0)) =
          true
      · -- The script that is drawn is put behind those picked before.
        rw [if_pos taken]
        rw [Bool.and_eq_true, Bool.not_eq_true', contains_eq_mem, decide_eq_false_iff_not]
          at taken
        obtain ⟨distinctNow, chosenNow⟩ :=
          picked_append distinct chosen taken.2 (pool.drawnAfter_mem 0) taken.1
        obtain ⟨draws, few, after, once, open_, kept, length, complete⟩ :=
          ih _ (pool.advance 1) distinctNow chosenNow
        refine ⟨draws + 1, by omega, ?_, once, open_, ?_, ?_, ?_⟩
        · rw [after, advance_advance, Nat.add_comm]
        · exact fun scriptId member => kept (by simp [member])
        · rw [length_append, length_singleton] at length
          omega
        · intro short
          obtain ⟨all, found⟩ := complete short
          refine ⟨by omega, ?_⟩
          rw [@forall_drawnAfter_succ pool rounds fun scriptId => pool.isOpen scriptId = true →
            scriptId ∈ _]
          exact ⟨fun _ => kept (by simp), found⟩
      · rw [if_neg taken]
        obtain ⟨draws, few, after, once, open_, kept, length, complete⟩ :=
          ih picked (pool.advance 1) distinct chosen
        refine ⟨draws + 1, by omega, ?_, once, open_, kept, length, ?_⟩
        · rw [after, advance_advance, Nat.add_comm]
        · intro short
          obtain ⟨all, found⟩ := complete short
          refine ⟨by omega, ?_⟩
          rw [Bool.and_eq_true, not_and, Bool.not_eq_true', contains_eq_mem,
            decide_eq_false_iff_not, not_not] at taken
          rw [@forall_drawnAfter_succ pool rounds fun scriptId => pool.isOpen scriptId = true →
            scriptId ∈ _]
          exact ⟨fun drawn => kept (taken drawn), found⟩

def SelectionLaw (pool : ScriptPool) (now : Nat) (chosen : List Text) : Prop :=
  ((∃ scriptId ∈ pool.scriptIds, pool.Usable now scriptId) →
      ∀ scriptId ∈ chosen, pool.Usable now scriptId) ∧
    ((∃ scriptId ∈ pool.scriptIds, pool.tracker.isHardStopped scriptId = false) →
      ∀ scriptId ∈ chosen, pool.tracker.isHardStopped scriptId = false)

theorem selectionLaw_of_usable {chosen : List Text}
    (usable : ∀ scriptId ∈ chosen, pool.Usable now scriptId) : pool.SelectionLaw now chosen :=
  ⟨fun _ => usable, fun _ scriptId member => (usable scriptId member).2⟩

theorem exists_lookup_of_not_open (closed : pool.isOpen scriptId = false)
    (running : pool.tracker.isHardStopped scriptId = false) :
    ∃ until_, AList.lookup scriptId pool.blacklist = some until_ := by
  cases looked : AList.lookup scriptId pool.blacklist with
  | none => simp [isOpen, looked, running] at closed
  | some until_ => exact ⟨until_, rfl⟩

theorem isOpen_eq_false_of_drawOpen
    (nothing : (drawOpen (pool.prune now).scriptIds.length (pool.prune now)).1 = none)
    (steady : pool.scriptIdx ≤ (nextScriptId now pool).2.scriptIdx) :
    ∀ scriptId ∈ pool.scriptIds, (pool.prune now).isOpen scriptId = false := by
  obtain ⟨draws, few, after, drawn⟩ := drawOpen_spec (pool.prune now).scriptIds.length (pool.prune now)
  rw [nothing] at drawn
  obtain ⟨all, closed⟩ := drawn
  subst all
  have counter : pool.scriptIdx ≤
      ((pool.prune now).advance (pool.prune now).scriptIds.length).scriptIdx := by
    rw [← after]
    unfold nextScriptId at steady
    cases result : drawOpen (pool.prune now).scriptIds.length (pool.prune now) with
    | mk found behind =>
      rw [result] at nothing
      subst nothing
      simp only [result] at steady
      split at steady
      · exact steady
      · split at steady
        · exact steady
        · exact steady
  intro scriptId listed
  obtain ⟨place, below, rfl⟩ := @exists_drawnAfter (pool.prune now) scriptId listed counter
  exact closed place below

theorem nextScriptId_drawn {free : Text}
    (listed : free ∈ pool.scriptIds) (usable : pool.Usable now free)
    (steady : pool.scriptIdx ≤ (nextScriptId now pool).2.scriptIdx) :
    ∃ draws, (nextScriptId now pool).2 = (pool.prune now).advance draws ∧
      pool.Usable now (nextScriptId now pool).1 := by
  obtain ⟨draws, few, after, drawn⟩ := drawOpen_spec (pool.prune now).scriptIds.length (pool.prune now)
  cases result : drawOpen (pool.prune now).scriptIds.length (pool.prune now) with
  | mk found behind =>
    cases found with
    | none =>
      have closed := isOpen_eq_false_of_drawOpen (by rw [result]) steady free listed
      rw [isOpen_prune_iff.mpr usable] at closed
      cases closed
    | some scriptId =>
      rw [result] at drawn after
      simp only [nextScriptId, result]
      exact ⟨draws, after, isOpen_prune_iff.mp drawn⟩

theorem nextScriptId_law (steady : pool.scriptIdx ≤ (nextScriptId now pool).2.scriptIdx) :
    pool.SelectionLaw now [(nextScriptId now pool).1] := by
  by_cases some_ : ∃ scriptId ∈ pool.scriptIds, pool.Usable now scriptId
  · obtain ⟨scriptId, listed, usable⟩ := some_
    obtain ⟨draws, -, drawn⟩ := nextScriptId_drawn listed usable steady
    apply selectionLaw_of_usable
    simpa using drawn
  · refine ⟨fun better => absurd better some_, ?_⟩
    rintro ⟨running, listed, notStopped⟩
    obtain ⟨draws, few, after, drawn⟩ :=
      drawOpen_spec (pool.prune now).scriptIds.length (pool.prune now)
    cases result : drawOpen (pool.prune now).scriptIds.length (pool.prune now) with
    | mk found behind =>
      rw [result] at drawn after
      cases found with
      | some scriptId =>
        simp only [nextScriptId, result, mem_singleton, forall_eq]
        exact (isOpen_prune_iff.mp drawn).2
      | none =>
        have closed := isOpen_eq_false_of_drawOpen (by rw [result]) steady running listed
        subst after
        obtain ⟨until_, there⟩ := exists_lookup_of_not_open closed notStopped
        simp only [nextScriptId, result]
        split
        · rename_i scriptId least
          obtain ⟨value, kept, -⟩ := Table.exists_of_minByKey least
          have passed : (!pool.tracker.isHardStopped scriptId) = true :=
            (Table.lookup_retainKeys_eq_some.mp kept).2
          simpa using passed
        · rename_i missing
          have nothing := Table.lookup_eq_none_of_minByKey missing running
          have passes : (!pool.tracker.isHardStopped running) = true := by simp [notStopped]
          have kept := nothing.symm.trans (Table.lookup_retainKeys_eq_some.mpr ⟨there, passes⟩)
          simp at kept

variable {want : Nat}

theorem pickOpen_ne_nil
    (listed : scriptId ∈ pool.scriptIds) (usable : pool.Usable now scriptId) (some_ : 0 < want)
    (steady : pool.scriptIdx ≤
      (pickOpen want pool.scriptIds.length [] (pool.prune now)).2.scriptIdx) :
    (pickOpen want pool.scriptIds.length [] (pool.prune now)).1 ≠ [] := by
  obtain ⟨draws, few, after, -, -, -, -, complete⟩ :=
    pickOpen_spec want pool.scriptIds.length [] (pool.prune now) nodup_nil (by simp)
  intro nothing
  rw [nothing] at complete
  obtain ⟨all, found⟩ := complete some_
  rw [after, all] at steady
  obtain ⟨place, below, rfl⟩ := @exists_drawnAfter (pool.prune now) scriptId listed steady
  exact not_mem_nil (found place below (isOpen_prune_iff.mpr usable))

def PickLaw (pool : ScriptPool) (now want : Nat) (chosen : List Text) : Prop :=
  pool.SelectionLaw now chosen ∧ chosen.Nodup ∧ 1 ≤ chosen.length ∧ chosen.length ≤ max 1 want

def FirstMayServe (pool : ScriptPool) (now : Nat) : Prop :=
  (pool.Usable now (pool.scriptIds.head pool.manned) ∨
      ∀ scriptId ∈ pool.scriptIds, ¬ pool.Usable now scriptId) ∧
    (pool.tracker.isHardStopped (pool.scriptIds.head pool.manned) = false ∨
      ∀ scriptId ∈ pool.scriptIds, pool.tracker.isHardStopped scriptId = true)

theorem selectionLaw_first_iff (pool : ScriptPool) (now : Nat) :
    pool.SelectionLaw now [pool.scriptIds.head pool.manned] ↔ pool.FirstMayServe now := by
  have either : ∀ wanted served : Prop, (wanted → served) ↔ served ∨ ¬ wanted := fun _ _ => by
    rw [imp_iff_not_or, or_comm]
  unfold SelectionLaw FirstMayServe
  rw [either, either]
  simp only [mem_singleton, forall_eq, not_exists, not_and, Bool.not_eq_false]

theorem pickLaw_first_iff (pool : ScriptPool) (now want : Nat) :
    pool.PickLaw now want [pool.scriptIds.head pool.manned] ↔ pool.FirstMayServe now := by
  rw [← selectionLaw_first_iff]
  constructor
  · intro law
    exact law.1
  · intro law
    exact ⟨law, by simp, by simp, by simp⟩

theorem nextScriptIds_eq (small : stringSize * want < 2 ^ 63) {drawn : ScriptPool}
    (result : pickOpen want pool.scriptIds.length [] (pool.prune now) = (picked, drawn)) :
    nextScriptIds now want pool =
      if picked = [] then some ([drawn.scriptIds.head drawn.manned], drawn)
      else some (picked, drawn) := by
  have same : pickOpen want (pool.prune now).scriptIds.length [] (pool.prune now) =
      (picked, drawn) := result
  simp only [nextScriptIds, if_neg (Nat.not_le.mpr small), same]

theorem pickLaw_of_picked (some_ : picked ≠ []) (once : picked.Nodup) (short : picked.length ≤ want)
    (usable : ∀ scriptId ∈ picked, pool.Usable now scriptId) : pool.PickLaw now want picked := by
  have positive := length_pos_of_ne_nil some_
  exact ⟨selectionLaw_of_usable usable, once, positive, by omega⟩

/--
No script is better than the chosen ones, exactly unless the first one stands in: when none can be
used or none is wanted, stopped or not.
-/
theorem script_selection (pool : ScriptPool) (now want : Nat) :
    (pool.scriptIdx ≤ (nextScriptId now pool).2.scriptIdx →
        pool.SelectionLaw now [(nextScriptId now pool).1]) ∧
      ((∀ chosen after, nextScriptIds now want pool = some (chosen, after) →
          pool.scriptIdx ≤ after.scriptIdx) →
        ((∃ chosen after, nextScriptIds now want pool = some (chosen, after) ∧
            pool.PickLaw now want chosen) ↔
          stringSize * want < 2 ^ 63 ∧
            ((0 < want ∧ ∃ scriptId ∈ pool.scriptIds, pool.Usable now scriptId) ∨
              pool.FirstMayServe now))) := by
  refine ⟨nextScriptId_law, ?_⟩
  intro steady
  by_cases large : 2 ^ 63 ≤ stringSize * want
  · -- The list of that many scripts is not even made.
    simp only [nextScriptIds, large, if_true]
    constructor
    · rintro ⟨chosen, after, nothing, -⟩
      simp at nothing
    · rintro ⟨small, -⟩
      omega
  · have small : stringSize * want < 2 ^ 63 := by omega
    obtain ⟨draws, few, after, once, open_, -, length, -⟩ :=
      pickOpen_spec want pool.scriptIds.length [] (pool.prune now) nodup_nil (by simp)
    cases result : pickOpen want pool.scriptIds.length [] (pool.prune now) with
    | mk picked drawn =>
      rw [result] at after once open_ length
      have unfolded := nextScriptIds_eq small result
      subst after
      by_cases nothing : picked = []
      · -- The first script stands in, which is as asked only where it may.
        rw [if_pos nothing] at unfolded
        have counter := steady _ _ unfolded
        have first := pool.pickLaw_first_iff now want
        rw [unfolded]
        constructor
        · rintro ⟨chosen, behind, same, law⟩
          rw [some.injEq, Prod.mk.injEq] at same
          rw [← same.1] at law
          exact ⟨small, .inr (first.mp law)⟩
        · rintro ⟨-, better | serves⟩
          · obtain ⟨some_, scriptId, listed, usable⟩ := better
            have picks := pickOpen_ne_nil listed usable some_ (by rw [result]; exact counter)
            rw [result] at picks
            exact absurd nothing picks
          · exact ⟨_, _, rfl, first.mpr serves⟩
      · -- Each of the picked scripts can be used, so nothing better is to be had.
        rw [if_neg nothing] at unfolded
        rw [unfolded]
        have positive := length_pos_of_ne_nil nothing
        have short : picked.length ≤ want := by simpa using length
        have usable : ∀ scriptId ∈ picked, pool.Usable now scriptId :=
          fun scriptId member => isOpen_prune_iff.mp (open_ scriptId member).2
        constructor
        · intro _
          obtain ⟨scriptId, member⟩ := exists_mem_of_ne_nil picked nothing
          exact ⟨small, .inl ⟨by omega, scriptId, (open_ scriptId member).1, usable scriptId member⟩⟩
        · intro _
          exact ⟨_, _, rfl, pickLaw_of_picked nothing once short usable⟩

def twoScripts : ScriptPool where
  scriptIds := [lit "first", lit "second"]
  scriptIdx := 5
  blacklist := AList.insert (lit "second") 10 ∅
  tracker := QuotaTracker.markExhausted ⟨{}, [lit "first", lit "second"], 20000, 50⟩ (lit "first")
    (lit "quota spent")
  manned := by simp
  countable := by simp
  counted := by simp

theorem script_selection_second :
    twoScripts.SelectionLaw 10 [lit "second"] ∧
      ∃ chosen after, nextScriptIds 10 2 twoScripts = some (chosen, after) ∧
        twoScripts.PickLaw 10 2 chosen := by
  obtain ⟨one, several⟩ := script_selection twoScripts 10 2
  have chosen : (nextScriptId 10 twoScripts).1 = lit "second" := by decide +kernel
  have counter : (nextScriptId 10 twoScripts).2.scriptIdx = 6 := by decide +kernel
  have pair : (nextScriptIds 10 2 twoScripts).map (fun result => result.2.scriptIdx) = some 7 := by
    decide +kernel
  have usable : twoScripts.Usable 10 (lit "second") := by
    rw [← isOpen_prune_iff]
    decide +kernel
  refine ⟨?_, ?_⟩
  · rw [← chosen]
    exact one (by rw [counter]; decide)
  · have steady : ∀ picked after, nextScriptIds 10 2 twoScripts = some (picked, after) →
        twoScripts.scriptIdx ≤ after.scriptIdx := by
      intro picked after result
      rw [result, map_some, some.injEq] at pair
      rw [pair]
      decide
    exact (several steady).mpr
      ⟨by simp [stringSize], .inl ⟨by decide, lit "second", by simp [twoScripts], usable⟩⟩

theorem stopped_script_is_picked :
    (nextScriptIds 0 2 twoScripts).map Prod.fst = some [lit "first"] ∧
      twoScripts.tracker.isHardStopped (lit "first") = true ∧
      twoScripts.tracker.isHardStopped (lit "second") = false ∧
      (nextScriptId 0 twoScripts).1 = lit "second" := by
  decide +kernel

end ScriptPool

end Gvpn
