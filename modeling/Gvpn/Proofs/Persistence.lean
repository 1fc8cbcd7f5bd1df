import Gvpn.Fronter.QuotaStore

/-! Whether the file holds the quotas of the run as soon as no change is counted. -/

namespace Gvpn

def SaveStage.pending : SaveStage → Bool
  | .counting _ | .saving => true
  | _ => false

theorem QuotaTracker.rollExpiredWindows_eq_self {tracker : QuotaTracker} {now : Nat}
    (unrolled : (tracker.state.buckets.entries.any fun entry =>
      entry.2.nextResetAt.any (decide <| · ≤ now)) = false) :
    tracker.rollExpiredWindows now = tracker := by
  have same : Table.mapValues (fun bucket : AccountBucket => bucket.rollExpired now)
      tracker.state.buckets = tracker.state.buckets := by
    apply Table.mapValues_eq_self
    intro entry member
    have running := List.any_eq_false.mp unrolled entry member
    unfold AccountBucket.rollExpired
    split
    · rename_i resetAt window
      simp only [window, Option.any_some, decide_eq_true_eq] at running
      exact if_neg running
    · rfl
  rw [rollExpiredWindows, same]

namespace SharedQuota

def Unraced (state : SharedQuota) : SharedQuotaEvent → Prop
  | .advance id => ∀ saves, state.tasks[id]? = some (.counting saves) →
      .clearing ∉ state.tasks ∨ state.saved = state.tracker.state
  | .begin _ => True

def Covered (state : SharedQuota) : Prop :=
  state.saved = state.tracker.state ∨
    (∃ (id : Nat) (stage : SaveStage), state.tasks[id]? = some stage ∧ stage.pending = true) ∨
    (0 < state.dirtyCount ∧ .clearing ∉ state.tasks)

variable {state after : SharedQuota} {event : SharedQuotaEvent}

theorem Covered.enter (covered : state.Covered) {stage : SaveStage} (other : stage ≠ .clearing) :
    (state.enter state.tracker stage).Covered := by
  rcases covered with same | ⟨id, stage, found, pending⟩ | ⟨counted, clear⟩
  · exact .inl same
  · have inside := (List.getElem?_eq_some_iff.mp found).1
    exact .inr (.inl ⟨id, stage, (List.getElem?_append_left inside).trans found, pending⟩)
  · refine .inr (.inr ⟨counted, ?_⟩)
    simpa [SharedQuota.enter, other.symm] using clear

theorem covered_enter {tracker : QuotaTracker} {stage : SaveStage} (pending : stage.pending = true) :
    (state.enter tracker stage).Covered :=
  .inr (.inl ⟨_, stage, List.getElem?_concat_length, pending⟩)

theorem Covered.begin (covered : state.Covered) {event : QuotaEvent}
    (taken : state.begin event = some after) : after.Covered := by
  cases event with
  | load => cases taken
  | save =>
    cases taken
    apply covered.enter
    split <;> simp
  | attempt | success | failure | exhaust =>
    cases taken
    exact covered_enter rfl
  | roll now =>
    cases taken
    split
    · exact covered_enter rfl
    · rename_i unrolled
      rw [QuotaTracker.rollExpiredWindows_eq_self (Bool.not_eq_true _ ▸ unrolled)]
      exact covered.enter (by simp)

theorem Covered.advance (covered : state.Covered) {id : Nat} (unraced : state.Unraced (.advance id))
    (taken : state.step (.advance id) = some after) : after.Covered := by
  simp only [step] at taken
  split at taken
  · rename_i saves found
    cases taken
    rcases unraced saves found with clear | same
    · refine .inr (.inr ⟨Nat.succ_pos _, ?_⟩)
      intro member
      rcases List.mem_or_eq_of_mem_set member with before | own
      · exact clear before
      · split at own <;> cases own
    · exact .inl same
  · cases taken
    exact .inl rfl
  · cases taken
    exact .inl rfl
  · rename_i found
    cases taken
    rcases covered with same | ⟨other, stage, otherIs, pending⟩ | ⟨-, clear⟩
    · exact .inl same
    · -- Whoever is to count or save is not the one that sets the counter back.
      have differs : id ≠ other := by
        rintro rfl
        cases found.symm.trans otherIs
        cases pending
      exact .inr (.inl ⟨other, stage, (List.getElem?_set_ne differs).trans otherIs, pending⟩)
    · exact absurd (List.mem_of_getElem? found) clear
  · cases taken
  · cases taken

theorem Covered.step (covered : state.Covered) (unraced : state.Unraced event)
    (taken : state.step event = some after) : after.Covered := by
  cases event with
  | begin event => exact covered.begin taken
  | advance id => exact covered.advance unraced taken

end SharedQuota

/--
With no operation under way and no change counted, the file holds the quotas, if no change is
counted between a save that missed it and the reset of the counter.
-/
theorem quota_file_current {tracker : QuotaTracker} {state : SharedQuota}
    (reached : Reachable SharedQuota.step SharedQuota.Unraced (.start tracker) state)
    (rests : ∀ stage ∈ state.tasks, stage = .finished) (clean : state.dirtyCount = 0) :
    state.saved = state.tracker.state := by
  have covered := reached.invariant SharedQuota.Covered (.inl rfl) fun covered => covered.step
  rcases covered with same | ⟨id, stage, found, pending⟩ | ⟨counted, -⟩
  · exact same
  · cases rests stage (List.mem_of_getElem? found)
    cases pending
  · omega

def savedChange : List SharedQuotaEvent :=
  [.begin (.success (lit "main") 5), .advance 0, .begin .save, .advance 1, .advance 1]

theorem quota_file_current_savedChange :
    ∃ state, runSteps SharedQuota.step (.start (.load [lit "main"] 20000 500 none)) savedChange =
      some state ∧ state.dirtyCount = 0 ∧ state.saved = state.tracker.state := by
  have permitted : Permits SharedQuota.step SharedQuota.Unraced
      (.start (.load [lit "main"] 20000 500 none)) savedChange := by
    refine ⟨trivial, ?_, trivial, ?_, ?_, trivial⟩
    · exact fun _ _ => .inl (by decide)
    · exact fun _ found => by cases found
    · exact fun _ found => by cases found
  exact ⟨_, rfl, rfl, quota_file_current (.runSteps savedChange .begin permitted rfl) (by decide) rfl⟩

def missedChange : List SharedQuotaEvent :=
  [.begin (.success (lit "main") 5), .advance 0, .begin .save, .advance 1,
    .begin (.success (lit "main") 7), .advance 2, .advance 1]

theorem counted_change_is_missed :
    (runSteps SharedQuota.step (.start (.load [lit "main"] 20000 500 none)) missedChange).map
        (fun state => (state.tasks, state.dirtyCount,
          ((AList.lookup (lit "main") state.saved.buckets).map (·.bytesDown),
            (state.tracker.entry (lit "main")).bytesDown))) =
      some ([.finished, .finished, .finished], 0, (some 5, 12)) := by
  decide +kernel

end Gvpn
