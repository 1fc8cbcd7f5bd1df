import Gvpn.Fronter.QuotaStore
import Gvpn.Proofs.Reserve

/-! What holds of every bucket, and when a stopped account runs again. -/

namespace Gvpn

def QuotaState.All (holds : AccountBucket → Prop) (state : QuotaState) : Prop :=
  ∀ scriptId bucket, AList.lookup scriptId state.buckets = some bucket → holds bucket

namespace AccountBucket

structure Kept (dailyLimit safetyBuffer : Nat) (mayStop holds : AccountBucket → Prop) : Prop where
  new : ∀ scriptId, holds (newBucket scriptId)
  restarted : ∀ bucket now, holds (restart bucket now)
  opened : ∀ {bucket} now, holds bucket →
    holds { bucket with nextResetAt := some (now + windowSeconds) }
  charged : ∀ {bucket} bytesUp now, holds bucket → bucket.nextResetAt ≠ none →
    holds (bucket.charge dailyLimit safetyBuffer bytesUp now)
  received : ∀ {bucket} bytesDown, holds bucket →
    holds { bucket with
      bytesDown := bucket.bytesDown + bytesDown
      bytesTotal := bucket.bytesTotal + bytesDown }
  failed : ∀ {bucket} quotaErrors, holds bucket →
    holds { bucket with
      failedRequests := bucket.failedRequests + 1
      quotaErrorCount := quotaErrors }
  stopped : ∀ {bucket} reason, holds bucket → mayStop bucket → holds (bucket.stop reason)
  crossed : ∀ {bucket} reason, holds bucket → dailyLimit - bucket.requestsUsed < safetyBuffer →
    holds (bucket.stop reason)

variable {dailyLimit safetyBuffer : Nat} {mayStop holds : AccountBucket → Prop}
  {bucket : AccountBucket}

theorem Kept.counted (kept : Kept dailyLimit safetyBuffer mayStop holds) (fits : holds bucket)
    (bytesUp now : Nat) :
    holds ((bucket.openWindow now).charge dailyLimit safetyBuffer bytesUp now) := by
  rcases bucket.openWindow_cases now with ⟨reset, window, -, same⟩ | ⟨-, -, -, same⟩ | ⟨-, same⟩
  · rw [same]
    exact kept.charged bytesUp now fits (by simp [window])
  · rw [same]
    exact kept.charged bytesUp now (kept.restarted bucket now) (Option.some_ne_none _)
  · rw [same]
    exact kept.charged bytesUp now (kept.opened now fits) (Option.some_ne_none _)

theorem Kept.rolled (kept : Kept dailyLimit safetyBuffer mayStop holds) (fits : holds bucket)
    (now : Nat) : holds (bucket.rollExpired now) := by
  unfold rollExpired
  split
  · split
    · exact kept.restarted bucket now
    · exact fits
  · exact fits

theorem Kept.loaded (kept : Kept dailyLimit safetyBuffer mayStop holds) (fits : holds bucket) :
    holds (bucket.checkSafetyBuffer dailyLimit safetyBuffer) := by
  unfold checkSafetyBuffer
  split
  · exact fits
  · split
    · rename_i short
      exact kept.crossed _ fits short
    · exact fits

end AccountBucket

namespace QuotaState

variable {holds : AccountBucket → Prop} {state : QuotaState}

variable {tracker : QuotaTracker}

theorem All.entry (all : tracker.state.All holds) (new : ∀ scriptId, holds (newBucket scriptId))
    (scriptId : Text) : holds (tracker.entry scriptId) := by
  unfold QuotaTracker.entry
  cases found : AList.lookup scriptId tracker.state.buckets with
  | none => exact new scriptId
  | some bucket => exact all scriptId bucket found

theorem All.put (all : tracker.state.All holds) {scriptId : Text} {bucket : AccountBucket}
    (fits : holds bucket) : (tracker.put scriptId bucket).state.All holds := by
  intro other found looked
  by_cases same : other = scriptId
  · subst same
    simp only [QuotaTracker.put, AList.lookup_insert, Option.some.injEq] at looked
    exact looked ▸ fits
  · simp only [QuotaTracker.put, AList.lookup_insert_ne same] at looked
    exact all other found looked

theorem All.modify (all : tracker.state.All holds) {scriptId : Text}
    {change : AccountBucket → AccountBucket}
    (kept : ∀ {bucket}, holds bucket → holds (change bucket)) :
    (tracker.modify scriptId change).state.All holds := by
  unfold QuotaTracker.modify
  cases found : AList.lookup scriptId tracker.state.buckets with
  | none => exact all
  | some bucket => exact all.put (kept (all scriptId bucket found))

theorem All.mapValues (all : state.All holds) {change : AccountBucket → AccountBucket}
    (kept : ∀ {bucket}, holds bucket → holds (change bucket)) :
    All holds { state with buckets := Table.mapValues change state.buckets } := by
  intro scriptId bucket looked
  simp only [Table.lookup_mapValues, Option.map_eq_some_iff] at looked
  obtain ⟨old, found, rfl⟩ := looked
  exact kept (all scriptId old found)

theorem All.ensureBuckets (all : state.All holds) (new : ∀ scriptId, holds (newBucket scriptId))
    (scriptIds : List Text) :
    All holds { state with buckets := Gvpn.ensureBuckets scriptIds state.buckets } := by
  induction scriptIds generalizing state with
  | nil => exact all
  | cons scriptId rest ih =>
    unfold Gvpn.ensureBuckets
    rw [List.foldl_cons]
    cases AList.lookup scriptId state.buckets with
    | some bucket => exact ih all
    | none =>
      refine @ih { state with buckets := AList.insert scriptId (newBucket scriptId) state.buckets } ?_
      exact @All.put holds ⟨state, [], 0, 0⟩ all scriptId _ (new scriptId)

end QuotaState

namespace QuotaStore

variable {dailyLimit safetyBuffer : Nat} {mayStop holds : AccountBucket → Prop}
  {store after : QuotaStore} {event : QuotaEvent}

def Stops (mayStop : AccountBucket → Prop) (store : QuotaStore) : QuotaEvent → Prop
  | .exhaust scriptId _ => mayStop (store.tracker.entry scriptId)
  | _ => True

structure Keeps (dailyLimit safetyBuffer : Nat) (holds : AccountBucket → Prop) (store : QuotaStore) :
    Prop where
  limit : store.tracker.dailyLimit = dailyLimit
  buffer : store.tracker.safetyBuffer = safetyBuffer
  tracked : store.tracker.state.All holds
  saved : store.saved.All holds

theorem keeps_opened (kept : AccountBucket.Kept dailyLimit safetyBuffer mayStop holds)
    (scriptIds : List Text) {saved : Option QuotaState} (before : (saved.getD {}).All holds) :
    Keeps dailyLimit safetyBuffer holds (opened scriptIds dailyLimit safetyBuffer saved) := by
  have loaded := (before.ensureBuckets kept.new scriptIds).mapValues fun fits => kept.loaded fits
  exact ⟨rfl, rfl, loaded, loaded⟩

theorem Keeps.step (kept : AccountBucket.Kept dailyLimit safetyBuffer mayStop holds)
    (keeps : Keeps dailyLimit safetyBuffer holds store) (permitted : Stops mayStop store event)
    (taken : store.step event = some after) : Keeps dailyLimit safetyBuffer holds after := by
  obtain ⟨limit, buffer, tracked, saved⟩ := keeps
  have entry := tracked.entry kept.new
  cases event with
  | load scriptIds =>
    cases taken
    rw [limit, buffer]
    exact keeps_opened kept scriptIds saved
  | save =>
    cases taken
    exact ⟨limit, buffer, tracked, tracked⟩
  | attempt scriptId bytesUp now =>
    cases taken
    refine ⟨limit, buffer, ?_, saved⟩
    have counted := kept.counted (entry scriptId) bytesUp now
    rw [← limit, ← buffer] at counted
    exact tracked.put counted
  | success scriptId bytesDown =>
    cases taken
    have same := store.tracker.recordSuccess_sameCounts scriptId bytesDown
    exact ⟨same.limit.trans limit, same.buffer.trans buffer, tracked.modify (kept.received _), saved⟩
  | failure scriptId isQuotaError =>
    cases taken
    have same := store.tracker.recordFailure_sameCounts scriptId isQuotaError
    exact ⟨same.limit.trans limit, same.buffer.trans buffer, tracked.modify (kept.failed _), saved⟩
  | exhaust scriptId reason =>
    cases taken
    have stopped := kept.stopped reason (entry scriptId) permitted
    exact ⟨limit, buffer, tracked.put stopped, tracked.put stopped⟩
  | roll now =>
    cases taken
    exact ⟨limit, buffer, tracked.mapValues fun fits => kept.rolled fits now, saved⟩

theorem keeps_of_reachable (kept : AccountBucket.Kept dailyLimit safetyBuffer mayStop holds)
    {scriptIds : List Text} (reached : Reachable QuotaStore.step (Stops mayStop)
      (opened scriptIds dailyLimit safetyBuffer none) store) :
    Keeps dailyLimit safetyBuffer holds store := by
  refine reached.invariant _ (keeps_opened kept scriptIds ?_) fun keeps => keeps.step kept
  intro scriptId bucket found
  cases found

end QuotaStore

namespace AccountBucket

def Attempted (bucket : AccountBucket) : Prop := bucket.lastRequestAt ≠ none

def Windowed (bucket : AccountBucket) : Prop :=
  bucket.nextResetAt = none →
    bucket.requestsUsed = 0 ∧ bucket.lastRequestAt = none ∧ bucket.hardStopped = false

theorem kept_windowed {dailyLimit safetyBuffer : Nat} (enough : safetyBuffer ≤ dailyLimit) :
    Kept dailyLimit safetyBuffer Attempted Windowed where
  new _ _ := ⟨rfl, rfl, rfl⟩
  restarted _ _ windowless := by cases windowless
  opened _ _ windowless := by cases windowless
  charged _ _ _ window windowless := by
    rw [charge_nextResetAt] at windowless
    exact absurd windowless window
  received _ windowed := windowed
  failed _ windowed := windowed
  stopped _ windowed attempted windowless := absurd (windowed windowless).2.1 attempted
  crossed _ windowed short windowless := by
    rw [(windowed windowless).1] at short
    omega

end AccountBucket

def QuotaTracker.Recoverable (tracker : QuotaTracker) : Prop :=
  ∀ scriptId, tracker.isHardStopped scriptId = true →
    ∃ resetAt, (tracker.entry scriptId).nextResetAt = some resetAt ∧
      ∀ now, resetAt ≤ now → (tracker.rollExpiredWindows now).isHardStopped scriptId = false

theorem QuotaTracker.recoverable_of_windowed {tracker : QuotaTracker}
    (windowed : ∀ scriptId, (tracker.entry scriptId).Windowed) : tracker.Recoverable := by
  intro scriptId stopped
  rw [isHardStopped_eq] at stopped
  cases window : (tracker.entry scriptId).nextResetAt with
  | none =>
    rw [(windowed scriptId window).2.2] at stopped
    cases stopped
  | some resetAt =>
    refine ⟨resetAt, rfl, ?_⟩
    intro now ended
    rw [isHardStopped_eq, entry_rollExpiredWindows]
    simp only [AccountBucket.rollExpired, window, ended, if_true, AccountBucket.restart]

theorem QuotaStore.entry_opened (scriptId : Text) (dailyLimit safetyBuffer : Nat) :
    (opened [scriptId] dailyLimit safetyBuffer none).tracker.entry scriptId =
      (newBucket scriptId).checkSafetyBuffer dailyLimit safetyBuffer := by
  have listed : AList.lookup scriptId (ensureBuckets [scriptId] ∅) = some (newBucket scriptId) :=
    AList.lookup_insert _
  show (AList.lookup scriptId (Table.mapValues _ (ensureBuckets [scriptId] ∅))).getD _ = _
  rw [Table.lookup_mapValues, listed]
  rfl

/--
Every stop can be recovered from exactly when the buffer is within the limit: otherwise a new
account is stopped before it has a window.
-/
theorem hard_stops_recoverable_iff (dailyLimit safetyBuffer : Nat) :
    (∀ scriptIds store, Reachable QuotaStore.step (QuotaStore.Stops AccountBucket.Attempted)
        (QuotaStore.opened scriptIds dailyLimit safetyBuffer none) store →
      store.tracker.Recoverable) ↔ safetyBuffer ≤ dailyLimit := by
  constructor
  · intro recoverable
    by_contra short
    have stopped := QuotaStore.entry_opened [] dailyLimit safetyBuffer
    simp only [AccountBucket.checkSafetyBuffer, newBucket, Nat.sub_zero, Nat.lt_of_not_le short,
      if_true, Bool.false_eq_true, if_false, AccountBucket.stop] at stopped
    obtain ⟨resetAt, window, -⟩ :=
      recoverable [[]] _ .begin [] (by rw [QuotaTracker.isHardStopped_eq, stopped])
    rw [stopped] at window
    cases window
  · intro enough scriptIds store reached
    have kept := AccountBucket.kept_windowed enough
    have keeps := QuotaStore.keeps_of_reachable kept reached
    exact QuotaTracker.recoverable_of_windowed (keeps.tracked.entry kept.new)

theorem short_limit_stops_for_good :
    let tracker := (QuotaStore.opened [lit "main"] 100 500 none).tracker
    tracker.isHardStopped (lit "main") = true ∧ (tracker.entry (lit "main")).nextResetAt = none ∧
      (tracker.rollExpiredWindows (1000 * windowSeconds)).isHardStopped (lit "main") = true := by
  decide +kernel

namespace AccountBucket

structure Tallied (bucket : AccountBucket) : Prop where
  total : bucket.bytesTotal = bucket.bytesUp + bucket.bytesDown
  exhausted : bucket.hardStopped = true → bucket.exhausted = true

def Within (dailyLimit safetyBuffer : Nat) (bucket : AccountBucket) : Prop :=
  bucket.hardStopped = false → (safetyBuffer : Int) ≤ dailyLimit - bucket.requestsUsed

theorem kept_tallied (dailyLimit safetyBuffer : Nat) :
    Kept dailyLimit safetyBuffer (fun _ => True) Tallied where
  new _ := ⟨rfl, fun stopped => by cases stopped⟩
  restarted _ _ := ⟨rfl, fun stopped => by cases stopped⟩
  opened _ tallied := ⟨tallied.total, tallied.exhausted⟩
  charged {bucket} bytesUp _ tallied _ := by
    have total : bucket.bytesTotal + bytesUp = bucket.bytesUp + bytesUp + bucket.bytesDown := by
      rw [tallied.total, Nat.add_right_comm]
    unfold charge
    dsimp only
    split
    · exact ⟨total, fun _ => rfl⟩
    · exact ⟨total, tallied.exhausted⟩
  received _ tallied := ⟨by simp only [tallied.total, Nat.add_assoc], tallied.exhausted⟩
  failed _ tallied := ⟨tallied.total, tallied.exhausted⟩
  stopped _ tallied _ := ⟨tallied.total, fun _ => rfl⟩
  crossed _ tallied _ := ⟨tallied.total, fun _ => rfl⟩

theorem kept_within {dailyLimit safetyBuffer : Nat} (enough : safetyBuffer ≤ dailyLimit)
    (positive : 0 < safetyBuffer) :
    Kept dailyLimit safetyBuffer (fun _ => True) (Within dailyLimit safetyBuffer) where
  new _ _ := by
    simp only [newBucket]
    omega
  restarted _ _ _ := by
    simp only [restart]
    omega
  opened _ within := within
  charged _ _ _ _ running := by
    rw [charge_hardStopped, Bool.or_eq_false_iff, decide_eq_false_iff_not] at running
    rw [charge_requestsUsed]
    omega
  received _ within := within
  failed _ within := within
  stopped _ _ _ running := by cases running
  crossed _ _ _ running := by cases running

end AccountBucket

namespace QuotaStore

theorem exists_attempts (dailyLimit : Nat) (scriptId : Text) (count : Nat) :
    ∃ store, Reachable QuotaStore.step (Stops fun _ => True)
        (opened [scriptId] dailyLimit 0 none) store ∧ store.tracker.safetyBuffer = 0 ∧
      (store.tracker.entry scriptId).requestsUsed = count ∧
      (store.tracker.entry scriptId).hardStopped = false ∧
      (store.tracker.entry scriptId).nextResetAt ≠ some 0 := by
  induction count with
  | zero =>
    refine ⟨_, .begin, rfl, ?_⟩
    simp [entry_opened, AccountBucket.checkSafetyBuffer, newBucket]
  | succ count ih =>
    obtain ⟨store, reached, bufferless, used, running, open_⟩ := ih
    refine ⟨_, @Reachable.next _ _ _ _ _ _ _ (.attempt scriptId 0 0) reached trivial rfl, bufferless, ?_⟩
    simp only [QuotaTracker.entry_recordAttempt_self, AccountBucket.charge_requestsUsed,
      AccountBucket.charge_hardStopped, AccountBucket.charge_nextResetAt, bufferless,
      Nat.not_lt_zero, decide_false, Bool.or_false]
    rcases (store.tracker.entry scriptId).openWindow_cases 0 with
      ⟨reset, -, -, same⟩ | ⟨reset, window, ended, -⟩ | ⟨-, same⟩
    · rw [same, used]
      exact ⟨rfl, running, open_⟩
    · rw [window, Nat.le_zero.mp ended] at open_
      exact absurd rfl open_
    · rw [same]
      refine ⟨by rw [used], running, ?_⟩
      intro window
      cases window

end QuotaStore

theorem QuotaTracker.recordAttempt_rolled (tracker : QuotaTracker) (scriptId : Text)
    (bytesUp now : Nat) :
    ((tracker.rollExpiredWindows now).recordAttempt scriptId bytesUp now).entry scriptId =
      (tracker.recordAttempt scriptId bytesUp now).entry scriptId := by
  have again : ((tracker.entry scriptId).rollExpired now).openWindow now =
      (tracker.entry scriptId).openWindow now := by
    rcases (tracker.entry scriptId).openWindow_cases now with
      ⟨reset, window, running, -⟩ | ⟨reset, window, ended, -⟩ | ⟨window, -⟩
    · simp [AccountBucket.rollExpired, window, Nat.not_le.mpr running]
    · -- The new window ends a whole day from now, so it is not rolled once more.
      have later : ¬ now + windowSeconds ≤ now := by
        unfold windowSeconds
        omega
      simp [AccountBucket.rollExpired, AccountBucket.openWindow, window, ended, later,
        AccountBucket.restart]
    · simp [AccountBucket.rollExpired, window]
  rw [entry_recordAttempt_self, entry_recordAttempt_self, entry_rollExpiredWindows, again]
  rfl

/--
Bytes add up, a stopped account is exhausted, and an expired window is rolled; that a running
account has its buffer left holds exactly if there is a buffer.
-/
theorem quota_bucket_invariant_iff (dailyLimit safetyBuffer : Nat)
    (enough : safetyBuffer ≤ dailyLimit) :
    (∀ scriptIds store, Reachable QuotaStore.step (QuotaStore.Stops fun _ => True)
        (QuotaStore.opened scriptIds dailyLimit safetyBuffer none) store →
      store.tracker.state.All AccountBucket.Tallied ∧
        ∀ scriptId bytesUp now,
          ((store.tracker.rollExpiredWindows now).recordAttempt scriptId bytesUp now).entry
              scriptId = (store.tracker.recordAttempt scriptId bytesUp now).entry scriptId) ∧
      ((∀ scriptIds store, Reachable QuotaStore.step (QuotaStore.Stops fun _ => True)
          (QuotaStore.opened scriptIds dailyLimit safetyBuffer none) store →
        store.tracker.state.All (AccountBucket.Within dailyLimit safetyBuffer)) ↔
          0 < safetyBuffer) := by
  refine ⟨?_, ?_, ?_⟩
  · intro scriptIds store reached
    have keeps := QuotaStore.keeps_of_reachable (AccountBucket.kept_tallied _ _) reached
    exact ⟨keeps.tracked, store.tracker.recordAttempt_rolled⟩
  · intro within
    by_contra none_
    obtain rfl : safetyBuffer = 0 := Nat.eq_zero_of_not_pos none_
    obtain ⟨store, reached, -, used, running, -⟩ :=
      QuotaStore.exists_attempts dailyLimit [] (dailyLimit + 1)
    have fresh : ∀ scriptId, AccountBucket.Within dailyLimit 0 (newBucket scriptId) := by
      intro scriptId _
      simp [newBucket]
    have left := (within [[]] store reached).entry fresh [] running
    omega
  · intro positive scriptIds store reached
    exact (QuotaStore.keeps_of_reachable (AccountBucket.kept_within enough positive) reached).tracked

theorem quota_bucket_invariant_default :
    500 ≤ 20000 ∧ ∀ scriptIds store, Reachable QuotaStore.step (QuotaStore.Stops fun _ => True)
        (QuotaStore.opened scriptIds 20000 500 none) store →
      store.tracker.state.All (AccountBucket.Within 20000 500) :=
  ⟨by decide, (quota_bucket_invariant_iff 20000 500 (by decide)).2.mpr (by decide)⟩

theorem limit_overdrawn_without_buffer :
    let tracker := (((QuotaStore.opened [lit "main"] 1 0 none).tracker.recordAttempt (lit "main") 10
      5).recordAttempt (lit "main") 10 6)
    (tracker.entry (lit "main")).requestsUsed = 2 ∧ tracker.isHardStopped (lit "main") = false := by
  decide +kernel

end Gvpn
