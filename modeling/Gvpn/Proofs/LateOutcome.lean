import Gvpn.Proofs.QuotaBuckets

/-! Whether an attempt's outcome is charged to the window it was counted in. -/

namespace Gvpn

def AttemptStage.sent : AttemptStage → Bool
  | .dispatched => true
  | _ => false

def AttemptStage.underWay : AttemptStage → Bool
  | .dispatched | .blaming _ => true
  | _ => false

def AccountBucket.Fair (bucket : AccountBucket) : Prop :=
  bucket.failedRequests ≤ bucket.requestsUsed

def AccountBucket.tally (bucket : AccountBucket) : Nat × Nat × Option Nat :=
  (bucket.requestsUsed, bucket.failedRequests, bucket.nextResetAt)

variable (tracker : QuotaTracker)

theorem QuotaTracker.tally_modify (scriptId account : Text) {change : AccountBucket → AccountBucket}
    (same : ∀ bucket, (change bucket).tally = bucket.tally) :
    ((tracker.modify scriptId change).entry account).tally = (tracker.entry account).tally := by
  by_cases own : account = scriptId
  · subst own
    rcases tracker.entry_modify_self account change with changed | kept
    · rw [changed, same]
    · rw [kept]
  · rw [tracker.entry_modify_other change own]

theorem QuotaTracker.tally_markExhausted (scriptId reason account : Text) :
    ((tracker.markExhausted scriptId reason).entry account).tally =
      (tracker.entry account).tally := by
  unfold markExhausted
  by_cases own : account = scriptId
  · subst own
    rw [entry_put_self]
    rfl
  · rw [entry_put_other _ _ own]

theorem QuotaTracker.counts_recordFailure (scriptId : Text) (isQuotaError : Bool) :
    ((tracker.recordFailure scriptId isQuotaError).entry scriptId).requestsUsed =
        (tracker.entry scriptId).requestsUsed ∧
      ((tracker.recordFailure scriptId isQuotaError).entry scriptId).failedRequests ≤
        (tracker.entry scriptId).failedRequests + 1 := by
  unfold recordFailure
  rcases tracker.entry_modify_self scriptId _ with changed | kept
  · exact ⟨by rw [changed], by rw [changed]⟩
  · exact ⟨by rw [kept], by rw [kept]; exact Nat.le_succ _⟩

theorem AccountBucket.charge_failedRequests (bucket : AccountBucket)
    (dailyLimit safetyBuffer bytesUp now : Nat) :
    (bucket.charge dailyLimit safetyBuffer bytesUp now).failedRequests = bucket.failedRequests := by
  unfold charge
  dsimp only
  split <;> rfl

theorem AccountBucket.nextResetAt_counted (bucket : AccountBucket)
    (dailyLimit safetyBuffer bytesUp now : Nat) :
    ((bucket.openWindow now).charge dailyLimit safetyBuffer bytesUp now).nextResetAt ≠ none := by
  rcases bucket.openWindow_cases now with ⟨reset, is, -, same⟩ | ⟨-, -, -, same⟩ | ⟨-, same⟩
  · simp [same, is]
  · simp [same, restart]
  · simp [same]

namespace Accounting

def UnderWay (account : Text) (state : Accounting) (id : Nat) : Prop :=
  ∃ call, state.calls[id]? = some call ∧ call.scriptId = account ∧ call.stage.underWay = true

def sentOn (account : Text) (state : Accounting) : Nat :=
  state.calls.countP fun call => call.scriptId = account && call.stage.sent

def Rolls (account : Text) (state : Accounting) : AccountingEvent → Prop
  | .roll now => ∃ reset, (state.tracker.entry account).nextResetAt = some reset ∧ reset ≤ now
  | .advance id now _ => ∃ call reset, state.calls[id]? = some call ∧ call.stage = .admitted ∧
    call.scriptId = account ∧ (state.tracker.entry account).nextResetAt = some reset ∧ reset ≤ now
  | .enter .. => False

def Calm (state : Accounting) (event : AccountingEvent) : Prop :=
  ∀ account id, state.Rolls account event → ¬ state.UnderWay account id

def Balanced (account : Text) (state : Accounting) : Prop :=
  (state.tracker.entry account).failedRequests + state.sentOn account ≤
    (state.tracker.entry account).requestsUsed

variable {texts : LibraryTexts} {config : RelayConfig} {state after : Accounting} {account : Text}
  {event : AccountingEvent} {id now : Nat} {call : AttemptCall} {attempt : Attempt}

theorem sentOn_eq_zero (calm : ∀ id, ¬ state.UnderWay account id) : state.sentOn account = 0 := by
  rw [sentOn, List.countP_eq_zero]
  intro call member both
  rw [Bool.and_eq_true, decide_eq_true_eq] at both
  obtain ⟨id, found⟩ := List.mem_iff_getElem?.mp member
  refine calm id ⟨call, found, both.1, ?_⟩
  cases stage : call.stage with
  | dispatched => rfl
  | entered | admitted | blaming | finished => simp [stage, AttemptStage.sent] at both

theorem sentOn_move (account : Text) (found : state.calls[id]? = some call) (tracker : QuotaTracker)
    (stage : AttemptStage) :
    (state.move id call tracker stage).sentOn account +
        (if call.scriptId = account ∧ call.stage.sent then 1 else 0) =
      state.sentOn account + (if call.scriptId = account ∧ stage.sent then 1 else 0) := by
  simpa [sentOn, move] using countP_set_of_getElem? found
    (fun call => call.scriptId = account && call.stage.sent) { call with stage := stage }

theorem balanced_move (found : state.calls[id]? = some call) {tracker : QuotaTracker}
    {stage : AttemptStage}
    (enough : (tracker.entry account).failedRequests + state.sentOn account +
        (if call.scriptId = account ∧ stage.sent then 1 else 0) ≤
      (tracker.entry account).requestsUsed +
        (if call.scriptId = account ∧ call.stage.sent then 1 else 0)) :
    (state.move id call tracker stage).Balanced account := by
  have sent := sentOn_move account found tracker stage
  show (tracker.entry account).failedRequests + _ ≤ (tracker.entry account).requestsUsed
  omega

theorem Balanced.move (balanced : state.Balanced account) (found : state.calls[id]? = some call)
    {tracker : QuotaTracker} {stage : AttemptStage} (unsent : stage.sent = false)
    (same : (tracker.entry account).tally = (state.tracker.entry account).tally) :
    (state.move id call tracker stage).Balanced account := by
  simp only [AccountBucket.tally, Prod.mk.injEq] at same
  apply balanced_move found
  rw [same.1, same.2.1, if_neg (by simp [unsent])]
  exact balanced.trans (Nat.le_add_right _ _)

theorem Balanced.settle (balanced : state.Balanced account) (found : state.calls[id]? = some call)
    (sent : call.stage = .dispatched)
    (taken : state.settle texts config id call attempt = some after) : after.Balanced account := by
  unfold Accounting.settle at taken
  dsimp only at taken
  split at taken
  · cases taken
    exact balanced.move found rfl (QuotaTracker.tally_modify _ _ _ fun _ => rfl)
  · rename_i error failed
    cases taken
    have unsent : (if isQuotaLikeFronterError error = true then AttemptStage.blaming error
        else .finished (doRelayOnceInner texts config call.method attempt).result).sent = false := by
      split <;> rfl
    by_cases own : call.scriptId = account
    · -- The failure takes the place of the attempt that was on its way.
      subst own
      obtain ⟨used, failed⟩ := state.tracker.counts_recordFailure call.scriptId
        (isQuotaLikeFronterError error)
      apply balanced_move found
      rw [used, if_neg (by simp [unsent]), if_pos (by simp [sent, AttemptStage.sent])]
      unfold Balanced at balanced
      omega
    · refine balanced.move found unsent ?_
      rw [QuotaTracker.recordFailure, QuotaTracker.entry_modify_other _ _ (Ne.symm own)]
  · cases taken
    exact balanced.move found rfl rfl
  · cases taken

theorem Balanced.dispatch (balanced : state.Balanced account)
    (found : state.calls[id]? = some call) (admitted : call.stage = .admitted)
    (calm : state.Calm (.advance id now attempt)) :
    (state.dispatch id call now).Balanced account := by
  refine @balanced_move state account id call found
    (state.tracker.recordAttempt call.scriptId call.payloadLength now) .dispatched ?_
  unfold Balanced at balanced
  by_cases own : call.scriptId = account
  · subst own
    rw [QuotaTracker.entry_recordAttempt_self, AccountBucket.charge_requestsUsed,
      AccountBucket.charge_failedRequests, if_pos ⟨rfl, rfl⟩]
    rcases (state.tracker.entry call.scriptId).openWindow_cases now with
      ⟨-, -, -, same⟩ | ⟨reset, window, ended, same⟩ | ⟨-, same⟩
    · rw [same]
      omega
    · -- With nothing under way, a window that is rolled starts with this attempt alone.
      rw [same, sentOn_eq_zero fun other =>
        calm call.scriptId other ⟨call, reset, found, admitted, rfl, window, ended⟩]
      exact Nat.le_add_right 1 _
    · rw [same]
      dsimp only
      omega
  · rw [QuotaTracker.entry_recordAttempt_other _ _ _ (Ne.symm own), if_neg fun both => own both.1]
    exact balanced.trans (Nat.le_add_right _ _)

theorem Balanced.step (balanced : state.Balanced account) (calm : state.Calm event)
    (taken : state.step texts config event = some after) : after.Balanced account := by
  cases event with
  | enter scriptId method payloadLength =>
    cases taken
    unfold Balanced sentOn at balanced ⊢
    simpa [AttemptStage.sent] using balanced
  | roll now =>
    cases taken
    show ((state.tracker.rollExpiredWindows now).entry account).failedRequests +
      state.sentOn account ≤ ((state.tracker.rollExpiredWindows now).entry account).requestsUsed
    rw [QuotaTracker.entry_rollExpiredWindows, AccountBucket.rollExpired]
    split
    · rename_i reset window
      split
      · rename_i ended
        rw [sentOn_eq_zero fun other => calm account other ⟨reset, window, ended⟩]
        exact Nat.le_refl 0
      · exact balanced
    · exact balanced
  | advance id now attempt =>
    simp only [Accounting.step] at taken
    split at taken
    · rename_i call found
      split at taken
      · cases taken
        unfold check
        split
        · exact balanced.move found rfl rfl
        · exact balanced.move found rfl rfl
      · rename_i admitted
        cases taken
        exact balanced.dispatch found admitted calm
      · rename_i sent
        exact balanced.settle found sent taken
      · cases taken
        exact balanced.move found rfl (QuotaTracker.tally_markExhausted _ _ _ _)
      · cases taken
    · cases taken

theorem nextResetAt_step (taken : state.step texts config event = some after)
    (kept : ¬ state.Rolls account event) {reset : Nat}
    (window : (state.tracker.entry account).nextResetAt = some reset) :
    (after.tracker.entry account).nextResetAt = some reset := by
  cases step_change taken with
  | enter | refuse | pass => exact window
  | settle found was late same => exact ((same.bucket account).window).trans window
  | @dispatch id now attempt call found admitted =>
    show ((state.tracker.recordAttempt call.scriptId call.payloadLength now).entry
      account).nextResetAt = some reset
    by_cases own : call.scriptId = account
    · subst own
      rw [QuotaTracker.entry_recordAttempt_self, AccountBucket.charge_nextResetAt]
      rcases (state.tracker.entry call.scriptId).openWindow_cases now with
        ⟨-, -, -, same⟩ | ⟨ends, is, ended, -⟩ | ⟨windowless, -⟩
      · rw [same, window]
      · exact absurd ⟨call, ends, found, admitted, rfl, is, ended⟩ kept
      · cases windowless.symm.trans window
    · rw [QuotaTracker.entry_recordAttempt_other _ _ _ (Ne.symm own), window]
  | roll now =>
    have running : ¬ reset ≤ now := fun ended => kept ⟨reset, window, ended⟩
    show ((state.tracker.rollExpiredWindows now).entry account).nextResetAt = some reset
    rw [QuotaTracker.entry_rollExpiredWindows]
    simp only [AccountBucket.rollExpired, window, running, if_false]

theorem balanced_start (scriptIds : List Text) (dailyLimit safetyBuffer : Nat) (account : Text) :
    (start (.load scriptIds dailyLimit safetyBuffer none)).Balanced account := by
  have fresh : ∀ scriptId, (newBucket scriptId).Fair := fun _ => Nat.le_refl 0
  have empty : QuotaState.All AccountBucket.Fair {} := by
    intro scriptId bucket found
    cases found
  have loaded : (QuotaTracker.load scriptIds dailyLimit safetyBuffer none).state.All
      AccountBucket.Fair := by
    refine (empty.ensureBuckets fresh scriptIds).mapValues ?_
    intro bucket fair
    unfold AccountBucket.checkSafetyBuffer
    split
    · exact fair
    · split <;> exact fair
  exact loaded.entry fresh account

end Accounting

/--
While no window is rolled under an attempt, no account fails more often than it is used, and an
attempt ends, or stops its account, in the window it was counted in.
-/
theorem outcomes_charged_to_window (texts : LibraryTexts) (config : RelayConfig)
    (scriptIds : List Text) (dailyLimit safetyBuffer : Nat) :
    (∀ state, Reachable (Accounting.step texts config) Accounting.Calm
        (.start (.load scriptIds dailyLimit safetyBuffer none)) state →
      ∀ account, (state.tracker.entry account).Fair) ∧
      ∀ (state : Accounting) id call now final, state.calls[id]? = some call →
        Reachable (Accounting.step texts config)
          (fun state event => state.Calm event ∧ state.UnderWay call.scriptId id)
          (state.dispatch id call now) final →
        (final.tracker.entry call.scriptId).nextResetAt =
          ((state.dispatch id call now).tracker.entry call.scriptId).nextResetAt := by
  constructor
  · intro state reached account
    have balanced := reached.invariant (Accounting.Balanced account)
      (Accounting.balanced_start scriptIds dailyLimit safetyBuffer account)
      fun balanced calm => balanced.step calm
    exact (Nat.le_add_right _ _).trans balanced
  · intro state id call now final found reached
    obtain ⟨reset, window⟩ := Option.ne_none_iff_exists'.mp
      ((state.tracker.entry call.scriptId).nextResetAt_counted state.tracker.dailyLimit
        state.tracker.safetyBuffer call.payloadLength now)
    rw [← QuotaTracker.entry_recordAttempt_self] at window
    refine (reached.invariant (fun later => (later.tracker.entry call.scriptId).nextResetAt =
      some reset) window ?_).trans window.symm
    intro before after event kept permitted taken
    exact Accounting.nextResetAt_step taken (fun rolls => permitted.1 _ _ rolls permitted.2) kept

def lateAnswer : List AccountingEvent :=
  let attempt : Attempt := ⟨.unavailable, .answered ⟨200, [], toUtf8 (lit
    "\x7b\"e\":\"Service invoked too many times\"\x7d")⟩ fun _ => .dropped⟩
  [.enter (lit "account") (lit "GET") 100, .advance 0 0 attempt, .advance 0 0 attempt,
    .roll windowSeconds, .advance 0 windowSeconds attempt, .advance 0 windowSeconds attempt]

theorem late_answer_stops_new_window :
    (runSteps (Accounting.step noTexts plainConfig) (.start (.load [lit "account"] 20000 500 none))
      lateAnswer).map (fun state =>
        let bucket := state.tracker.entry (lit "account")
        (bucket.failedRequests, bucket.requestsUsed, bucket.hardStopped, bucket.nextResetAt)) =
      some (1, 0, true, some (2 * windowSeconds)) := by
  decide +kernel

end Gvpn
