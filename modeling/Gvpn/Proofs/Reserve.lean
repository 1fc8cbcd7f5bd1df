import Gvpn.Data.Slots
import Gvpn.Fronter.Attempts
import Gvpn.Proofs.AtMostOnce

/-! How much of a quota concurrent attempts can spend in one window. -/

namespace Gvpn

def AttemptStage.early : AttemptStage → Bool
  | .entered | .admitted => true
  | _ => false

def AttemptStage.pending : AttemptStage → Bool
  | .admitted => true
  | _ => false

instance (stage : AttemptStage) : Decidable (stage = .entered) := by
  cases stage with
  | entered => exact isTrue rfl
  | admitted | dispatched | blaming | finished => exact isFalse nofun

theorem AttemptStage.not_pending (stage : AttemptStage) (late : stage.early = false) :
    stage.pending = false := by
  cases stage with
  | admitted => cases late
  | entered | dispatched | blaming | finished => rfl

namespace Accounting

def pendingOn (account : Text) (state : Accounting) : Nat :=
  state.calls.countP fun call => call.scriptId = account && call.stage.pending

def dispatchedIn (account : Text) (window : Option Nat) (state : Accounting) : Nat :=
  state.dispatches.count (account, window)

def ReserveKept (account : Text) (state : Accounting) : Prop :=
  ∀ window, state.dispatchedIn account window ≤
    state.tracker.dailyLimit - state.tracker.safetyBuffer

end Accounting

structure AccountBucket.SameCount (old new : AccountBucket) : Prop where
  used : new.requestsUsed = old.requestsUsed
  window : new.nextResetAt = old.nextResetAt
  stopped : old.hardStopped = true → new.hardStopped = true

structure QuotaTracker.SameCounts (old new : QuotaTracker) : Prop where
  limit : new.dailyLimit = old.dailyLimit
  buffer : new.safetyBuffer = old.safetyBuffer
  bucket : ∀ account, (old.entry account).SameCount (new.entry account)

theorem AccountBucket.SameCount.refl (bucket : AccountBucket) : bucket.SameCount bucket :=
  ⟨rfl, rfl, id⟩

namespace QuotaTracker

variable (tracker : QuotaTracker) (scriptId : Text)

theorem modify_sameCounts {change : AccountBucket → AccountBucket}
    (same : ∀ bucket : AccountBucket, bucket.SameCount (change bucket)) :
    tracker.SameCounts (tracker.modify scriptId change) := by
  refine ⟨?_, ?_, ?_⟩
  · unfold modify
    split <;> rfl
  · unfold modify
    split <;> rfl
  · intro account
    by_cases own : account = scriptId
    · subst own
      rcases tracker.entry_modify_self account change with changed | kept
      · exact changed ▸ same _
      · exact kept ▸ .refl _
    · rw [tracker.entry_modify_other change own]
      exact .refl _

theorem recordSuccess_sameCounts (bytesDown : Nat) :
    tracker.SameCounts (tracker.recordSuccess scriptId bytesDown) :=
  tracker.modify_sameCounts scriptId fun _ => ⟨rfl, rfl, id⟩

theorem recordFailure_sameCounts (isQuota : Bool) :
    tracker.SameCounts (tracker.recordFailure scriptId isQuota) :=
  tracker.modify_sameCounts scriptId fun _ => ⟨rfl, rfl, id⟩

theorem markExhausted_sameCounts (reason : Text) :
    tracker.SameCounts (tracker.markExhausted scriptId reason) := by
  refine ⟨rfl, rfl, ?_⟩
  intro account
  unfold markExhausted
  by_cases own : account = scriptId
  · subst own
    rw [entry_put_self]
    exact ⟨rfl, rfl, fun _ => rfl⟩
  · rw [entry_put_other _ _ own]
    exact .refl _

end QuotaTracker

namespace AccountBucket

variable (bucket : AccountBucket)

@[simp]
theorem charge_requestsUsed (dailyLimit safetyBuffer bytesUp now : Nat) :
    (bucket.charge dailyLimit safetyBuffer bytesUp now).requestsUsed =
      bucket.requestsUsed + 1 := rfl

@[simp]
theorem charge_nextResetAt (dailyLimit safetyBuffer bytesUp now : Nat) :
    (bucket.charge dailyLimit safetyBuffer bytesUp now).nextResetAt = bucket.nextResetAt := by
  unfold charge
  dsimp only
  split <;> rfl

@[simp]
theorem charge_hardStopped (dailyLimit safetyBuffer bytesUp now : Nat) :
    (bucket.charge dailyLimit safetyBuffer bytesUp now).hardStopped =
      (bucket.hardStopped || decide (dailyLimit - (bucket.requestsUsed + 1) < safetyBuffer)) := by
  unfold charge
  cases stopped : bucket.hardStopped with
  | true => simp [stopped]
  | false =>
    by_cases crossed : dailyLimit - (bucket.requestsUsed + 1) < safetyBuffer
    · simp [crossed, stop]
    · simp [crossed, stopped]

theorem openWindow_cases (now : Nat) :
    (∃ reset, bucket.nextResetAt = some reset ∧ now < reset ∧ bucket.openWindow now = bucket) ∨
    (∃ reset, bucket.nextResetAt = some reset ∧ reset ≤ now ∧
      bucket.openWindow now = bucket.restart now) ∨
    (bucket.nextResetAt = none ∧
      bucket.openWindow now = { bucket with nextResetAt := some (now + windowSeconds) }) := by
  unfold openWindow
  cases window : bucket.nextResetAt with
  | none => exact .inr (.inr ⟨rfl, rfl⟩)
  | some reset =>
    by_cases ended : reset ≤ now
    · exact .inr (.inl ⟨reset, rfl, ended, if_pos ended⟩)
    · exact .inl ⟨reset, rfl, by omega, if_neg ended⟩

end AccountBucket

@[simp]
theorem QuotaTracker.entry_recordAttempt_self (tracker : QuotaTracker) (scriptId : Text)
    (bytesUp now : Nat) :
    (tracker.recordAttempt scriptId bytesUp now).entry scriptId =
      ((tracker.entry scriptId).openWindow now).charge tracker.dailyLimit tracker.safetyBuffer
        bytesUp now :=
  tracker.entry_put_self scriptId _

theorem QuotaTracker.entry_recordAttempt_other (tracker : QuotaTracker) {scriptId other : Text}
    (bytesUp now : Nat) (different : other ≠ scriptId) :
    (tracker.recordAttempt scriptId bytesUp now).entry other = tracker.entry other :=
  tracker.entry_put_other _ different

/-- A bucket with what was dispatched in every window; windows that end later have not begun. -/
structure AccountBucket.Spending (spent : Option Nat → Nat) (bound pending : Nat)
    (bucket : AccountBucket) : Prop where
  together : bucket.requestsUsed + pending ≤ bound
  within : ∀ window, spent window ≤ bound
  counted : ∀ reset, (∀ current, bucket.nextResetAt = some current → current ≤ reset) →
    spent (some reset) ≤ if bucket.nextResetAt = some reset then bucket.requestsUsed else 0

namespace AccountBucket.Spending

variable {spent : Option Nat → Nat} {bound pending now : Nat} {bucket other : AccountBucket}

theorem frame (spending : bucket.Spending spent bound pending)
    (same : bucket.SameCount other) {fewer : Nat} (less : fewer ≤ pending) :
    other.Spending spent bound fewer := by
  obtain ⟨used, window, -⟩ := same
  obtain ⟨together, within, counted⟩ := spending
  refine ⟨by omega, within, ?_⟩
  rwa [used, window]

theorem renew (spending : bucket.Spending spent bound pending)
    (past : ∀ current, bucket.nextResetAt = some current → current ≤ now)
    (opens : other.nextResetAt = some (now + windowSeconds))
    (less : other.requestsUsed ≤ bucket.requestsUsed) :
    other.Spending spent bound pending := by
  refine ⟨(Nat.add_le_add_right less _).trans spending.together, spending.within, ?_⟩
  -- The new window ends behind the old one, so that nothing was dispatched in it.
  intro reset later
  have nothing := spending.counted reset
  have positive : 0 < windowSeconds := by decide
  grind

theorem openWindow (spending : bucket.Spending spent bound pending) (now : Nat) :
    (bucket.openWindow now).Spending spent bound pending ∧
      ∃ reset, (bucket.openWindow now).nextResetAt = some reset := by
  rcases bucket.openWindow_cases now with ⟨reset, was, _, is⟩ | ⟨reset, was, ended, is⟩ | ⟨was, is⟩
  · rw [is]
    exact ⟨spending, reset, was⟩
  · rw [is]
    exact ⟨spending.renew (by simp [was, ended]) rfl (Nat.zero_le _), _, rfl⟩
  · rw [is]
    exact ⟨spending.renew (by simp [was]) rfl le_rfl, _, rfl⟩

theorem rollExpired (spending : bucket.Spending spent bound pending) (now : Nat) :
    (bucket.rollExpired now).Spending spent bound pending := by
  have opened := (spending.openWindow now).1
  unfold AccountBucket.openWindow at opened
  unfold AccountBucket.rollExpired
  split
  · simpa [*] using opened
  · exact spending

theorem charge {reset : Nat} (spending : bucket.Spending spent bound (pending + 1))
    (is : bucket.nextResetAt = some reset) (dailyLimit safetyBuffer bytesUp now : Nat) :
    (bucket.charge dailyLimit safetyBuffer bytesUp now).Spending
      (fun window => spent window + if some reset = window then 1 else 0) bound pending := by
  obtain ⟨together, within, counted⟩ := spending
  have current := counted reset (by simp [is])
  constructor
  · grind [charge_requestsUsed]
  · grind
  · grind [charge_requestsUsed, charge_nextResetAt]

end AccountBucket.Spending

/-- An account that is not stopped has its buffer left. -/
def AccountBucket.Reserved (allowance : Nat) (bucket : AccountBucket) : Prop :=
  bucket.hardStopped = false → bucket.requestsUsed ≤ allowance

namespace AccountBucket.Reserved

variable {allowance : Nat} {bucket other : AccountBucket}

theorem frame (reserved : bucket.Reserved allowance) (same : bucket.SameCount other) :
    other.Reserved allowance := by
  obtain ⟨used, -, stopped⟩ := same
  intro running
  rw [used]
  exact reserved (by grind)

theorem rollExpired (reserved : bucket.Reserved allowance) (now : Nat) :
    (bucket.rollExpired now).Reserved allowance := by
  unfold AccountBucket.rollExpired
  split
  · split
    · exact fun _ => Nat.zero_le _
    · exact reserved
  · exact reserved

theorem charge {dailyLimit safetyBuffer : Nat} (reserve : 0 < safetyBuffer)
    (bucket : AccountBucket) (bytesUp now : Nat) :
    (bucket.charge dailyLimit safetyBuffer bytesUp now).Reserved (dailyLimit - safetyBuffer) := by
  -- The stop is set by the count that leaves less than the buffer.
  grind [AccountBucket.Reserved, charge_hardStopped, charge_requestsUsed]

end AccountBucket.Reserved

inductive Accounting.Change (state : Accounting) : AccountingEvent → Accounting → Prop
  | enter (scriptId method : Text) (payloadLength : Nat) :
    Change state (.enter scriptId method payloadLength)
      { state with calls := state.calls ++ [⟨scriptId, method, payloadLength, .entered⟩] }
  | refuse {id now : Nat} {attempt : Attempt} {call : AttemptCall} {stage : AttemptStage}
    (found : state.calls[id]? = some call) (entered : call.stage = .entered)
    (late : stage.early = false) :
    Change state (.advance id now attempt) (state.move id call state.tracker stage)
  | pass {id now : Nat} {attempt : Attempt} {call : AttemptCall}
    (found : state.calls[id]? = some call) (entered : call.stage = .entered)
    (running : (state.tracker.entry call.scriptId).hardStopped = false) :
    Change state (.advance id now attempt) (state.move id call state.tracker .admitted)
  | dispatch {id now : Nat} {attempt : Attempt} {call : AttemptCall}
    (found : state.calls[id]? = some call) (admitted : call.stage = .admitted) :
    Change state (.advance id now attempt) (state.dispatch id call now)
  | settle {id now : Nat} {attempt : Attempt} {call : AttemptCall} {tracker : QuotaTracker}
    {stage : AttemptStage} (found : state.calls[id]? = some call)
    (was : call.stage.early = false) (late : stage.early = false)
    (same : state.tracker.SameCounts tracker) :
    Change state (.advance id now attempt) (state.move id call tracker stage)
  | roll (now : Nat) :
    Change state (.roll now) { state with tracker := state.tracker.rollExpiredWindows now }

section

variable {texts : LibraryTexts} {config : RelayConfig}

theorem Accounting.settle_change {state after : Accounting} {id now : Nat} {call : AttemptCall}
    {attempt : Attempt} (found : state.calls[id]? = some call) (was : call.stage = .dispatched)
    (taken : state.settle texts config id call attempt = some after) :
    state.Change (.advance id now attempt) after := by
  have notEarly : call.stage.early = false := by rw [was]; rfl
  unfold settle at taken
  dsimp only at taken
  split at taken
  · cases taken
    exact .settle found notEarly rfl (state.tracker.recordSuccess_sameCounts _ _)
  · cases taken
    refine .settle found notEarly ?_ (state.tracker.recordFailure_sameCounts _ _)
    split <;> rfl
  · cases taken
    exact .settle found notEarly rfl ⟨rfl, rfl, fun _ => .refl _⟩
  · cases taken

theorem Accounting.step_change {state after : Accounting} {event : AccountingEvent}
    (taken : state.step texts config event = some after) : state.Change event after := by
  cases event with
  | enter scriptId method payloadLength =>
    cases taken
    exact .enter scriptId method payloadLength
  | roll now =>
    cases taken
    exact .roll now
  | advance id now attempt =>
    simp only [step] at taken
    cases found : state.calls[id]? with
    | none => simp [found] at taken
    | some call =>
      simp only [found] at taken
      cases stage : call.stage with
      | entered =>
        simp only [stage, Option.some.injEq] at taken
        subst taken
        unfold check
        rw [QuotaTracker.isHardStopped_eq]
        split
        · exact .refuse found stage rfl
        · rename_i running
          exact .pass found stage (by simpa using running)
      | admitted =>
        simp only [stage, Option.some.injEq] at taken
        subst taken
        exact .dispatch found stage
      | dispatched =>
        simp only [stage] at taken
        exact settle_change found stage taken
      | blaming error =>
        simp only [stage, Option.some.injEq] at taken
        subst taken
        exact .settle found (by rw [stage]; rfl) rfl (state.tracker.markExhausted_sameCounts _ _)
      | finished result => simp [stage] at taken

namespace Accounting

variable {state after : Accounting} {event : AccountingEvent} {account : Text}

theorem Change.limits (change : state.Change event after) :
    after.tracker.dailyLimit = state.tracker.dailyLimit ∧
      after.tracker.safetyBuffer = state.tracker.safetyBuffer := by
  cases change with
  | settle found was late same => exact ⟨same.limit, same.buffer⟩
  | enter | refuse | pass | dispatch | roll => exact ⟨rfl, rfl⟩

variable {id : Nat} {call : AttemptCall}

theorem dispatchedIn_dispatch (account : Text) (window : Option Nat) (state : Accounting)
    (id : Nat) (call : AttemptCall) (now : Nat) :
    (state.dispatch id call now).dispatchedIn account window =
      state.dispatchedIn account window +
        (if call.scriptId = account ∧
          ((state.tracker.entry call.scriptId).openWindow now).nextResetAt = window
        then 1 else 0) := by
  simp [dispatchedIn, dispatch, move, List.count_cons, Prod.ext_iff]

def allowance (state : Accounting) : Nat :=
  state.tracker.dailyLimit - state.tracker.safetyBuffer

variable {width : Nat}

theorem pendingOn_move (account : Text)
    (found : state.calls[id]? = some call) (tracker : QuotaTracker) (stage : AttemptStage) :
    (state.move id call tracker stage).pendingOn account +
        (if call.scriptId = account ∧ call.stage.pending then 1 else 0) =
      state.pendingOn account + (if call.scriptId = account ∧ stage.pending then 1 else 0) := by
  simpa [pendingOn, move] using countP_set_of_getElem? found
    (fun call => call.scriptId = account && call.stage.pending) { call with stage := stage }

/-- At most a number of attempts are between the look at the stop and the count at once. -/
def Narrow (account : Text) (width : Nat) (state : Accounting) : AccountingEvent → Prop
  | .advance id _ _ => ∀ call, state.calls[id]? = some call → call.stage = .entered →
    call.scriptId = account → state.pendingOn account < width
  | _ => True

instance (account : Text) (width : Nat) (state : Accounting) :
    (event : AccountingEvent) → Decidable (state.Narrow account width event)
  | .advance id _ _ => inferInstanceAs (Decidable (∀ call ∈ state.calls[id]?, _))
  | .enter _ _ _ | .roll _ => isTrue trivial

/-- A look that finds the account running finds fewer counted or about to be than a number. -/
def Admits (account : Text) (bound : Nat) (state : Accounting) : AccountingEvent → Prop
  | .advance id _ _ => ∀ call, state.calls[id]? = some call → call.stage = .entered →
    call.scriptId = account → (state.tracker.entry account).hardStopped = false →
    (state.tracker.entry account).requestsUsed + state.pendingOn account < bound
  | _ => True

instance (account : Text) (bound : Nat) (state : Accounting) :
    (event : AccountingEvent) → Decidable (state.Admits account bound event)
  | .advance id _ _ => inferInstanceAs (Decidable (∀ call ∈ state.calls[id]?, _))
  | .enter _ _ _ | .roll _ => isTrue trivial

def Spends (account : Text) (bound : Nat) (state : Accounting) : Prop :=
  (state.tracker.entry account).Spending (state.dispatchedIn account) bound
    (state.pendingOn account)

theorem Spends.step {bound : Nat} (spends : state.Spends account bound)
    (admits : state.Admits account bound event) (change : state.Change event after) :
    after.Spends account bound := by
  unfold Spends at spends ⊢
  cases change with
  | enter scriptId method payloadLength =>
    exact spends.frame (.refl _) (by simp [pendingOn, AttemptStage.pending])
  | @refuse id now attempt call stage found entered late =>
    have tally := pendingOn_move account found state.tracker stage
    exact spends.frame (.refl _) (by grind [stage.not_pending late])
  | @settle id now attempt call tracker stage found was late same =>
    have tally := pendingOn_move account found tracker stage
    exact spends.frame (same.bucket account) (by grind [stage.not_pending late])
  | roll now =>
    simp only [QuotaTracker.entry_rollExpiredWindows]
    exact spends.rollExpired now
  | @pass id now attempt call found entered running =>
    -- There is room for the new attempt in front of the bound.
    have tally := pendingOn_move account found state.tracker .admitted
    have below := admits call found entered
    obtain ⟨together, within, counted⟩ := spends
    refine ⟨?_, within, counted⟩
    show (state.tracker.entry account).requestsUsed + _ ≤ _
    grind [AttemptStage.pending]
  | @dispatch id now attempt call found admitted =>
    have tally : (state.dispatch id call now).pendingOn account + _ = _ :=
      pendingOn_move account found state.tracker .dispatched
    simp only [admitted, AttemptStage.pending, and_true, Bool.false_eq_true, and_false, if_false,
      Nat.add_zero] at tally
    rw [funext fun window => dispatchedIn_dispatch account window state id call now]
    by_cases own : call.scriptId = account
    · subst own
      rw [if_pos rfl] at tally
      obtain ⟨opened, reset, is⟩ := (tally ▸ spends).openWindow now
      have charged := opened.charge is state.tracker.dailyLimit state.tracker.safetyBuffer
        call.payloadLength now
      simpa only [is, true_and, Accounting.dispatch, move,
        QuotaTracker.entry_recordAttempt_self] using charged
    · simp only [own, false_and, if_false, Nat.add_zero]
      rw [if_neg own] at tally
      refine spends.frame ?_ tally.le
      exact (state.tracker.entry_recordAttempt_other call.payloadLength now (Ne.symm own)) ▸ .refl _

/-- Nothing has been dispatched at the start. -/
theorem spends_start {tracker : QuotaTracker} (unused : (tracker.entry account).requestsUsed = 0)
    (bound : Nat) : (start tracker).Spends account bound :=
  ⟨unused.le.trans (Nat.zero_le _), fun _ => Nat.zero_le _, fun _ _ => Nat.zero_le _⟩

def Reserves (account : Text) (state : Accounting) : Prop :=
  0 < state.tracker.safetyBuffer ∧ (state.tracker.entry account).Reserved state.allowance

theorem Reserves.step (reserves : state.Reserves account) (change : state.Change event after) :
    after.Reserves account := by
  obtain ⟨positive, reserved⟩ := reserves
  refine ⟨change.limits.2 ▸ positive, ?_⟩
  have limits : after.allowance = state.allowance := by
    unfold allowance
    rw [change.limits.1, change.limits.2]
  rw [limits]
  cases change with
  | enter | refuse | pass => exact reserved
  | settle found was late same => exact reserved.frame (same.bucket account)
  | roll now =>
    simp only [QuotaTracker.entry_rollExpiredWindows]
    exact reserved.rollExpired now
  | @dispatch id now attempt call found admitted =>
    simp only [Accounting.dispatch, move]
    by_cases own : call.scriptId = account
    · subst own
      rw [QuotaTracker.entry_recordAttempt_self]
      exact .charge positive _ _ _
    · rwa [state.tracker.entry_recordAttempt_other call.payloadLength now (Ne.symm own)]

/-- With a reserve, few attempts between the look and the count leave room behind it for them. -/
theorem Reserves.admits (reserves : state.Reserves account)
    (narrow : state.Narrow account width event) :
    state.Admits account (state.allowance + width) event := by
  cases event with
  | enter | roll => trivial
  | advance id now attempt =>
    intro call found entered own running
    have few := narrow call found entered own
    have used := reserves.2 running
    omega

variable {tracker : QuotaTracker}

theorem limits_of_reachable {allowed : Accounting → AccountingEvent → Prop}
    (reached : Reachable (Accounting.step texts config) allowed
      (start tracker) state) :
    state.tracker.dailyLimit = tracker.dailyLimit ∧
      state.tracker.safetyBuffer = tracker.safetyBuffer := by
  refine reached.invariant (fun state => state.tracker.dailyLimit = tracker.dailyLimit ∧
    state.tracker.safetyBuffer = tracker.safetyBuffer) ⟨rfl, rfl⟩ ?_
  intro state after event same _ taken
  have limits := (step_change taken).limits
  exact ⟨limits.1.trans same.1, limits.2.trans same.2⟩

/-- The reserve is overspent by no more attempts than are between the look and the count at once. -/
theorem dispatchedIn_le_of_narrow (reserve : 0 < tracker.safetyBuffer)
    (unused : (tracker.entry account).requestsUsed = 0)
    (reached : Reachable (Accounting.step texts config) (Narrow account width) (start tracker) state)
    (window : Option Nat) :
    state.dispatchedIn account window ≤ tracker.dailyLimit - tracker.safetyBuffer + width := by
  have holds : state.Spends account (state.allowance + width) ∧ state.Reserves account := by
    refine reached.invariant (fun state => state.Spends account (state.allowance + width) ∧
      state.Reserves account)
      ⟨spends_start unused _, reserve, fun _ => unused.le.trans (Nat.zero_le _)⟩ ?_
    rintro state after event ⟨spends, reserves⟩ narrow taken
    have change := step_change taken
    have limits : after.allowance = state.allowance := by
      unfold allowance
      rw [change.limits.1, change.limits.2]
    exact ⟨limits ▸ spends.step (reserves.admits narrow) change, reserves.step change⟩
  have limits := limits_of_reachable reached
  have within := holds.1.within window
  rwa [allowance, limits.1, limits.2] at within

end Accounting

/--
The reserve is kept in every run in which no attempt finds the account running when the requests
counted in its window, and those about to be counted, are as many as may be spent.
-/
theorem reserveKept_of_admits (texts : LibraryTexts) (config : RelayConfig)
    (tracker : QuotaTracker) (account : Text) (unused : (tracker.entry account).requestsUsed = 0)
    {state : Accounting}
    (reached : Reachable (Accounting.step texts config)
      (Accounting.Admits account (tracker.dailyLimit - tracker.safetyBuffer)) (.start tracker) state) :
    state.ReserveKept account := by
  have spends : state.Spends account (tracker.dailyLimit - tracker.safetyBuffer) :=
    reached.invariant _ (Accounting.spends_start unused _) fun spends admits taken =>
      spends.step admits (Accounting.step_change taken)
  have limits := Accounting.limits_of_reachable reached
  intro window
  rw [limits.1, limits.2]
  exact spends.within window

end

def smallTracker : QuotaTracker := .load [lit "account"] 5 2 none

def unansweredAttempt (id : Nat) : List AccountingEvent :=
  let attempt : Attempt :=
    ⟨.unavailable, .readFailed ⟨.timeout, FronterError.isRetryable_timeout⟩⟩
  [.enter (lit "account") (lit "GET") 100, .advance id 0 attempt, .advance id 0 attempt,
    .advance id 0 attempt]

/-- The script answers that its quota is spent. -/
def exhaustedAttempt : Attempt :=
  ⟨.unavailable, .answered ⟨200, [], toUtf8 (lit
    "\x7b\"e\":\"Service invoked too many times\"\x7d")⟩ fun _ => .dropped⟩

/-- Three attempts, the last of which stops the account, and one more that is refused. -/
def stoppedAttempts : List AccountingEvent :=
  (List.range 2).flatMap unansweredAttempt ++
    .enter (lit "account") (lit "GET") 100 :: List.replicate 4 (.advance 2 0 exhaustedAttempt) ++
    [.enter (lit "account") (lit "GET") 100, .advance 3 0 exhaustedAttempt]

/-- What is asked for behind the stop does not count: three attempts are dispatched. -/
theorem reserveKept_of_admits_stopped : ∃ state,
    runSteps (Accounting.step noTexts plainConfig) (.start smallTracker) stoppedAttempts =
      some state ∧ state.dispatchedIn (lit "account") (some 86400) = 3 ∧
      state.ReserveKept (lit "account") := by
  have run : (runSteps (Accounting.step noTexts plainConfig) (.start smallTracker)
      stoppedAttempts).map (Accounting.dispatchedIn (lit "account") (some 86400)) = some 3 := by
    decide +kernel
  have permitted : Permits (Accounting.step noTexts plainConfig)
      (Accounting.Admits (lit "account") (smallTracker.dailyLimit - smallTracker.safetyBuffer))
      (.start smallTracker) stoppedAttempts := by
    decide +kernel
  obtain ⟨state, through, three⟩ := Option.map_eq_some_iff.mp run
  exact ⟨state, through, three, reserveKept_of_admits noTexts plainConfig smallTracker
    (lit "account") (by decide +kernel) (.runSteps _ .begin permitted through)⟩

/-- One at a time, the fourth attempt is the one that overspends. -/
theorem dispatchedIn_le_of_narrow_small : ∃ state,
    runSteps (Accounting.step noTexts plainConfig) (.start smallTracker)
        ((List.range 4).flatMap unansweredAttempt) = some state ∧
      state.dispatchedIn (lit "account") (some 86400) ≤ 5 - 2 + 1 := by
  have permitted : Permits (Accounting.step noTexts plainConfig) (Accounting.Narrow (lit "account") 1)
      (.start smallTracker) ((List.range 4).flatMap unansweredAttempt) := by
    decide +kernel
  have run : (runSteps (Accounting.step noTexts plainConfig) (.start smallTracker)
      ((List.range 4).flatMap unansweredAttempt)).isSome = true := by
    decide +kernel
  obtain ⟨state, through⟩ := Option.isSome_iff_exists.mp run
  exact ⟨state, through, Accounting.dispatchedIn_le_of_narrow (by decide) (by decide +kernel)
    (.runSteps _ .begin permitted through) _⟩

theorem fourth_attempt_dispatched :
    (runSteps (Accounting.step noTexts plainConfig) (.start smallTracker)
      ((List.range 4).flatMap unansweredAttempt)).map
      (fun state => state.dispatchedIn (lit "account") (some 86400)) = some 4 ∧
    smallTracker.dailyLimit - smallTracker.safetyBuffer = 3 := by
  refine ⟨?_, rfl⟩
  with_unfolding_all rfl

end Gvpn
