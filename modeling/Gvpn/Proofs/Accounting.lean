import Gvpn.Data.Slices
import Gvpn.Fronter.Tunnel
import Gvpn.Proofs.AtMostOnce

/-! Which requests to an account are counted against its quota. -/

namespace Gvpn

inductive Posting where
  -- An attempt of a direct relay.
  | direct (method : Text) (dispatch : Dispatch)
  | outer (account : Text) (attempt : Attempt)
  | tunnel (account : Text) (attempt : H1Attempt)
  | batch (account : Text) (attempt : H1Attempt)

inductive Operation where
  | relay (request : RelayRequest) (weather : Weather) (outer : Text)
  | tunnel (account : Text) (attempt : H1Attempt)
  | batch (account : Text) (attempt : H1Attempt)

section

variable (texts : LibraryTexts) (config : RelayConfig) (inflate : Bytes → Option Bytes)

namespace Posting

def account : Posting → Text
  | .direct _ dispatch => dispatch.scriptId
  | .outer account _ | .tunnel account _ | .batch account _ => account

def sends : Posting → List Sending
  | .direct method dispatch => (doRelayOnceWith texts config method dispatch).sends
  | .outer _ attempt => (sendPrebuiltPayloadThroughRelay texts attempt).sends
  | .tunnel _ attempt => (tunnelRequest texts attempt).sends
  | .batch _ attempt => (tunnelBatchRequestTo texts inflate attempt).sends

def counted : Posting → Nat
  | .direct _ dispatch => if dispatch.hardStopped then 0 else 1
  | .outer _ _ | .tunnel _ _ | .batch _ _ => 0

end Posting

def retryPostings (method : Text) (weather : Weather) : List Posting :=
  if weather.hardStoppedLater then []
  else if 2 ≤ max (min config.parallelRelay config.scriptIds.length) 1 ∧
      isMethodSafeForFanout method then
    weather.parallel.map (Posting.direct method)
  else
    match (doRelayOnceWith texts config method weather.first).result with
    | .error (.failed error) =>
      if error.isRetryable then [.direct method weather.first, .direct method weather.second]
      else [.direct method weather.first]
    | _ => [.direct method weather.first]

def directPostings (request : RelayRequest) (weather : Weather) : List Posting :=
  if coalescible request ∧ (weather.cached.isSome ∨ weather.inFlight.isSome) then []
  else retryPostings texts config request.method weather

def relayPostings (request : RelayRequest) (weather : Weather) (outer : Text) : List Posting :=
  if weather.hardStopped then []
  else if exitNodeMatches config.exitNode (relayUrl config request) then
    .outer outer weather.exitNode ::
      match (exitNodeRun texts weather.exitNode).result with
      | .error (.failed error) =>
        if error.isRetryable ∨ isMethodSafeForFanout request.method then
          directPostings texts config request weather
        else []
      | _ => []
  else directPostings texts config request weather

def Operation.postings : Operation → List Posting
  | .relay request weather outer => relayPostings texts config request weather outer
  | .tunnel account attempt => [.tunnel account attempt]
  | .batch account attempt => [.batch account attempt]

def postings (run : List Operation) : List Posting := run.flatMap (Operation.postings texts config)

theorem relayUncoalesced_sends_postings (method : Text) (weather : Weather) :
    (relayUncoalesced texts config method weather).sends =
      (retryPostings texts config method weather).flatMap (Posting.sends texts config inflate) := by
  unfold relayUncoalesced doRelayWithRetry retryPostings
  dsimp only
  split
  · rfl
  · split
    · simp [doRelayParallel, List.flatMap_map, Posting.sends]
    · -- The second attempt follows a failure that may be repeated.
      cases result : (doRelayOnceWith texts config method weather.first).result with
      | ok bytes => simp [Posting.sends]
      | error stop =>
        cases stop with
        | failed error => by_cases again : error.isRetryable = true <;> simp [again, Posting.sends]
        | panicked => simp [Posting.sends]
        | expired => simp [Posting.sends]

theorem relayDirect_sends_postings (request : RelayRequest) (weather : Weather) :
    (relayDirect texts config request weather).sends =
      (directPostings texts config request weather).flatMap
        (Posting.sends texts config inflate) := by
  have own := relayUncoalesced_sends_postings texts config inflate request.method weather
  unfold relayDirect directPostings
  cases coalescible request with
  | false => simpa using own
  | true =>
    cases weather.cached with
    | some hit => simp
    | none =>
      cases weather.inFlight with
      | none => simpa using own
      | some shared => cases shared <;> simp

theorem relay_sends_postings (request : RelayRequest) (weather : Weather) (outer : Text) :
    (relay texts config request weather).sends =
      (relayPostings texts config request weather outer).flatMap
        (Posting.sends texts config inflate) := by
  have direct := relayDirect_sends_postings texts config inflate request weather
  have first : (exitNodeRun texts weather.exitNode).sends =
      Posting.sends texts config inflate (.outer outer weather.exitNode) := rfl
  unfold relay relayPostings
  cases weather.hardStopped with
  | true => rfl
  | false =>
    by_cases matches_ : exitNodeMatches config.exitNode (relayUrl config request) = true
    · have found := matches_
      unfold relayUrl at found
      simp only [found, matches_, if_true, Bool.false_eq_true, if_false, List.flatMap_cons,
        ← first]
      cases result : (exitNodeRun texts weather.exitNode).result with
      | ok bytes => simp
      | error stop =>
        cases stop with
        | failed error =>
          by_cases again : error.isRetryable = true ∨ isMethodSafeForFanout request.method = true
          · simp only [again, if_true, direct]
          · simp [again]
        | panicked => simp
        | expired => simp
    · have missed := matches_
      unfold relayUrl at missed
      simp only [missed, matches_, Bool.false_eq_true, if_false]
      exact direct

namespace Attempt

def takesOver (attempt : Attempt) (harmless : Bool) : Bool :=
  match h2RelayRequest attempt.h2 with
  | .ok response => isH2FrontingRefusalStatus response.status
  | .error (.failed _ .no) => true
  | .error (.failed _ .maybe) => harmless
  | .error (.dropped _) => false

def SecondPost (attempt : Attempt) (harmless : Bool) : Prop :=
  attempt.takesOver harmless = true ∧ attempt.h1.written = true

instance (attempt : Attempt) (harmless : Bool) : Decidable (attempt.SecondPost harmless) :=
  inferInstanceAs (Decidable (_ ∧ _))

theorem make_sends_length (attempt : Attempt) (harmless : Bool)
    (finish : Response → Except Stop Bytes) :
    (attempt.make harmless finish).sends.length =
      (if attempt.h2.opened then 1 else 0) + if attempt.SecondPost harmless then 1 else 0 := by
  have h2 : attempt.h2Sends.length = if attempt.h2.opened then 1 else 0 := by
    unfold h2Sends
    split <;> rfl
  have h1 : attempt.h1Sends.length = if attempt.h1.written then 1 else 0 := by
    unfold h1Sends
    split <;> rfl
  have both : (attempt.fallBack finish).sends.length =
      (if attempt.h2.opened then 1 else 0) + if attempt.h1.written then 1 else 0 := by
    rw [← h2, ← h1]
    exact List.length_append
  cases result : h2RelayRequest attempt.h2 with
  | ok response =>
    by_cases refused : isH2FrontingRefusalStatus response.status = true
    · simp [make, SecondPost, takesOver, result, refused, both]
    · simp [make, SecondPost, takesOver, result, refused, h2]
  | error failure =>
    cases failure with
    | dropped sent => simp [make, SecondPost, takesOver, result, h2]
    | failed error sent =>
      cases sent with
      | no => simp [make, SecondPost, takesOver, result, both]
      | maybe =>
        cases harmless with
        | true => simp [make, SecondPost, takesOver, result, both]
        | false => simp [make, SecondPost, takesOver, result, h2]

end Attempt

def Posting.Fair : Posting → Prop
  | .direct method dispatch => dispatch.hardStopped = true ∨
    (dispatch.attempt.h2.opened = true ↔
      ¬ dispatch.attempt.SecondPost (isMethodSafeForFanout method))
  | .outer _ attempt => attempt.h2.opened = false ∧ ¬ attempt.SecondPost false
  | .tunnel _ attempt | .batch _ attempt => attempt.written = false

theorem Posting.counted_eq_iff (posting : Posting) :
    posting.counted = (posting.sends texts config inflate).length ↔ posting.Fair := by
  cases posting with
  | direct method dispatch =>
    cases stopped : dispatch.hardStopped with
    | true => simp [counted, sends, Fair, doRelayOnceWith, stopped]
    | false =>
      have length := dispatch.attempt.make_sends_length (isMethodSafeForFanout method)
        (directAnswer texts config)
      simp only [counted, sends, Fair, doRelayOnceWith, stopped, doRelayOnceInner, length,
        Bool.false_eq_true, if_false, false_or]
      cases dispatch.attempt.h2.opened <;>
        by_cases second : dispatch.attempt.SecondPost (isMethodSafeForFanout method) <;>
        simp [second]
  | outer account attempt =>
    have length := attempt.make_sends_length false (outerAnswer texts)
    simp only [counted, sends, Fair, sendPrebuiltPayloadThroughRelay, length]
    cases attempt.h2.opened <;> by_cases second : attempt.SecondPost false <;> simp [second]
  | tunnel account attempt =>
    cases written : attempt.written <;>
      simp [counted, sends, Fair, tunnelRequest, H1Attempt.post, written]
  | batch account attempt =>
    cases written : attempt.written <;>
      simp [counted, sends, Fair, tunnelBatchRequestTo, H1Attempt.post, written]

def recordedOn (account : Text) (calls : List Posting) : Nat :=
  (calls.map fun posting => if posting.account = account then posting.counted else 0).sum

def postedOn (account : Text) (calls : List Posting) : Nat :=
  (calls.map fun posting =>
    if posting.account = account then (posting.sends texts config inflate).length else 0).sum

/--
The quota of an account is counted exactly, all along a run, if and only if every call to it is
fair.
-/
theorem recorded_eq_posted_iff (run : List Operation) (account : Text) :
    (∀ done, done <+: postings texts config run →
      recordedOn account done = postedOn texts config inflate account done) ↔
      ∀ posting ∈ postings texts config run, posting.account = account → posting.Fair := by
  unfold recordedOn postedOn
  rw [totals_agree_iff]
  refine forall_congr' fun posting => forall_congr' fun _ => ?_
  by_cases own : posting.account = account
  · simpa [own] using posting.counted_eq_iff texts config inflate
  · simp [own]

end

def lostAnswer : H2Attempt := .usable .responseTimeout fun _ => .droppedBefore

def fetchedPage : RelayRequest :=
  { method := lit "GET", url := lit "https://shop.example/", headers := [], body := [] }

/--
Three runs that are counted wrongly: a batch is not, a repeated request once, an unsent one is.
-/
theorem recorded_ne_posted :
    let id : Text := lit "AKfycbx1234567890abcdef"
    let counts (run : List Operation) : Nat × Nat :=
      (recordedOn id (postings noTexts plainConfig run),
        postedOn noTexts plainConfig some id (postings noTexts plainConfig run))
    let repeated : Weather :=
      { bothTries .droppedAfter with first := ⟨id, false, ⟨lostAnswer, .droppedAfter⟩⟩ }
    counts [.batch id .droppedAfter] = (0, 1) ∧
    counts [.relay fetchedPage repeated id] = (1, 2) ∧
    counts [.relay fetchedPage (bothTries (.acquireFailed ⟨.timeout, rfl⟩)) id] = (2, 0) := by
  refine ⟨?_, ?_, ?_⟩ <;> with_unfolding_all rfl

end Gvpn
