import Gvpn.Data.Retry
import Gvpn.Fronter.Relay

/-! When a request that must not be repeated is sent more than once. -/

namespace Gvpn

variable {response : Response}

theorem followRedirects_error {ε : Type} {hop : Nat → Except ε Response} {kind : ε → Prop}
    (each : ∀ left failure, hop left = .error failure → kind failure) {left : Nat}
    {failure : ε}
    (failed : followRedirects hop left response = .error failure) : kind failure := by
  induction left generalizing response with
  | zero => simp [followRedirects] at failed
  | succ left ih =>
    rw [followRedirects] at failed
    split at failed
    · cases next : hop left with
      | error reason =>
        simp only [next, Except.error.injEq] at failed
        rw [← failed]
        exact each left reason next
      | ok response =>
        simp only [next] at failed
        exact ih failed
    · cases failed

def H2Attempt.dropped : H2Attempt → Bool
  | .usable .droppedBefore _ => true
  | _ => false

theorem h2RelayRequest_cases (attempt : H2Attempt) :
    (∃ response, h2RelayRequest attempt = .ok response ∧ attempt.opened = true) ∨
    (∃ error, h2RelayRequest attempt = .error (.failed error .no) ∧ attempt.opened = false ∧
      attempt.dropped = false) ∨
    (∃ error, h2RelayRequest attempt = .error (.failed error .maybe) ∧ attempt.opened = true) ∨
    (∃ sent, h2RelayRequest attempt = .error (.dropped sent) ∧
      (attempt.opened = true ∨ attempt.dropped = true)) := by
  cases attempt with
  | unavailable => simp [h2RelayRequest, H2Attempt.opened, H2Attempt.dropped]
  | usable first hops =>
    cases first with
    | answered response =>
      cases result : h2RelayRequest (.usable (.answered response) hops) with
      | ok final => exact .inl ⟨final, rfl, rfl⟩
      | error failure =>
        have marked : (∃ error, failure = .failed error .maybe) ∨
            ∃ sent, failure = .dropped sent := by
          refine followRedirects_error (fun left (reason : H2Failure) failed =>
            (?_ : (∃ error, reason = .failed error .maybe) ∨ ∃ sent, reason = .dropped sent)) result
          cases next : h2RoundTrip (hops left) with
          | ok response => simp [next] at failed
          | error inner =>
            simp only [next, Except.error.injEq] at failed
            cases inner with
            | failed error sent => exact .inl ⟨error, failed.symm⟩
            | dropped sent => exact .inr ⟨_, failed.symm⟩
        rcases marked with ⟨error, rfl⟩ | ⟨sent, rfl⟩
        · exact .inr (.inr (.inl ⟨error, rfl, rfl⟩))
        · exact .inr (.inr (.inr ⟨sent, rfl, .inl rfl⟩))
    | _ =>
      simp [h2RelayRequest, h2RoundTrip, H2Attempt.opened, H2Attempt.dropped, RoundTrip.opened]

variable {error : FronterError}

theorem h1Exchange_retryable {attempt : H1Attempt}
    (failed : h1Exchange attempt = .error (.failed error)) : error.isRetryable = true := by
  cases attempt with
  | answered response hops =>
    have plain : ∀ left stop, h1Hop (hops left) = .error stop →
        ∀ error, stop = .failed error → error.isRetryable = true := by
      intro left stop hopFailed error same
      cases outcome : hops left with
      | failed plain =>
        rw [outcome, h1Hop, same, Except.error.injEq, Stop.failed.injEq] at hopFailed
        rw [← hopFailed]
        exact plain.property
      | dropped => simp [outcome, h1Hop, same] at hopFailed
      | answered response => simp [outcome, h1Hop] at hopFailed
    exact followRedirects_error plain failed error rfl
  | droppedBefore => cases failed
  | droppedAfter => cases failed
  | acquireFailed plain =>
    cases failed
    exact plain.property
  | writeFailed plain =>
    cases failed
    exact plain.property
  | flushFailed plain =>
    cases failed
    exact plain.property
  | readFailed plain =>
    cases failed
    exact plain.property

namespace Attempt

variable (attempt : Attempt)

def FallsBack : Prop :=
  attempt.refused = true ∨ (attempt.h2.opened = false ∧ attempt.h2.dropped = false)

def GoesOut : Prop :=
  attempt.h2.opened = true ∨ (attempt.FallsBack ∧ attempt.h1.written = true)

def Arrives : Prop :=
  (attempt.h2.opened = true ∧ attempt.refused = false) ∨
    (attempt.FallsBack ∧ attempt.h1.written = true)

def Retried (unusable : Response → Prop) : Prop :=
  (∃ response, h2RelayRequest attempt.h2 = .ok response ∧ attempt.refused = false ∧
    unusable response) ∨
  (attempt.FallsBack ∧
    ((∃ error, h1Exchange attempt.h1 = .error (.failed error)) ∨
      ∃ response, h1Exchange attempt.h1 = .ok response ∧ unusable response))

end Attempt

def Run.again (run : Run Bytes) : Bool :=
  match run.result with
  | .error (.failed error) => error.isRetryable
  | _ => false

theorem Run.again_iff {run : Run Bytes}
    (plain : ∀ error, run.result = .error (.failed error) → error.isRetryable = true) :
    run.again = true ↔ ∃ error, run.result = .error (.failed error) := by
  unfold Run.again
  split
  · rename_i error failed
    simp [failed, plain error failed]
  · rename_i other
    simpa using other

section

variable {attempt : Attempt} {finish : Response → Except Stop Bytes} {unusable : Response → Prop}

theorem Attempt.make_cases (attempt : Attempt) (finish : Response → Except Stop Bytes) :
    (attempt.FallsBack ∧ attempt.make false finish = attempt.fallBack finish ∧
      ∀ response, h2RelayRequest attempt.h2 = .ok response → attempt.refused = true) ∨
    (¬ attempt.FallsBack ∧ (attempt.make false finish).sends = attempt.h2Sends ∧
      ((∃ response, h2RelayRequest attempt.h2 = .ok response ∧ attempt.refused = false ∧
        (attempt.make false finish).result = finish response) ∨
      (∀ response, h2RelayRequest attempt.h2 ≠ .ok response) ∧
        (attempt.make false finish).again = false)) := by
  rcases h2RelayRequest_cases attempt.h2 with ⟨response, result, opened⟩ |
    ⟨error, result, closed, kept⟩ | ⟨error, result, opened⟩ | ⟨sent, result, opened | dropped⟩
  · cases turnedAway : isH2FrontingRefusalStatus response.status <;>
      simp [FallsBack, refused, make, result, opened, turnedAway]
  · simp [FallsBack, make, result, closed, kept]
  · simp [FallsBack, refused, make, result, opened, Run.again, FronterError.isRetryable]
  · simp [FallsBack, refused, make, result, opened, Run.again]
  · simp [FallsBack, refused, make, result, dropped, Run.again]

theorem Attempt.make_sends (attempt : Attempt) (finish : Response → Except Stop Bytes) :
    (attempt.FallsBack ∧ (attempt.make false finish).sends = attempt.h2Sends ++ attempt.h1Sends) ∨
    (¬ attempt.FallsBack ∧ (attempt.make false finish).sends = attempt.h2Sends) := by
  rcases attempt.make_cases finish with ⟨fallsBack, made, -⟩ | ⟨stays, sends, -⟩
  · exact .inl ⟨fallsBack, by rw [made, fallBack]⟩
  · exact .inr ⟨stays, sends⟩

theorem Attempt.make_sends_eq_nil_iff :
    (attempt.make false finish).sends = [] ↔ ¬ attempt.GoesOut := by
  rcases attempt.make_sends finish with ⟨fallsBack, sends⟩ | ⟨stays, sends⟩
  · simp [sends, GoesOut, fallsBack, h2Sends, h1Sends]
  · simp [sends, GoesOut, stays, h2Sends]

theorem Attempt.make_refused_iff :
    (∀ send ∈ (attempt.make false finish).sends, send = .refused) ↔ ¬ attempt.Arrives := by
  rcases attempt.make_sends finish with ⟨fallsBack, sends⟩ | ⟨stays, sends⟩
  · cases opened : attempt.h2.opened <;> cases refused : attempt.refused <;>
      simp [sends, Arrives, fallsBack, h2Sends, h1Sends, opened, refused]
  · cases opened : attempt.h2.opened <;> cases refused : attempt.refused <;>
      simp [sends, Arrives, stays, h2Sends, opened, refused]

theorem Attempt.make_sentOnce :
    SentOnce (· = .refused) (attempt.make false finish).sends := by
  rcases attempt.make_sends finish with ⟨fallsBack, sends⟩ | ⟨stays, sends⟩
  · -- The shared connection comes first, and it is left only when it did not deliver.
    rcases fallsBack with refused | ⟨closed, -⟩
    · cases opened : attempt.h2.opened <;> cases written : attempt.h1.written <;>
        simp [sends, SentOnce, h2Sends, h1Sends, opened, refused, written]
    · cases written : attempt.h1.written <;>
        simp [sends, SentOnce, h2Sends, h1Sends, closed, written]
  · cases opened : attempt.h2.opened <;> simp [sends, SentOnce, h2Sends, opened]

theorem Attempt.make_again_iff
    (plain : ∀ response error, finish response = .error (.failed error) →
      error.isRetryable = true)
    (useless : ∀ response, (∃ error, finish response = .error (.failed error)) ↔
      unusable response) :
    (attempt.make false finish).again = true ↔ attempt.Retried unusable := by
  rcases attempt.make_cases finish with ⟨fallsBack, made, refused⟩ |
    ⟨stays, -, ⟨response, result, accepted, made⟩ | ⟨other, last⟩⟩
  · have retried : attempt.Retried unusable ↔
        (∃ error, h1Exchange attempt.h1 = .error (.failed error)) ∨
          ∃ response, h1Exchange attempt.h1 = .ok response ∧ unusable response := by
      simp only [Retried, fallsBack, true_and]
      refine or_iff_right ?_
      rintro ⟨response, result, accepted, -⟩
      simp [refused response result] at accepted
    rw [made, retried, fallBack]
    cases exchanged : h1Exchange attempt.h1 with
    | error stop =>
      rw [Run.again_iff]
      · simp
      · rintro error ⟨⟩
        exact h1Exchange_retryable exchanged
    | ok response =>
      rw [Run.again_iff (plain response)]
      simp [useless]
  · rw [Run.again_iff (made ▸ plain response), made, useless]
    simp [Retried, result, accepted, stays]
  · simp [Retried, other, stays, last]

end

def UnusableDirect (texts : LibraryTexts) (config : RelayConfig) (response : Response) : Prop :=
  response.status ≠ 200 ∨
    ∃ error, parseRelayJson texts config.stripNoise response.body = .error (.failed error)

def UnusableOuter (texts : LibraryTexts) (response : Response) : Prop :=
  response.status ≠ 200 ∨ ∃ error, parseExitNodeResponse texts response.body = .error error

theorem directAnswer_failed_iff (texts : LibraryTexts) (config : RelayConfig)
    (response : Response) :
    (∃ error, directAnswer texts config response = .error (.failed error)) ↔
      UnusableDirect texts config response := by
  unfold directAnswer UnusableDirect
  by_cases fine : response.status = 200
  · simp [fine]
  · simp [fine]

variable {texts : LibraryTexts}

theorem directAnswer_retryable {config : RelayConfig}
    (failed : directAnswer texts config response = .error (.failed error)) :
    error.isRetryable = true := by
  unfold directAnswer at failed
  split at failed
  · exact parseRelayJson_retryable failed
  · cases failed
    rfl

def exitAnswer (texts : LibraryTexts) (response : Response) : Except Stop Bytes :=
  relayViaExitNode texts (outerAnswer texts response)

theorem exitAnswer_failed_iff (texts : LibraryTexts) (response : Response) :
    (∃ error, exitAnswer texts response = .error (.failed error)) ↔
      UnusableOuter texts response := by
  unfold exitAnswer outerAnswer UnusableOuter
  by_cases fine : response.status = 200
  · cases parsed : parseExitNodeResponse texts response.body with
    | ok raw => simp [fine, relayViaExitNode, parsed]
    | error error => simp [fine, relayViaExitNode, parsed]
  · simp [fine, relayViaExitNode]

theorem envelopeResponse_retryable {envelope : Json}
    (failed : envelopeResponse texts envelope = .error error) :
    error.isRetryable = true := by
  simp only [envelopeResponse] at failed
  split at failed
  · cases failed
    rfl
  · cases failed

theorem parseExitNodeResponse_retryable {body : Bytes}
    (failed : parseExitNodeResponse texts body = .error error) :
    error.isRetryable = true := by
  unfold parseExitNodeResponse at failed
  split at failed
  · cases failed
    rfl
  · split at failed
    · cases failed
      rfl
    · exact envelopeResponse_retryable failed

theorem exitAnswer_retryable
    (failed : exitAnswer texts response = .error (.failed error)) : error.isRetryable = true := by
  unfold exitAnswer outerAnswer at failed
  by_cases fine : response.status = 200
  · cases parsed : parseExitNodeResponse texts response.body with
    | ok raw => simp [fine, relayViaExitNode, parsed] at failed
    | error reason =>
      simp only [fine, if_true, relayViaExitNode, parsed, Except.error.injEq,
        Stop.failed.injEq] at failed
      rw [← failed]
      exact parseExitNodeResponse_retryable parsed
  · simp only [fine, if_false, relayViaExitNode, Except.error.injEq, Stop.failed.injEq] at failed
    rw [← failed]
    rfl

theorem exitNodeRun_eq (texts : LibraryTexts) (attempt : Attempt) :
    exitNodeRun texts attempt = attempt.make false (exitAnswer texts) := by
  unfold exitNodeRun sendPrebuiltPayloadThroughRelay Attempt.make
  cases h2RelayRequest attempt.h2 with
  | ok response =>
    by_cases refused : isH2FrontingRefusalStatus response.status = true
    · cases exchanged : h1Exchange attempt.h1 <;>
        simp [refused, Attempt.fallBack, exchanged, exitAnswer, relayViaExitNode]
    · simp [refused, exitAnswer]
  | error failure =>
    cases failure with
    | dropped sent => simp [relayViaExitNode]
    | failed error sent =>
      cases sent with
      | maybe => simp [relayViaExitNode]
      | no =>
        cases exchanged : h1Exchange attempt.h1 <;>
          simp [Attempt.fallBack, exchanged, exitAnswer, relayViaExitNode]

inductive Try where
  | exitNode (attempt : Attempt)
  | direct (dispatch : Dispatch)

namespace Try

def run (texts : LibraryTexts) (config : RelayConfig) (method : Text) : Try → Run Bytes
  | .exitNode attempt => exitNodeRun texts attempt
  | .direct dispatch => doRelayOnceWith texts config method dispatch

def GoesOut : Try → Prop
  | .exitNode attempt => attempt.GoesOut
  | .direct dispatch => dispatch.hardStopped = false ∧ dispatch.attempt.GoesOut

def Arrives : Try → Prop
  | .exitNode attempt => attempt.Arrives
  | .direct dispatch => dispatch.hardStopped = false ∧ dispatch.attempt.Arrives

def Retried (texts : LibraryTexts) (config : RelayConfig) : Try → Prop
  | .exitNode attempt => attempt.Retried (UnusableOuter texts)
  | .direct dispatch =>
    dispatch.hardStopped = true ∨ dispatch.attempt.Retried (UnusableDirect texts config)

end Try

def relayTries (config : RelayConfig) (request : RelayRequest) (weather : Weather) : List Try :=
  if weather.hardStopped then []
  else
    (if exitNodeMatches config.exitNode (relayUrl config request) then
      [.exitNode weather.exitNode] else []) ++
    if weather.hardStoppedLater then [] else [.direct weather.first, .direct weather.second]

def nonIdempotentMethods : List Text := [lit "POST", lit "PUT", lit "PATCH", lit "DELETE"]

theorem not_safe_of_nonIdempotent {method : Text} (unsafe_ : method ∈ nonIdempotentMethods) :
    isMethodSafeForFanout method = false := by
  simp only [nonIdempotentMethods, List.mem_cons, List.not_mem_nil, or_false] at unsafe_
  rcases unsafe_ with rfl | rfl | rfl | rfl
  all_goals decide +kernel

theorem not_coalescible_of_nonIdempotent {request : RelayRequest}
    (unsafe_ : request.method ∈ nonIdempotentMethods) : coalescible request = false := by
  have single : isCacheableMethod request.method = false := by
    simp only [nonIdempotentMethods, List.mem_cons, List.not_mem_nil, or_false] at unsafe_
    rcases unsafe_ with same | same | same | same
    all_goals
      rw [same]
      decide +kernel
  simp [coalescible, single]

section

variable {texts : LibraryTexts} {config : RelayConfig} {method : Text}

theorem Try.run_spec (single : isMethodSafeForFanout method = false) (try_ : Try) :
    SentOnce (· = .refused) (try_.run texts config method).sends ∧
      ((try_.run texts config method).sends = [] ↔ ¬ try_.GoesOut) ∧
      ((∀ send ∈ (try_.run texts config method).sends, send = .refused) ↔ ¬ try_.Arrives) ∧
      ((try_.run texts config method).again = true ↔ try_.Retried texts config) := by
  cases try_ with
  | exitNode attempt =>
    rw [run, exitNodeRun_eq]
    exact ⟨Attempt.make_sentOnce, Attempt.make_sends_eq_nil_iff, Attempt.make_refused_iff,
      Attempt.make_again_iff (fun _ _ => exitAnswer_retryable) (exitAnswer_failed_iff texts)⟩
  | direct dispatch =>
    cases stopped : dispatch.hardStopped with
    | true =>
      simp [run, doRelayOnceWith, stopped, SentOnce, GoesOut, Arrives, Retried, Run.again,
        FronterError.isRetryable]
    | false =>
      have made : Try.run texts config method (.direct dispatch) =
          dispatch.attempt.make false (directAnswer texts config) := by
        simp [run, doRelayOnceWith, stopped, doRelayOnceInner, single]
      simp only [made, GoesOut, Arrives, Retried, stopped, true_and, Bool.false_eq_true, false_or]
      exact ⟨Attempt.make_sentOnce, Attempt.make_sends_eq_nil_iff, Attempt.make_refused_iff,
        Attempt.make_again_iff (fun _ _ => directAnswer_retryable)
          (directAnswer_failed_iff texts config)⟩

theorem relayUncoalesced_sends (single : isMethodSafeForFanout method = false)
    (weather : Weather) :
    (relayUncoalesced texts config method weather).sends =
      sentInTurn (fun try_ => (Try.run texts config method try_).sends)
        (fun try_ => (Try.run texts config method try_).again)
        (if weather.hardStoppedLater then [] else
          [.direct weather.first, .direct weather.second]) := by
  cases stopped : weather.hardStoppedLater with
  | true => simp [relayUncoalesced, doRelayWithRetry, stopped, sentInTurn]
  | false =>
    simp only [relayUncoalesced, doRelayWithRetry, stopped, single, Bool.false_eq_true, and_false,
      if_false]
    rw [sentInTurn, sentInTurn_singleton]
    cases result : (doRelayOnceWith texts config method weather.first).result with
    | ok bytes => simp [result, Try.run, Run.again]
    | error stop =>
      cases stop with
      | failed error =>
        cases retryable : error.isRetryable <;> simp [result, Try.run, Run.again, retryable]
      | panicked => simp [result, Try.run, Run.again]
      | expired => simp [result, Try.run, Run.again]

theorem relay_sends {request : RelayRequest} (unsafe_ : request.method ∈ nonIdempotentMethods)
    (weather : Weather) :
    (relay texts config request weather).sends =
      sentInTurn (fun try_ => (Try.run texts config request.method try_).sends)
        (fun try_ => (Try.run texts config request.method try_).again)
        (relayTries config request weather) := by
  have single := not_safe_of_nonIdempotent unsafe_
  have alone := not_coalescible_of_nonIdempotent unsafe_
  have direct : (relayDirect texts config request weather).sends =
      (relayUncoalesced texts config request.method weather).sends := by
    simp [relayDirect, alone]
  unfold relay relayTries
  cases stopped : weather.hardStopped with
  | true => simp [sentInTurn]
  | false =>
    by_cases matches_ : exitNodeMatches config.exitNode (relayUrl config request) = true
    · have found := matches_
      unfold relayUrl at found
      simp only [found, matches_, if_true, Bool.false_eq_true, if_false, List.singleton_append,
        sentInTurn]
      rw [← relayUncoalesced_sends single, ← direct]
      cases result : (exitNodeRun texts weather.exitNode).result with
      | ok bytes => simp [result, Try.run, Run.again]
      | error stop =>
        cases stop with
        | failed error =>
          cases retryable : error.isRetryable <;>
            simp [result, Try.run, Run.again, retryable, single]
        | panicked => simp [result, Try.run, Run.again]
        | expired => simp [result, Try.run, Run.again]
    · have missed := matches_
      unfold relayUrl at missed
      simp only [missed, matches_, Bool.false_eq_true, if_false, List.nil_append]
      rw [direct, relayUncoalesced_sends single]

end

/--
A request that must not be repeated is sent at most once, apart from requests turned away by the
edge, exactly when no try that arrived and is retried is followed by a try that goes out.
-/
theorem relay_sentOnce_iff (texts : LibraryTexts) (config : RelayConfig) (request : RelayRequest)
    (weather : Weather) (unsafe_ : request.method ∈ nonIdempotentMethods) :
    SentOnce (· = .refused) (relay texts config request weather).sends ↔
      NoReplay Try.GoesOut Try.Arrives (Try.Retried texts config)
        (relayTries config request weather) := by
  have each := @Try.run_spec texts config _ (not_safe_of_nonIdempotent unsafe_)
  rw [relay_sends unsafe_]
  exact sentOnce_sentInTurn_iff (fun try_ => (each try_).1) (fun try_ => (each try_).2.1)
    (fun try_ => (each try_).2.2.1) (fun try_ => (each try_).2.2.2) _

def plainConfig : RelayConfig :=
  { exitNode := ⟨false, false, []⟩
    normalizeXGraphql := false
    stripNoise := true
    parallelRelay := 1
    scriptIds := [lit "AKfycbx1234567890abcdef"] }

def postedForm : RelayRequest :=
  { method := lit "POST", url := lit "https://shop.example/pay", headers := [], body := [97] }

def bothTries (h1 : H1Attempt) : Weather :=
  let dispatch : Dispatch := ⟨lit "AKfycbx1234567890abcdef", false, ⟨.unavailable, h1⟩⟩
  { hardStopped := false
    hardStoppedLater := false
    exitNode := dispatch.attempt
    first := dispatch
    second := dispatch
    parallel := []
    cached := none
    inFlight := none }

theorem relay_sentOnce_unreachable :
    SentOnce (· = .refused) (relay noTexts plainConfig postedForm
        (bothTries (.acquireFailed ⟨.timeout, rfl⟩))).sends ↔
      NoReplay Try.GoesOut Try.Arrives (Try.Retried noTexts plainConfig)
        (relayTries plainConfig postedForm (bothTries (.acquireFailed ⟨.timeout, rfl⟩))) :=
  relay_sentOnce_iff _ _ _ _ (by simp [postedForm, nonIdempotentMethods])

theorem relay_posts_twice :
    postedForm.method ∈ nonIdempotentMethods ∧
      (relay noTexts plainConfig postedForm
        (bothTries (.readFailed ⟨.timeout, rfl⟩))).sends = [.delivered, .delivered] ∧
      ¬ SentOnce (· = .refused) (relay noTexts plainConfig postedForm
        (bothTries (.readFailed ⟨.timeout, rfl⟩))).sends := by
  have posted : postedForm.method ∈ nonIdempotentMethods := by
    simp [postedForm, nonIdempotentMethods]
  have sends : (relay noTexts plainConfig postedForm
      (bothTries (.readFailed ⟨.timeout, rfl⟩))).sends = [.delivered, .delivered] := by
    rw [relay_sends posted]
    simp [relayTries, bothTries, plainConfig, exitNodeMatches, sentInTurn, Try.run, Run.again,
      doRelayOnceWith, doRelayOnceInner, Attempt.make, Attempt.fallBack, Attempt.h2Sends,
      Attempt.h1Sends, h2RelayRequest, h1Exchange, H2Attempt.opened, H1Attempt.written,
      FronterError.isRetryable]
  refine ⟨posted, sends, ?_⟩
  rw [sends]
  simp [SentOnce]

end Gvpn
