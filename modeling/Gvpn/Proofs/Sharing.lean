import Gvpn.Data.Table
import Gvpn.Fronter.Coalescing
import Gvpn.Proofs.AtMostOnce
import Gvpn.Proofs.Envelope

/-! Requests that share a key, and the answers that are their own. -/

namespace Gvpn

open List Option

def alone (early late : Weather) : Weather :=
  { late with
    hardStopped := early.hardStopped
    exitNode := early.exitNode
    cached := none
    inFlight := none }

def OwnAnswer (texts : LibraryTexts) (config : RelayConfig) (origin : Origin)
    (request : RelayRequest) (bytes : Bytes) : Prop :=
  ∃ early late, (relay texts config request (alone (origin.weather config early request)
    (origin.weather config late request))).result = .ok bytes

def Separated (config : RelayConfig) (workload : RelayRequest → Prop) : Prop :=
  ∀ first second key, workload first → workload second → first.key config = some key →
    second.key config = some key → (buildPayload config first).h = (buildPayload config second).h

namespace ResponseCache

theorem mem_of_get {cache : ResponseCache} {key : Text} {now : Nat} {hit : Bytes}
    (found : (cache.get key now).1 = some hit) :
    ∃ entry, (key, entry) ∈ cache.entries ∧ entry.bytes = hit := by
  unfold get at found
  cases looked : cache.entries.lookup key with
  | none => simp [looked] at found
  | some entry =>
    simp only [looked] at found
    split at found
    · exact ⟨entry, mem_of_lookup_eq_some looked, some.inj found⟩
    · cases found

theorem remove_subset (cache : ResponseCache) (key : Text) (old : CachedResponse) :
    (cache.remove key old).entries ⊆ cache.entries :=
  filter_subset_self _

theorem get_subset (cache : ResponseCache) (key : Text) (now : Nat) :
    (cache.get key now).2.entries ⊆ cache.entries := by
  unfold get
  cases cache.entries.lookup key with
  | none => exact Subset.refl _
  | some entry =>
    simp only
    split
    · exact Subset.refl _
    · exact cache.remove_subset key entry

theorem makeRoom_subset (maxBytes incoming : Nat) (order : List Text)
    (entries : List (Text × CachedResponse)) (size : Nat) :
    (makeRoom maxBytes incoming entries size order).entries ⊆ entries := by
  induction order generalizing entries size with
  | nil => exact Subset.refl _
  | cons oldest rest ih =>
    unfold makeRoom
    split
    · cases entries.lookup oldest with
      | none => exact ih entries size
      | some removed =>
        exact Subset.trans (ih _ _) (filter_subset_self _)
    · exact Subset.refl _

theorem mem_put {cache : ResponseCache} {key : Text} {bytes : Bytes} {ttl now : Nat}
    {entry : Text × CachedResponse} (member : entry ∈ (cache.put key bytes ttl now).entries) :
    (entry.1 = key ∧ entry.2.bytes = bytes) ∨ entry ∈ cache.entries := by
  unfold put at member
  split at member
  · exact .inr member
  · rcases List.mem_cons.mp member with rfl | older
    · exact .inl ⟨rfl, rfl⟩
    · right
      have kept := makeRoom_subset _ _ _ _ _ older
      cases looked : cache.entries.lookup key with
      | none => simpa [looked] using kept
      | some old =>
        rw [looked] at kept
        exact cache.remove_subset key old kept

end ResponseCache

section

variable {texts : LibraryTexts} {config : RelayConfig} {origin : Origin}

theorem upper_of_cacheable {method : Text} (cacheable : isCacheableMethod method = true) :
    upper method = ['G', 'E', 'T'] ∨ upper method = ['H', 'E', 'A', 'D'] := by
  simpa [isCacheableMethod, lit] using cacheable

variable {request : RelayRequest} {key : Text}

theorem of_key (shared : request.key config = some key) :
    request.body = [] ∧ isCacheableMethod request.method = true ∧
      key = cacheKey request.method (relayUrl config request) := by
  unfold RelayRequest.key at shared
  split at shared
  · rename_i allowed
    simp only [coalescible, Bool.and_eq_true, decide_eq_true_eq] at allowed
    exact ⟨allowed.1.2, allowed.1.1, (some.inj shared).symm⟩
  · cases shared

theorem eq_of_key {first second : RelayRequest}
    (firstKey : first.key config = some key) (secondKey : second.key config = some key) :
    upper first.method = upper second.method ∧ relayUrl config first = relayUrl config second := by
  obtain ⟨-, firstMethod, firstEq⟩ := of_key firstKey
  obtain ⟨-, secondMethod, secondEq⟩ := of_key secondKey
  have same := firstEq.symm.trans secondEq
  unfold cacheKey at same
  rcases upper_of_cacheable firstMethod with firstUpper | firstUpper <;>
    rcases upper_of_cacheable secondMethod with secondUpper | secondUpper <;>
    rw [firstUpper, secondUpper] at same ⊢ <;>
    simp_all

theorem fetch_eq_of_key {first second : RelayRequest}
    (firstKey : first.key config = some key) (secondKey : second.key config = some key)
    (same : (buildPayload config first).h = (buildPayload config second).h) :
    (buildPayload config first).fetch = (buildPayload config second).fetch := by
  obtain ⟨methods, urls⟩ := eq_of_key firstKey secondKey
  have firstBody := (of_key firstKey).1
  have secondBody := (of_key secondKey).1
  simp only [Payload.fetch, buildPayload, methods, urls, firstBody, secondBody, if_true,
    Payload.mk.injEq, and_self, and_true, true_and]
  exact same

theorem relayUncoalesced_congr {first second : Text} (same : upper first = upper second)
    (weather : Weather) :
    relayUncoalesced texts config first weather = relayUncoalesced texts config second weather := by
  have fanout : isMethodSafeForFanout first = isMethodSafeForFanout second := by
    simp only [isMethodSafeForFanout, same]
  have once : doRelayOnceWith texts config first = doRelayOnceWith texts config second := by
    funext dispatch
    simp only [doRelayOnceWith, doRelayOnceInner, fanout]
  simp only [relayUncoalesced, doRelayWithRetry, doRelayParallel, once, fanout]

theorem opening_alone (request : RelayRequest) (early late : Weather) :
    opening texts config request (alone early late) = opening texts config request early := rfl

theorem opening_ends (request : RelayRequest) (weather : Weather) :
    opening texts config request weather = .direct ∨
      (∃ bytes, opening texts config request weather = .answered bytes) ∨
      opening texts config request weather = .gone := by
  unfold opening
  repeat' split
  all_goals simp

theorem relay_of_opening (request : RelayRequest) (weather : Weather) :
    match opening texts config request weather with
    | .answered bytes => (relay texts config request weather).result = .ok bytes
    | .direct => (relay texts config request weather).result =
        (relayDirect texts config request weather).result
    | _ => True := by
  unfold opening relay
  cases stopped : weather.hardStopped with
  | true => simp
  | false =>
    simp only [Bool.false_eq_true, if_false, relayUrl]
    by_cases matched : exitNodeMatches config.exitNode
        (if config.normalizeXGraphql then normalizeXGraphqlUrl request.url else request.url) = true
    · simp only [matched, if_true]
      cases result : (exitNodeRun texts weather.exitNode).result with
      | ok answer => simp [result]
      | error stop =>
        cases stop with
        | failed error =>
          by_cases falls : error.isRetryable ∨ isMethodSafeForFanout request.method <;>
            simp only [falls, if_true, if_false]
        | panicked => trivial
        | expired => trivial
    · simp only [matched]
      rfl

theorem relay_alone_of_direct {early late : Weather}
    (opened : opening texts config request early = .direct) :
    (relay texts config request (alone early late)).result =
      (relayUncoalesced texts config request.method late).result := by
  have returned := @relay_of_opening texts config request (alone early late)
  rw [opening_alone, opened] at returned
  rw [returned]
  unfold relayDirect alone
  cases coalescible request <;> rfl

def Relayed (texts : LibraryTexts) (config : RelayConfig) (origin : Origin)
    (workload : RelayRequest → Prop) (key : Text) (bytes : Bytes) : Prop :=
  ∃ request moment, workload request ∧ request.key config = some key ∧
    (relayUncoalesced texts config request.method (origin.weather config moment request)).result =
      .ok bytes

variable {workload : RelayRequest → Prop}

theorem ownAnswer_of_relayed (separated : Separated config workload)
    {moment : Nat} {bytes : Bytes} (entered : workload request)
    (shared : request.key config = some key)
    (opened : opening texts config request (origin.weather config moment request) = .direct)
    (relayed : Relayed texts config origin workload key bytes) :
    OwnAnswer texts config origin request bytes := by
  obtain ⟨other, late, otherEntered, otherKey, fetched⟩ := relayed
  refine ⟨moment, late, ?_⟩
  have same := fetch_eq_of_key otherKey shared
    (separated other request key otherEntered entered otherKey shared)
  have weathers : origin.weather config late other = origin.weather config late request := by
    simp only [Origin.weather, same]
  rw [relay_alone_of_direct opened, ← weathers,
    ← relayUncoalesced_congr (eq_of_key otherKey shared).1]
  exact fetched

theorem ownAnswer_of_fetched {moment : Nat} {bytes : Bytes}
    (opened : opening texts config request (origin.weather config moment request) = .direct)
    (fetched : (relayUncoalesced texts config request.method
      (origin.weather config moment request)).result = .ok bytes) :
    OwnAnswer texts config origin request bytes :=
  ⟨moment, moment, (relay_alone_of_direct opened).trans fetched⟩

/-- What is in the cache after a fetch was in it before, or is what the fetch came to. -/
theorem mem_storeRelayed {cache : ResponseCache} {now : Nat} {url : Text} {key : Option Text}
    {result : Except Stop Bytes} {entry : Text × CachedResponse}
    (member : entry ∈ (storeRelayed cache key url now result).entries) :
    entry ∈ cache.entries ∨ (key = some entry.1 ∧ result = .ok entry.2.bytes) := by
  unfold storeRelayed at member
  split at member
  · split at member
    · rcases ResponseCache.mem_put member with ⟨rfl, rfl⟩ | older
      · exact .inr ⟨rfl, rfl⟩
      · exact .inl older
    · exact .inl member
  · exact .inl member

end

theorem relayedResponse_inj {texts : LibraryTexts} {stripNoise : Bool} {status : Nat}
    {headers : List (Text × Json)} {left right : Bytes} (lengths : left.length = right.length)
    (same : relayedResponse texts stripNoise status headers left =
      relayedResponse texts stripNoise status headers right) : left = right := by
  unfold relayedResponse at same
  rw [lengths] at same
  exact append_cancel_left same

def answeringDispatch (content : Bytes) : Dispatch :=
  let envelope : Json := .obj [(lit "s", .num (decimal 200)), (lit "h", .obj []),
    (lit "b", .str (Base64.encode content))]
  { scriptId := []
    hardStopped := false
    attempt :=
      { h2 := .usable (.answered ⟨200, [], jsonBody envelope⟩) fun _ => .droppedAfter
        h1 := .droppedBefore } }

def answering (content : Bytes) : Weather :=
  { hardStopped := false
    hardStoppedLater := false
    exitNode := ⟨.unavailable, .acquireFailed ⟨.timeout, FronterError.isRetryable_timeout⟩⟩
    first := answeringDispatch content
    second := answeringDispatch content
    parallel := [answeringDispatch content]
    cached := none
    inFlight := none }

section

variable (texts : LibraryTexts) (config : RelayConfig)

variable (method : Text)

theorem doRelayOnceWith_answering (content : Bytes) :
    (doRelayOnceWith texts config method (answeringDispatch content)).result =
      .ok (relayedResponse texts config.stripNoise 200 [] content) := by
  have parsed := parseRelayJson_envelope texts config.stripNoise (show 200 < 2 ^ 16 by omega)
    (show ∀ member ∈ ([] : List (Text × Json)), member.2.WellFormed ∧ member.2.Small 125 by simp)
    content
  simpa [doRelayOnceWith, doRelayOnceInner, answeringDispatch, Attempt.make, h2RelayRequest,
    h2RoundTrip, followRedirects, isRedirect, isH2FrontingRefusalStatus, directAnswer,
    Json.byKey, envelopeJson] using parsed

theorem doRelayWithRetry_answering (content : Bytes) :
    (doRelayWithRetry texts config method (answering content)).result =
      .ok (relayedResponse texts config.stripNoise 200 [] content) := by
  have once := doRelayOnceWith_answering texts config method content
  unfold doRelayWithRetry answering
  simp only [Bool.false_eq_true, if_false]
  split
  · simp [doRelayParallel, once, selectOk]
  · simp [once]

theorem relayUncoalesced_answering (content : Bytes) :
    (relayUncoalesced texts config method (answering content)).result =
      .ok (relayedResponse texts config.stripNoise 200 [] content) := by
  simp only [relayUncoalesced, doRelayWithRetry_answering]

theorem opening_answering (request : RelayRequest) (content : Bytes) :
    opening texts config request (answering content) = .direct := by
  unfold opening answering
  simp only [Bool.false_eq_true, if_false]
  split
  · simp [exitNodeRun, sendPrebuiltPayloadThroughRelay, Attempt.make, h2RelayRequest,
      Attempt.fallBack, h1Exchange, relayViaExitNode, FronterError.isRetryable]
  · rfl

end

theorem ownAnswer_answering {texts : LibraryTexts} {config : RelayConfig} {origin : Origin}
    {request : RelayRequest} {content bytes : Bytes}
    (meets : ∀ moment, origin.weather config moment request = answering content)
    (own : OwnAnswer texts config origin request bytes) :
    bytes = relayedResponse texts config.stripNoise 200 [] content := by
  obtain ⟨early, late, returned⟩ := own
  rw [meets, meets, relay_alone_of_direct (opening_answering texts config request content),
    relayUncoalesced_answering] at returned
  exact (Except.ok.inj returned).symm

def cookieOrigin : Origin := fun _ payload =>
  answering (toUtf8 (((payload.h.lookup (lit "Cookie")).bind Json.asStr).getD []))

def accountScript (user : Text) : RelayRequest :=
  { method := lit "GET"
    url := lit "https://shop.example/account.js"
    headers := [(lit "Cookie", user)]
    body := [] }

def accountPage (user : Text) : Bytes :=
  toUtf8 (lit "HTTP/1.1 200 OK\r\nContent-Length: 5\r\n\r\n" ++ user)

theorem relayedResponse_accountPage {user : Text} (five : (toUtf8 user).length = 5) :
    relayedResponse noTexts plainConfig.stripNoise 200 [] (toUtf8 user) = accountPage user := by
  have head : lit "HTTP/1.1 " ++ decimal 200 ++ [' '] ++ statusText 200 ++ ['\r', '\n'] ++
      [] ++ lit "Content-Length: " ++ decimal 5 ++ ['\r', '\n', '\r', '\n'] =
        lit "HTTP/1.1 200 OK\r\nContent-Length: 5\r\n\r\n" := by
    simp [decimal, lit]
    with_unfolding_all decide
  simp only [relayedResponse, five, flatMap_nil, head, accountPage, toUtf8_append]

end Gvpn
