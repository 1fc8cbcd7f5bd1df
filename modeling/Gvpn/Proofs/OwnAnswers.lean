import Gvpn.Proofs.Coalescing

/-! Calls get their own answers where those of one key forward the same headers. -/

namespace Gvpn

open List

namespace Coalescing

/-- Whoever has an answer has one that was possible without the others. -/
def Private (texts : LibraryTexts) (config : RelayConfig) (origin : Origin)
    (state : Coalescing) : Prop :=
  ∀ call ∈ state.calls, ∀ bytes, call.phase = .answered bytes →
    OwnAnswer texts config origin call.request bytes

/-- Only requests of a workload come in. -/
def Enters (workload : RelayRequest → Prop) (_ : Coalescing) : CoalescingEvent → Prop
  | .enter request _ => workload request
  | _ => True

section

variable {texts : LibraryTexts} {config : RelayConfig} {origin : Origin}
  {workload : RelayRequest → Prop} {state after : Coalescing}

/-- A call with its own opening, fetch and answer, that waits only for one with its key. -/
structure Own (texts : LibraryTexts) (config : RelayConfig) (origin : Origin)
    (workload : RelayRequest → Prop) (state : Coalescing) (call : CoalescedCall) : Prop where
  entered : workload call.request
  opened : call.Ended ∨ opening texts config call.request
    (origin.weather config call.moment call.request) = .direct
  answered : ∀ {bytes}, call.phase = .answered bytes →
    OwnAnswer texts config origin call.request bytes
  obtained : ∀ {bytes}, call.obtained = some bytes →
    call.ownFetch texts config origin = .ok bytes
  joined : ∀ {leader}, call.joined = some leader → ∃ lead key,
    state.calls[leader]? = some lead ∧ lead.request.key config = some key ∧
      call.request.key config = some key

/-- Every call is its own, and the cache has what was relayed for its keys. -/
structure Personal (texts : LibraryTexts) (config : RelayConfig) (origin : Origin)
    (workload : RelayRequest → Prop) (state : Coalescing) : Prop where
  sound : Sound config state
  own : ∀ call ∈ state.calls, Own texts config origin workload state call
  cached : ∀ entry ∈ state.cache.entries,
    Relayed texts config origin workload entry.1 entry.2.bytes

theorem Own.mono {call : CoalescedCall} (own : Own texts config origin workload state call)
    (kept : ∀ (id : Nat) (lead : CoalescedCall), state.calls[id]? = some lead →
      ∃ later, after.calls[id]? = some later ∧ later.request = lead.request) :
    Own texts config origin workload after call := by
  refine { own with joined := fun joined => ?_ }
  obtain ⟨lead, key, found, leadKey, shared⟩ := own.joined joined
  obtain ⟨later, laterIs, same⟩ := kept _ lead found
  exact ⟨later, key, laterIs, same ▸ leadKey, shared⟩

theorem Own.enter {request : RelayRequest} (entered : workload request) (moment : Nat) :
    Own texts config origin workload state ⟨request, moment,
      opening texts config request (origin.weather config moment request), none, none, none⟩ := by
  have returned := @relay_of_opening texts config request
    (alone (origin.weather config moment request) (origin.weather config moment request))
  rw [opening_alone] at returned
  refine ⟨entered, ?_, ?_, nofun, nofun⟩
  · exact (opening_ends request _).symm
  · intro bytes answered
    change opening texts config request _ = _ at answered
    rw [answered] at returned
    exact ⟨moment, moment, returned⟩

theorem Personal.moves (personal : Personal texts config origin workload state)
    (separated : Separated config workload) {id : Nat} {call changed : CoalescedCall}
    {event : CoalescingEvent} {inflight : List (Text × Nat)} (found : state.calls[id]? = some call)
    (moves : Moves texts config origin state id call event changed inflight) :
    Own texts config origin workload state changed := by
  have own := personal.own call (mem_of_getElem? found)
  have fits := personal.sound.fits found
  have opens (runs : ¬ call.Ended) : opening texts config call.request
      (origin.weather config call.moment call.request) = .direct := own.opened.resolve_left runs
  cases moves with
  | @hit now key entry phase shared stored =>
    have opened := opens (by simp [CoalescedCall.Ended, phase])
    refine { own with opened := .inl (.inl ⟨_, rfl⟩), answered := ?_ }
    rintro bytes ⟨⟩
    exact ownAnswer_of_relayed separated own.entered shared opened (personal.cached _ stored)
  | miss phase | alone phase | lead phase =>
    exact { own with
      opened := .inr (opens (by simp [CoalescedCall.Ended, phase]))
      answered := by simp }
  | @follow key leader channel phase shared looked made =>
    obtain ⟨lead, leadIs, leadKey, -⟩ := personal.sound.led_of_lookup looked
    refine { own with
      opened := .inr (opens (by simp [CoalescedCall.Ended, phase]))
      answered := by simp
      joined := ?_ }
    rintro _ ⟨⟩
    exact ⟨lead, key, leadIs, leadKey, shared⟩
  | fetch phase returned =>
    refine { own with
      opened := .inr (opens (by simp [CoalescedCall.Ended, phase]))
      answered := by simp
      obtained := ?_ }
    rintro _ ⟨⟩
    exact returned
  | fail | drop => exact { own with opened := .inl (.inr rfl), answered := by simp }
  | publish phase | finish phase =>
    -- What was fetched is an answer of the call's own.
    have opened := opens (by simp [CoalescedCall.Ended, phase])
    refine { own with opened := .inl (.inl ⟨_, rfl⟩), answered := ?_ }
    rintro bytes ⟨⟩
    exact ownAnswer_of_fetched opened (own.obtained (fits.fetched phase))
  | @receive leader place lead bytes phase leadIs obtained =>
    -- The call that was waited for has the same key.
    have opened := opens (by simp [CoalescedCall.Ended, phase])
    obtain ⟨known, key, knownIs, leadKey, shared⟩ := own.joined (fits.first phase).2
    cases leadIs.symm.trans knownIs
    have led := personal.own lead (mem_of_getElem? leadIs)
    refine { own with opened := .inl (.inl ⟨_, rfl⟩), answered := ?_ }
    rintro _ ⟨⟩
    exact ownAnswer_of_relayed separated own.entered shared opened
      ⟨lead.request, lead.moment, led.entered, leadKey, led.obtained obtained⟩

theorem Personal.kept (personal : Personal texts config origin workload state)
    (separated : Separated config workload) {event : CoalescingEvent}
    (enters : Enters workload state event)
    (taken : state.step texts config origin event = some after) :
    Personal texts config origin workload after := by
  have sound := personal.sound.kept taken
  rcases personal.sound.moved_of_step taken with ⟨request, moment, rfl⟩ | ⟨id, call, found, moved⟩
  · cases taken
    have own : ∀ other ∈ state.calls ++ [⟨request, moment, opening texts config request
        (origin.weather config moment request), none, none, none⟩],
        Own texts config origin workload state other := by
      intro other member
      rcases List.mem_append.mp member with before | new
      · exact personal.own other before
      · exact List.mem_singleton.mp new ▸ .enter enters moment
    exact ⟨sound, fun other member => (own other member).mono fun id lead leadIs =>
      ⟨lead, getElem?_append_of_some leadIs _, rfl⟩, personal.cached⟩
  · obtain ⟨changed, inflight, cache, moves, rfl, stored⟩ := moved
    have own : ∀ other ∈ state.calls.set id changed, Own texts config origin workload state other := by
      intro other member
      rcases mem_or_eq_of_mem_set member with before | rfl
      · exact personal.own other before
      · exact personal.moves separated found moves
    refine ⟨sound, fun other member => (own other member).mono fun other lead leadIs => ?_, ?_⟩
    · rw [getElem?_set_of found]
      split
      · rename_i here
        subst here
        cases found.symm.trans leadIs
        exact ⟨changed, rfl, moves.request.1⟩
      · exact ⟨lead, leadIs, rfl⟩
    · intro entry member
      rcases stored entry member with before | ⟨shared, fetched⟩
      · exact personal.cached entry before
      · exact ⟨call.request, call.moment, (personal.own call (mem_of_getElem? found)).entered,
          shared, fetched⟩

theorem private_of_separated (separated : Separated config workload) {maxBytes : Nat}
    (reached : Reachable (step texts config origin) (Enters workload) (start maxBytes) state) :
    state.Private texts config origin := by
  have personal : Personal texts config origin workload state := by
    refine reached.invariant (Personal texts config origin workload) ?_
      fun personal enters taken => personal.kept separated enters taken
    exact ⟨sound_start maxBytes, by simp [start], by simp [start, ResponseCache.new]⟩
  exact fun call member bytes phase => (personal.own call member).answered phase

end

open Classical in
/-- An origin that answers one fetch with one content and every other fetch with another one. -/
noncomputable def tellApart (payload : Payload) : Origin := fun _ asked =>
  if asked = payload then answering [97] else answering [98]

/--
Every call is given an answer of its own, whatever the origin does and however the calls run,
exactly when requests that share a key are forwarded with the same headers.
-/
theorem private_iff_separated (texts : LibraryTexts) (config : RelayConfig) (maxBytes : Nat)
    (workload : RelayRequest → Prop) :
    (∀ (origin : Origin) (state : Coalescing),
      Reachable (step texts config origin) (Enters workload) (start maxBytes) state →
        state.Private texts config origin) ↔ Separated config workload := by
  constructor
  · intro every first second key firstIn secondIn firstKey secondKey
    by_contra differ
    have apart : (buildPayload config second).fetch ≠ (buildPayload config first).fetch := by
      intro same
      exact differ (congrArg Payload.h same).symm
    have firstMeets : ∀ moment, (tellApart (buildPayload config first).fetch).weather config moment
        first = answering [97] := by simp [Origin.weather, tellApart]
    have secondMeets : ∀ moment, (tellApart (buildPayload config first).fetch).weather config moment
        second = answering [98] := by simp [Origin.weather, tellApart, apart]
    obtain ⟨cache, ran⟩ := runSteps_coalescedCalls texts config _ maxBytes firstKey secondKey
      (firstMeets 0) (secondMeets 0)
    have permitted : Permits (step texts config (tellApart (buildPayload config first).fetch))
        (Enters workload) (start maxBytes) (coalescedCalls first second) := by
      refine permits_of_forall_mem ?_ _
      intro event member state
      simp only [coalescedCalls, mem_cons, not_mem_nil, or_false] at member
      rcases member with rfl | rfl | rfl | rfl | rfl | rfl | rfl | rfl | rfl
      · exact firstIn
      · exact secondIn
      all_goals trivial
    have own := every _ _ (Reachable.runSteps _ .begin permitted ran) ⟨second, 0, _, _, _, _⟩
      (mem_cons_of_mem _ mem_cons_self) _ rfl
    have equal := ownAnswer_answering secondMeets own
    have same := relayedResponse_inj (by simp) equal
    simp at same
  · intro separated origin state reached
    exact private_of_separated separated reached

/-- One call after the other, the second one with the first one's answer in the cache. -/
def successiveCalls (first second : RelayRequest) : List CoalescingEvent :=
  [.enter first 0, .lookup 0 0, .join 0, .fetch 0 0, .publish 0, .enter second 0, .lookup 1 0]

/-- Two users ask for one address with their own cookies, and both get the page of the first. -/
theorem answer_of_another_user :
    (∀ calls ∈ [coalescedCalls, successiveCalls],
      (runSteps (step noTexts plainConfig cookieOrigin) (start defaultMaxBytes)
        (calls (accountScript (lit "alice")) (accountScript (lit "carol")))).map
          (fun state => state.calls.map fun call => (call.request.headers, call.phase)) =
        some [([(lit "Cookie", lit "alice")], .answered (accountPage (lit "alice"))),
          ([(lit "Cookie", lit "carol")], .answered (accountPage (lit "alice")))]) ∧
    ¬ OwnAnswer noTexts plainConfig cookieOrigin (accountScript (lit "carol"))
      (accountPage (lit "alice")) := by
  have alice : ∀ moment, cookieOrigin.weather plainConfig moment (accountScript (lit "alice")) =
      answering (toUtf8 (lit "alice")) := by
    intro moment
    unfold Origin.weather cookieOrigin
    congr 1
    with_unfolding_all rfl
  have carol : ∀ moment, cookieOrigin.weather plainConfig moment (accountScript (lit "carol")) =
      answering (toUtf8 (lit "carol")) := by
    intro moment
    unfold Origin.weather cookieOrigin
    congr 1
    with_unfolding_all rfl
  have aliceKey : (accountScript (lit "alice")).key plainConfig =
      some (lit "GET:https://shop.example/account.js") := by with_unfolding_all rfl
  have carolKey : (accountScript (lit "carol")).key plainConfig =
      some (lit "GET:https://shop.example/account.js") := by with_unfolding_all rfl
  have page := @relayedResponse_accountPage (lit "alice") (by with_unfolding_all rfl)
  refine ⟨List.forall_mem_cons.mpr ⟨?_, List.forall_mem_singleton.mpr ?_⟩, ?_⟩
  · obtain ⟨cache, ran⟩ := runSteps_coalescedCalls noTexts plainConfig cookieOrigin defaultMaxBytes
      aliceKey carolKey (alice 0) (carol 0)
    rw [ran, ← page]
    rfl
  · have stored : parseTtl (accountPage (lit "alice")) (relayUrl plainConfig
        (accountScript (lit "alice"))) = some 3600 := by with_unfolding_all rfl
    have fits : (accountPage (lit "alice")).length = 43 := by with_unfolding_all rfl
    have full : accountPage (lit "alice") ≠ [] := by
      rw [← List.length_pos_iff, fits]
      decide
    have relayed := doRelayWithRetry_answering noTexts plainConfig
      (accountScript (lit "alice")).method (toUtf8 (lit "alice"))
    have fetched := relayUncoalesced_answering noTexts plainConfig
      (accountScript (lit "alice")).method (toUtf8 (lit "alice"))
    rw [page] at relayed fetched
    simp [successiveCalls, runSteps, step, start, ResponseCache.new, alice, carol,
      opening_answering, lookup, aliceKey, carolKey, ResponseCache.get, advance, update, join, fetch,
      relayed, fetched, publish, broadcast, storeRelayed, stored, ResponseCache.put,
      fits, full, ResponseCache.makeRoom, defaultMaxBytes, maxEntryFraction, second]
    exact ⟨rfl, rfl⟩
  · intro own
    have equal := ownAnswer_answering carol own
    rw [relayedResponse_accountPage (by with_unfolding_all rfl)] at equal
    exact absurd equal (by with_unfolding_all decide)

end Coalescing

end Gvpn
