import Gvpn.Data.Slots
import Gvpn.Fronter.Coalescing
import Gvpn.Proofs.Sharing

/-! One fetch at a time for each key, for everyone who waits for it. -/

namespace Gvpn

open List Option

namespace CoalescedCall

def Leads (call : CoalescedCall) : Prop :=
  call.phase = .fetching ∨ ∃ bytes, call.phase = .fetched bytes

def Early (call : CoalescedCall) : Prop := call.phase = .direct ∨ call.phase = .missed

def Serves (call : CoalescedCall) : Prop :=
  call.channel = some (.new 1) ∨
    ∃ bytes, call.obtained = some bytes ∧ call.channel = some (((Broadcast.new 1).send bytes).close)

def Follows (call : CoalescedCall) (leader : Nat) (lead : CoalescedCall) : Prop :=
  (∃ place, call.phase = .waiting leader place) ∨
    (∃ bytes, call.phase = .answered bytes ∧ lead.obtained = some bytes) ∨ call.phase = .gone

def ownFetch (texts : LibraryTexts) (config : RelayConfig) (origin : Origin)
    (call : CoalescedCall) : Except Stop Bytes :=
  (relayUncoalesced texts config call.request.method
    (origin.weather config call.moment call.request)).result

def Ended (call : CoalescedCall) : Prop :=
  (∃ bytes, call.phase = .answered bytes) ∨ call.phase = .gone

def toGo (call : CoalescedCall) : Nat :=
  match call.phase with
  | .direct => 4
  | .missed => 3
  | .fetching => 2
  | .fetched _ | .waiting _ _ => 1
  | .answered _ | .gone => 0

structure Keeps (before after : CoalescedCall) : Prop where
  serves : before.Serves → after.Serves
  obtained : ∀ {bytes}, before.obtained = some bytes → after.obtained = some bytes

theorem Keeps.of_eq {before after : CoalescedCall} (channel : after.channel = before.channel)
    (obtained : after.obtained = before.obtained) : Keeps before after := by
  constructor
  · unfold Serves
    rw [channel, obtained]
    exact id
  · rw [obtained]
    exact id

end CoalescedCall

namespace Coalescing

variable {texts : LibraryTexts} {config : RelayConfig} {origin : Origin}

structure Fits (config : RelayConfig) (state : Coalescing) (call : CoalescedCall) : Prop where
  unsent : call.channel = some (.new 1) →
    (∃ key, call.request.key config = some key) ∧ (call.Leads ∨ call.phase = .gone)
  first : ∀ {leader place}, call.phase = .waiting leader place →
    place = 0 ∧ call.joined = some leader
  joined : ∀ {leader}, call.joined = some leader →
    ∃ lead, state.calls[leader]? = some lead ∧ lead.Serves ∧ call.Follows leader lead
  fetched : ∀ {bytes}, call.phase = .fetched bytes → call.obtained = some bytes
  obtained : ∀ {bytes}, call.obtained = some bytes →
    call.phase = .fetched bytes ∨ call.phase = .answered bytes ∨ call.phase = .gone

structure Sound (config : RelayConfig) (state : Coalescing) : Prop where
  led : ∀ {key : Text} {leader : Nat}, (key, leader) ∈ state.inflight →
    ∃ lead, state.calls[leader]? = some lead ∧ lead.request.key config = some key ∧
      (lead.Leads ∨ lead.phase = .gone) ∧ lead.channel = some (.new 1)
  listed : ∀ {id : Nat} {call : CoalescedCall} {key : Text}, state.calls[id]? = some call →
    call.request.key config = some key → call.Leads → state.inflight.lookup key = some id
  fits : ∀ {id : Nat} {call : CoalescedCall}, state.calls[id]? = some call → Fits config state call

inductive Moves (texts : LibraryTexts) (config : RelayConfig) (origin : Origin)
    (state : Coalescing) (id : Nat) (call : CoalescedCall) :
    CoalescingEvent → CoalescedCall → List (Text × Nat) → Prop
  | hit {now : Nat} {key : Text} {entry : CachedResponse} (phase : call.phase = .direct)
    (shared : call.request.key config = some key) (stored : (key, entry) ∈ state.cache.entries) :
    Moves texts config origin state id call (.lookup id now)
      { call with phase := .answered entry.bytes } state.inflight
  | miss {now : Nat} (phase : call.phase = .direct) :
    Moves texts config origin state id call (.lookup id now)
      { call with phase := .missed } state.inflight
  | follow {key : Text} {leader : Nat} {channel : Broadcast Bytes} (phase : call.phase = .missed)
    (shared : call.request.key config = some key)
    (looked : state.inflight.lookup key = some leader)
    (made : state.channelOf leader = some channel) :
    Moves texts config origin state id call (.join id)
      { call with phase := .waiting leader channel.subscribe, joined := some leader } state.inflight
  | lead {key : Text} (phase : call.phase = .missed)
    (shared : call.request.key config = some key) (looked : state.inflight.lookup key = none) :
    Moves texts config origin state id call (.join id)
      { call with phase := .fetching, channel := some (.new 1) } ((key, id) :: state.inflight)
  | alone (phase : call.phase = .missed) (unshared : call.request.key config = none) :
    Moves texts config origin state id call (.join id)
      { call with phase := .fetching } state.inflight
  | fetch {now : Nat} {bytes : Bytes} (phase : call.phase = .fetching)
    (returned : call.ownFetch texts config origin = .ok bytes) :
    Moves texts config origin state id call (.fetch id now)
      { call with phase := .fetched bytes, obtained := some bytes } state.inflight
  | fail {now : Nat} {stop : Stop} (phase : call.phase = .fetching)
    (failed : call.ownFetch texts config origin = .error stop) :
    Moves texts config origin state id call (.fetch id now)
      { call with phase := .gone } state.inflight
  | publish {key : Text} {bytes : Bytes} (phase : call.phase = .fetched bytes)
    (shared : call.request.key config = some key)
    (looked : state.inflight.lookup key = some id) (made : call.channel = some (.new 1)) :
    Moves texts config origin state id call (.publish id)
      { call with
        phase := .answered bytes
        channel := some (((Broadcast.new 1).send bytes).close) }
      (state.inflight.filter fun fetch => fetch.1 ≠ key)
  | finish {bytes : Bytes} (phase : call.phase = .fetched bytes)
    (unshared : call.request.key config = none) :
    Moves texts config origin state id call (.publish id)
      { call with phase := .answered bytes } state.inflight
  | receive {leader place : Nat} {lead : CoalescedCall} {bytes : Bytes}
    (phase : call.phase = .waiting leader place) (found : state.calls[leader]? = some lead)
    (obtained : lead.obtained = some bytes) :
    Moves texts config origin state id call (.receive id)
      { call with phase := .answered bytes } state.inflight
  | drop (phase : ∀ bytes, call.phase ≠ .answered bytes) :
    Moves texts config origin state id call (.drop id) { call with phase := .gone } state.inflight

section

variable {state : Coalescing} {id : Nat} {call : CoalescedCall}

theorem update_eq_set (found : state.calls[id]? = some call)
    (change : CoalescedCall → CoalescedCall) :
    state.update id change = { state with calls := state.calls.set id (change call) } := by
  have same : state.calls.modify id change = state.calls.set id (change call) := by
    apply ext_getElem?
    intro other
    by_cases here : id = other
    · subst here
      obtain ⟨inside, rfl⟩ := List.getElem?_eq_some_iff.mp found
      simp [inside]
    · simp [here]
  rw [update, same]

theorem update_update (first second : CoalescedCall → CoalescedCall) :
    (state.update id first).update id second = state.update id (second ∘ first) := by
  simp only [update, modify_modify_eq]

theorem Sound.led_of_lookup (sound : Sound config state) {key : Text} {leader : Nat}
    (looked : state.inflight.lookup key = some leader) :
    ∃ lead, state.calls[leader]? = some lead ∧ lead.request.key config = some key ∧
      (lead.Leads ∨ lead.phase = .gone) ∧ lead.channel = some (.new 1) :=
  sound.led (mem_of_lookup_eq_some looked)

theorem receive_of_serves {lead : CoalescedCall} (serves : lead.Serves) :
    ∃ channel, lead.channel = some channel ∧
      ((lead.channel = some (.new 1) ∧ channel.receive 0 = .pending) ∨
        ∃ bytes, lead.obtained = some bytes ∧ channel.receive 0 = .message bytes) := by
  rcases serves with unsent | ⟨bytes, obtained, sent⟩
  · exact ⟨_, unsent, .inl ⟨unsent, Broadcast.receive_subscribe rfl⟩⟩
  · exact ⟨_, sent, .inr ⟨bytes, obtained, Broadcast.receive_send_close (Nat.zero_lt_one) bytes⟩⟩

/-- What a call moves on: itself, the map of fetches, and what it has fetched in the cache. -/
def Moved (texts : LibraryTexts) (config : RelayConfig) (origin : Origin) (state : Coalescing)
    (id : Nat) (call : CoalescedCall) (event : CoalescingEvent) (after : Coalescing) : Prop :=
  ∃ changed inflight cache, Moves texts config origin state id call event changed inflight ∧
    after = ⟨cache, inflight, state.calls.set id changed⟩ ∧
    ∀ entry ∈ cache.entries, entry ∈ state.cache.entries ∨
      (call.request.key config = some entry.1 ∧
        call.ownFetch texts config origin = .ok entry.2.bytes)

theorem Moves.moved {event : CoalescingEvent} {changed : CoalescedCall}
    {inflight : List (Text × Nat)}
    (moves : Moves texts config origin state id call event changed inflight) :
    Moved texts config origin state id call event ⟨state.cache, inflight,
      state.calls.set id changed⟩ :=
  ⟨changed, inflight, state.cache, moves, rfl, fun _ => .inl⟩

theorem moved_lookup (found : state.calls[id]? = some call) (phase : call.phase = .direct)
    (now : Nat) :
    Moved texts config origin state id call (.lookup id now) (state.lookup config id call now) := by
  unfold lookup
  split
  · rename_i key shared
    have older := state.cache.get_subset key now
    split
    · rename_i hit cache looked
      obtain ⟨entry, stored, rfl⟩ := ResponseCache.mem_of_get (congrArg Prod.fst looked)
      rw [looked] at older
      rw [advance, update_eq_set (by exact found)]
      exact ⟨_, _, _, .hit phase shared stored, rfl, fun _ member => .inl (older member)⟩
    · rename_i cache looked
      rw [looked] at older
      rw [advance, update_eq_set (by exact found)]
      exact ⟨_, _, _, .miss phase, rfl, fun _ member => .inl (older member)⟩
  · rw [advance, update_eq_set found]
    exact (Moves.miss phase).moved

variable {after : Coalescing}

theorem moved_join (found : state.calls[id]? = some call) (phase : call.phase = .missed)
    (moved : state.join config id call = some after) :
    Moved texts config origin state id call (.join id) after := by
  unfold join at moved
  split at moved
  · rename_i key shared
    split at moved
    · rename_i leader looked
      obtain ⟨channel, made, rfl⟩ := Option.map_eq_some_iff.mp moved
      rw [update_eq_set found]
      exact (Moves.follow phase shared looked made).moved
    · rename_i looked
      cases moved
      rw [update_eq_set (by exact found)]
      exact (Moves.lead phase shared looked).moved
  · rename_i unshared
    cases moved
    rw [advance, update_eq_set found]
    exact (Moves.alone phase unshared).moved

theorem moved_fetch (found : state.calls[id]? = some call) (phase : call.phase = .fetching)
    (now : Nat) :
    Moved texts config origin state id call (.fetch id now)
      (state.fetch texts config origin id call now) := by
  have stored := @mem_storeRelayed state.cache now (relayUrl config call.request)
    (call.request.key config) (doRelayWithRetry texts config call.request.method
      (origin.weather config call.moment call.request)).result
  have fetched : ∀ bytes, (doRelayWithRetry texts config call.request.method
      (origin.weather config call.moment call.request)).result = .ok bytes →
      call.ownFetch texts config origin = .ok bytes := by
    intro bytes relayed
    simp only [CoalescedCall.ownFetch, relayUncoalesced, relayed]
  unfold fetch
  dsimp only
  split
  · rename_i bytes returned
    rw [update_eq_set (by exact found)]
    exact ⟨_, _, _, .fetch phase returned, rfl, fun _ member =>
      (stored member).imp_right fun own => ⟨own.1, fetched _ own.2⟩⟩
  · rename_i stop failed
    rw [advance, update_eq_set (by exact found)]
    exact ⟨_, _, _, .fail phase failed, rfl, fun _ member =>
      (stored member).imp_right fun own => ⟨own.1, fetched _ own.2⟩⟩

variable {bytes : Bytes}

theorem Sound.publish_eq (sound : Sound config state) (found : state.calls[id]? = some call)
    (phase : call.phase = .fetched bytes) {key : Text}
    (shared : call.request.key config = some key) :
    state.inflight.lookup key = some id ∧ call.channel = some (.new 1) ∧
      state.publish config id call bytes =
        ⟨state.cache, state.inflight.filter fun fetch => fetch.1 ≠ key, state.calls.set id
          { call with
            phase := .answered bytes
            channel := some (((Broadcast.new 1).send bytes).close) }⟩ := by
  have looked := sound.listed found shared (.inr ⟨bytes, phase⟩)
  obtain ⟨lead, leadIs, -, -, made⟩ := sound.led_of_lookup looked
  cases found.symm.trans leadIs
  simp only [publish, shared, broadcast, looked]
  rw [advance, update_update, update_eq_set (by exact found)]
  simp [made]

theorem Sound.moved_publish (sound : Sound config state) (found : state.calls[id]? = some call)
    (phase : call.phase = .fetched bytes) :
    Moved texts config origin state id call (.publish id) (state.publish config id call bytes) := by
  cases shared : call.request.key config with
  | none =>
    simp only [publish, shared]
    rw [advance, update_eq_set found]
    exact (Moves.finish phase shared).moved
  | some key =>
    obtain ⟨looked, made, published⟩ := sound.publish_eq found phase shared
    exact published ▸ (Moves.publish phase shared looked made).moved

theorem Sound.moved_receive (sound : Sound config state) (found : state.calls[id]? = some call)
    {leader place : Nat} (phase : call.phase = .waiting leader place)
    (moved : state.receive id leader place = some after) :
    Moved texts config origin state id call (.receive id) after := by
  have fits := sound.fits found
  obtain ⟨rfl, joined⟩ := fits.first phase
  obtain ⟨lead, leadIs, serves, -⟩ := fits.joined joined
  obtain ⟨channel, made, received⟩ := receive_of_serves serves
  simp only [receive, channelOf, leadIs, bind_some, made] at moved
  rcases received with ⟨-, pending⟩ | ⟨bytes, obtained, message⟩
  · simp [pending] at moved
  · simp only [message, some.injEq] at moved
    subst moved
    rw [advance, update_eq_set found]
    exact (Moves.receive phase leadIs obtained).moved

variable {event : CoalescingEvent}

theorem Sound.moved_of_step (sound : Sound config state)
    (taken : state.step texts config origin event = some after) :
    (∃ request moment, event = .enter request moment) ∨
      ∃ id call, state.calls[id]? = some call ∧
        Moved texts config origin state id call event after := by
  cases event with
  | enter request moment => exact .inl ⟨request, moment, rfl⟩
  | lookup id now =>
    obtain ⟨call, found, moved⟩ := Option.bind_eq_some_iff.mp taken
    split at moved <;> cases moved
    rename_i phase
    exact .inr ⟨id, call, found, moved_lookup found phase now⟩
  | join id =>
    obtain ⟨call, found, moved⟩ := Option.bind_eq_some_iff.mp taken
    split at moved
    · rename_i phase
      exact .inr ⟨id, call, found, moved_join found phase moved⟩
    · cases moved
  | fetch id now =>
    obtain ⟨call, found, moved⟩ := Option.bind_eq_some_iff.mp taken
    split at moved <;> cases moved
    rename_i phase
    exact .inr ⟨id, call, found, moved_fetch found phase now⟩
  | publish id =>
    obtain ⟨call, found, moved⟩ := Option.bind_eq_some_iff.mp taken
    split at moved <;> cases moved
    rename_i phase
    exact .inr ⟨id, call, found, sound.moved_publish found phase⟩
  | receive id =>
    obtain ⟨call, found, moved⟩ := Option.bind_eq_some_iff.mp taken
    split at moved
    · rename_i phase
      exact .inr ⟨id, call, found, sound.moved_receive found phase moved⟩
    · cases moved
  | drop id =>
    obtain ⟨call, found, moved⟩ := Option.bind_eq_some_iff.mp taken
    split at moved <;> cases moved
    rename_i unanswered
    rw [advance, update_eq_set found]
    exact .inr ⟨id, call, found, (Moves.drop unanswered).moved⟩

theorem getElem?_set_of (found : state.calls[id]? = some call) (changed : CoalescedCall)
    (other : Nat) :
    (state.calls.set id changed)[other]? =
      if id = other then some changed else state.calls[other]? := by
  have inside := (List.getElem?_eq_some_iff.mp found).1
  by_cases here : id = other
  · subst here
    simp [inside]
  · simp [here]

theorem Fits.mono (fits : Fits config state call)
    (kept : ∀ (leader : Nat) (lead : CoalescedCall), state.calls[leader]? = some lead →
      ∃ later, after.calls[leader]? = some later ∧ lead.Keeps later) :
    Fits config after call := by
  refine { fits with joined := ?_ }
  intro leader joined
  obtain ⟨lead, leadIs, serves, follows⟩ := fits.joined joined
  obtain ⟨later, laterIs, keeps⟩ := kept leader lead leadIs
  refine ⟨later, laterIs, keeps.serves serves, ?_⟩
  rcases follows with waiting | ⟨bytes, answered, obtained⟩ | gone
  · exact .inl waiting
  · exact .inr (.inl ⟨bytes, answered, keeps.obtained obtained⟩)
  · exact .inr (.inr gone)

theorem Fits.of_early (fits : Fits config state call) (early : call.Early) :
    call.channel ≠ some (.new 1) ∧ call.joined = none ∧ call.obtained = none := by
  refine ⟨?_, ?_, ?_⟩
  · intro made
    have leads := (fits.unsent made).2
    rcases early with phase | phase <;> simp [CoalescedCall.Leads, phase] at leads
  · by_contra some_
    obtain ⟨leader, joined⟩ := Option.ne_none_iff_exists'.mp some_
    obtain ⟨lead, -, -, follows⟩ := fits.joined joined
    rcases early with phase | phase <;> simp [CoalescedCall.Follows, phase] at follows
  · by_contra some_
    obtain ⟨bytes, obtained⟩ := Option.ne_none_iff_exists'.mp some_
    have ended := fits.obtained obtained
    rcases early with phase | phase <;> simp [phase] at ended

theorem Fits.of_leads (fits : Fits config state call) (leads : call.Leads) : call.joined = none := by
  by_contra some_
  obtain ⟨leader, joined⟩ := Option.ne_none_iff_exists'.mp some_
  obtain ⟨lead, -, -, follows⟩ := fits.joined joined
  rcases leads with phase | ⟨bytes, phase⟩ <;> simp [CoalescedCall.Follows, phase] at follows

theorem Fits.of_bare (unjoined : call.joined = none) (nothing : call.obtained = none)
    (unsent : call.channel = some (.new 1) →
      (∃ key, call.request.key config = some key) ∧ (call.Leads ∨ call.phase = .gone))
    (unfetched : ∀ bytes, call.phase ≠ .fetched bytes)
    (unwaiting : ∀ leader place, call.phase ≠ .waiting leader place) : Fits config state call where
  unsent := unsent
  first phase := absurd phase (unwaiting _ _)
  joined joined := by simp [unjoined] at joined
  fetched phase := absurd phase (unfetched _)
  obtained obtained := by simp [nothing] at obtained

theorem Fits.gone (fits : Fits config state call) :
    Fits config state { call with phase := .gone } where
  unsent made := ⟨(fits.unsent made).1, .inr rfl⟩
  first phase := by cases phase
  joined joined := by
    obtain ⟨lead, leadIs, serves, -⟩ := fits.joined joined
    exact ⟨lead, leadIs, serves, .inr (.inr rfl)⟩
  fetched phase := by cases phase
  obtained _ := .inr (.inr rfl)

theorem Fits.answered (fits : Fits config state call)
    (phase : call.phase = .fetched bytes) {channel : Option (Broadcast Bytes)}
    (sent : channel ≠ some (.new 1)) :
    Fits config state { call with phase := .answered bytes, channel := channel } where
  unsent made := absurd made sent
  first phase := by cases phase
  joined joined := by
    rw [fits.of_leads (.inr ⟨bytes, phase⟩)] at joined
    cases joined
  fetched phase := by cases phase
  obtained obtained := by
    have same := (fits.fetched phase).symm.trans obtained
    cases same
    exact .inr (.inl rfl)

namespace Moves

variable {event : CoalescingEvent} {changed : CoalescedCall} {inflight : List (Text × Nat)}
  (moves : Moves texts config origin state id call event changed inflight)

include moves

theorem request : changed.request = call.request ∧ changed.moment = call.moment := by
  cases moves <;> exact ⟨rfl, rfl⟩

theorem keeps (fits : Fits config state call) : call.Keeps changed := by
  cases moves with
  | lead phase shared looked => exact ⟨fun _ => .inl rfl, fun obtained => obtained⟩
  | fetch phase =>
    -- Nothing was obtained before.
    have nothing : call.obtained = none := by
      by_contra some_
      obtain ⟨bytes, obtained⟩ := Option.ne_none_iff_exists'.mp some_
      have ended := fits.obtained obtained
      simp [phase] at ended
    constructor
    · rintro (unsent | ⟨bytes, obtained, -⟩)
      · exact .inl unsent
      · simp [nothing] at obtained
    · intro bytes obtained
      simp [nothing] at obtained
  | publish phase shared looked made =>
    exact ⟨fun _ => .inr ⟨_, fits.fetched phase, rfl⟩, fun obtained => obtained⟩
  | _ => exact .of_eq rfl rfl

theorem fits (sound : Sound config state) (found : state.calls[id]? = some call) :
    Fits config state changed := by
  have before := sound.fits found
  cases moves with
  | hit phase | miss phase =>
    obtain ⟨unmade, unjoined, nothing⟩ := before.of_early (.inl phase)
    exact .of_bare unjoined nothing (fun made => absurd made unmade) (by simp) (by simp)
  | @follow key leader channel phase shared looked made =>
    obtain ⟨unmade, unjoined, nothing⟩ := before.of_early (.inr phase)
    obtain ⟨lead, leadIs, -, -, fresh⟩ := sound.led_of_lookup looked
    simp only [channelOf, leadIs, bind_some, fresh, some.injEq] at made
    subst made
    constructor
    · exact fun made => absurd made unmade
    · rintro _ _ ⟨⟩
      exact ⟨rfl, rfl⟩
    · rintro _ ⟨⟩
      exact ⟨lead, leadIs, .inl fresh, .inl ⟨_, rfl⟩⟩
    · rintro _ ⟨⟩
    · intro bytes obtained
      simp [nothing] at obtained
  | lead phase shared looked =>
    obtain ⟨-, unjoined, nothing⟩ := before.of_early (.inr phase)
    exact .of_bare unjoined nothing (fun _ => ⟨⟨_, shared⟩, .inl (.inl rfl)⟩) (by simp) (by simp)
  | alone phase unshared =>
    obtain ⟨unmade, unjoined, nothing⟩ := before.of_early (.inr phase)
    exact .of_bare unjoined nothing (fun made => absurd made unmade) (by simp) (by simp)
  | @fetch now bytes phase returned =>
    have unjoined := before.of_leads (.inl phase)
    constructor
    · exact fun made => ⟨(before.unsent made).1, .inl (.inr ⟨bytes, rfl⟩)⟩
    · rintro _ _ ⟨⟩
    · intro leader joined
      simp [unjoined] at joined
    · rintro _ ⟨⟩
      rfl
    · rintro _ ⟨⟩
      exact .inl rfl
  | fail phase failed => exact before.gone
  | publish phase shared looked made =>
    exact before.answered phase (by simp [Broadcast.new, Broadcast.send, Broadcast.close])
  | finish phase unshared =>
    refine before.answered phase ?_
    intro made
    obtain ⟨⟨key, shared⟩, -⟩ := before.unsent made
    simp [unshared] at shared
  | @receive leader place lead bytes phase leadIs obtained =>
    obtain ⟨-, joined⟩ := before.first phase
    constructor
    · intro made
      have leads := (before.unsent made).2
      simp [CoalescedCall.Leads, phase] at leads
    · rintro _ _ ⟨⟩
    · intro other otherIs
      cases joined.symm.trans otherIs
      obtain ⟨known, knownIs, serves, -⟩ := before.joined joined
      cases leadIs.symm.trans knownIs
      exact ⟨lead, leadIs, serves, .inr (.inl ⟨bytes, rfl, obtained⟩)⟩
    · rintro _ ⟨⟩
    · intro other otherIs
      have ended := before.obtained otherIs
      simp [phase] at ended
  | drop unanswered => exact before.gone

variable {key : Text}

theorem led (sound : Sound config state) (found : state.calls[id]? = some call) {leader : Nat}
    (member : (key, leader) ∈ inflight) :
    (leader ≠ id ∧ (key, leader) ∈ state.inflight) ∨
      (leader = id ∧ call.request.key config = some key ∧
        (changed.Leads ∨ changed.phase = .gone) ∧ changed.channel = some (.new 1)) := by
  by_cases same : leader = id
  · subst same
    right
    have before : (key, leader) ∈ state.inflight → call.request.key config = some key ∧
        (call.Leads ∨ call.phase = .gone) ∧ call.channel = some (.new 1) := by
      intro member
      obtain ⟨lead, leadIs, known⟩ := sound.led member
      cases found.symm.trans leadIs
      exact known
    cases moves with
    | hit phase | miss phase | follow phase | alone phase | receive phase =>
      have leads := (before member).2.1
      simp [CoalescedCall.Leads, phase] at leads
    | lead phase shared looked =>
      rcases List.mem_cons.mp member with own | member
      · cases own
        exact ⟨rfl, shared, .inl (.inl rfl), rfl⟩
      · have leads := (before member).2.1
        simp [CoalescedCall.Leads, phase] at leads
    | fetch phase => exact ⟨rfl, (before member).1, .inl (.inr ⟨_, rfl⟩), (before member).2.2⟩
    | fail phase | drop phase => exact ⟨rfl, (before member).1, .inr rfl, (before member).2.2⟩
    | publish phase shared looked made =>
      obtain ⟨member, other⟩ := List.mem_filter.mp member
      have same := (before member).1.symm.trans shared
      cases same
      simp at other
    | finish phase unshared =>
      have shared := (before member).1
      simp [unshared] at shared
  · left
    refine ⟨same, ?_⟩
    cases moves with
    | lead phase shared looked =>
      rcases List.mem_cons.mp member with own | member
      · cases own
        exact absurd rfl same
      · exact member
    | publish => exact (List.mem_filter.mp member).1
    | _ => exact member

theorem lookup_other {other : Nat} (distinct : other ≠ id)
    (looked : state.inflight.lookup key = some other) : inflight.lookup key = some other := by
  cases moves with
  | @lead own phase shared missing =>
    have differs : key ≠ own := by
      rintro rfl
      simp [missing] at looked
    rw [lookup_cons, beq_eq_false_iff_ne.mpr differs]
    exact looked
  | @publish own bytes phase shared present =>
    have differs : key ≠ own := by
      rintro rfl
      exact distinct (some.inj (looked.symm.trans present))
    rw [lookup_filter_of_kept (by simp [differs])]
    exact looked
  | _ => exact looked

theorem lookup_own (sound : Sound config state) (found : state.calls[id]? = some call)
    (shared : call.request.key config = some key) (leads : changed.Leads) :
    inflight.lookup key = some id := by
  cases moves with
  | lead phase own looked =>
    cases shared.symm.trans own
    simp
  | alone phase unshared => simp [unshared] at shared
  | fetch phase => exact sound.listed found shared (.inl phase)
  | _ => simp [CoalescedCall.Leads] at leads

end Moves

theorem Sound.moved (sound : Sound config state) (found : state.calls[id]? = some call)
    (moved : Moved texts config origin state id call event after) : Sound config after := by
  obtain ⟨changed, inflight, cache, moves, rfl, -⟩ := moved
  have request := moves.request.1
  have look := getElem?_set_of found changed
  constructor
  · intro key leader member
    rcases moves.led sound found member with ⟨other, member⟩ | ⟨rfl, shared, leads, made⟩
    · obtain ⟨lead, leadIs, known⟩ := sound.led member
      exact ⟨lead, by rw [look, if_neg (Ne.symm other), leadIs], known⟩
    · exact ⟨changed, by rw [look, if_pos rfl], request ▸ shared, leads, made⟩
  · intro other known key knownIs shared leads
    rw [look] at knownIs
    split at knownIs
    · rename_i here
      cases knownIs
      subst here
      exact moves.lookup_own sound found (request ▸ shared) leads
    · rename_i away
      exact moves.lookup_other (Ne.symm away) (sound.listed knownIs shared leads)
  · intro other known knownIs
    have kept : ∀ (leader : Nat) (lead : CoalescedCall), state.calls[leader]? = some lead →
        ∃ later, (state.calls.set id changed)[leader]? = some later ∧ lead.Keeps later := by
      intro leader lead leadIs
      rw [look]
      by_cases here : id = leader
      · subst here
        cases found.symm.trans leadIs
        exact ⟨changed, if_pos rfl, moves.keeps (sound.fits found)⟩
      · exact ⟨lead, by rw [if_neg here, leadIs], .of_eq rfl rfl⟩
    rw [look] at knownIs
    split at knownIs
    · cases knownIs
      exact (moves.fits sound found).mono kept
    · exact (sound.fits knownIs).mono kept

theorem Sound.enter (sound : Sound config state) {entered : CoalescedCall}
    (bare : entered.channel = none ∧ entered.joined = none ∧ entered.obtained = none)
    (opened : entered.phase = .direct ∨ entered.Ended) :
    Sound config { state with calls := state.calls ++ [entered] } := by
  obtain ⟨unmade, unjoined, nothing⟩ := bare
  constructor
  · intro key leader member
    obtain ⟨lead, leadIs, known⟩ := sound.led member
    exact ⟨lead, getElem?_append_of_some leadIs _, known⟩
  · intro id call key found shared leads
    rcases getElem?_concat_eq_some found with before | rfl
    · exact sound.listed before shared leads
    · rcases leads with phase | ⟨bytes, phase⟩ <;> simp [CoalescedCall.Ended, phase] at opened
  · intro id call found
    have kept : ∀ (leader : Nat) (lead : CoalescedCall), state.calls[leader]? = some lead →
        ∃ later, (state.calls ++ [entered])[leader]? = some later ∧ lead.Keeps later :=
      fun leader lead leadIs => ⟨lead, getElem?_append_of_some leadIs _, .of_eq rfl rfl⟩
    rcases getElem?_concat_eq_some found with before | rfl
    · exact (sound.fits before).mono kept
    · refine .of_bare unjoined nothing (fun made => by simp [unmade] at made) ?_ ?_
      all_goals
        intros
        intro phase
        simp [CoalescedCall.Ended, phase] at opened

theorem Sound.kept (sound : Sound config state)
    (taken : state.step texts config origin event = some after) : Sound config after := by
  rcases sound.moved_of_step taken with ⟨request, moment, rfl⟩ | ⟨id, call, found, moved⟩
  · cases taken
    exact sound.enter ⟨rfl, rfl, rfl⟩ (opening_ends request _)
  · exact sound.moved found moved

theorem sound_start (maxBytes : Nat) : Sound config (start maxBytes) := by
  constructor <;> simp [start]

end

def Completes (texts : LibraryTexts) (config : RelayConfig) (origin : Origin)
    (state : Coalescing) : CoalescingEvent → Prop
  | .fetch id _ => ∀ call, state.calls[id]? = some call →
      ∃ bytes, call.ownFetch texts config origin = .ok bytes
  | .drop _ => False
  | _ => True

def Continues (texts : LibraryTexts) (config : RelayConfig) (origin : Origin)
    (state : Coalescing) (event : CoalescingEvent) : Prop :=
  Completes texts config origin state event ∧ ∀ request moment, event ≠ .enter request moment

structure Complete (texts : LibraryTexts) (config : RelayConfig) (origin : Origin)
    (state : Coalescing) : Prop where
  sound : Sound config state
  gone : ∀ call ∈ state.calls, call.phase = .gone → call.joined = none ∧ call.channel = none
  obtained : ∀ call ∈ state.calls, ∀ bytes, call.obtained = some bytes →
    call.ownFetch texts config origin = .ok bytes

section

variable {state : Coalescing} {id : Nat} {call : CoalescedCall}

namespace Moves

variable {event : CoalescingEvent} {changed : CoalescedCall} {inflight : List (Text × Nat)}
  (moves : Moves texts config origin state id call event changed inflight)

include moves

theorem not_gone (found : state.calls[id]? = some call)
    (completes : Completes texts config origin state event) : changed.phase ≠ .gone := by
  cases moves with
  | fail phase failed =>
    obtain ⟨bytes, returned⟩ := completes call found
    simp [failed] at returned
  | drop => exact False.elim completes
  | _ => simp

theorem ownFetch_eq : changed.ownFetch texts config origin = call.ownFetch texts config origin := by
  obtain ⟨request, moment⟩ := moves.request
  rw [CoalescedCall.ownFetch, CoalescedCall.ownFetch, request, moment]

theorem obtained {bytes : Bytes} (obtained : changed.obtained = some bytes) :
    call.obtained = some bytes ∨ call.ownFetch texts config origin = .ok bytes := by
  cases moves with
  | fetch phase returned =>
    cases obtained
    exact .inr returned
  | _ => exact .inl obtained

theorem toGo_lt (completes : Completes texts config origin state event) :
    changed.toGo < call.toGo := by
  cases moves with
  | drop => exact False.elim completes
  | hit phase | miss phase | follow phase | lead phase | alone phase | fetch phase | fail phase
  | publish phase | finish phase | receive phase => simp [CoalescedCall.toGo, phase]

end Moves

theorem Complete.kept (complete : Complete texts config origin state) {event : CoalescingEvent}
    {after : Coalescing} (completes : Completes texts config origin state event)
    (taken : state.step texts config origin event = some after) :
    Complete texts config origin after := by
  have each : ∀ call ∈ after.calls,
      (call.phase = .gone → call.joined = none ∧ call.channel = none) ∧
        ∀ bytes, call.obtained = some bytes → call.ownFetch texts config origin = .ok bytes := by
    rcases complete.sound.moved_of_step taken with ⟨request, moment, rfl⟩ | ⟨id, call, found, moved⟩
    · cases taken
      intro call member
      rcases List.mem_append.mp member with before | new
      · exact ⟨complete.gone call before, complete.obtained call before⟩
      · rw [List.mem_singleton.mp new]
        exact ⟨fun _ => ⟨rfl, rfl⟩, fun _ obtained => by cases obtained⟩
    · obtain ⟨changed, inflight, cache, moves, rfl, -⟩ := moved
      intro other member
      rcases mem_or_eq_of_mem_set member with before | rfl
      · exact ⟨complete.gone other before, complete.obtained other before⟩
      · refine ⟨fun phase => absurd phase (moves.not_gone found completes), ?_⟩
        intro bytes obtained
        rw [moves.ownFetch_eq]
        rcases moves.obtained obtained with before | returned
        · exact complete.obtained call (mem_of_getElem? found) bytes before
        · exact returned
  exact ⟨complete.sound.kept taken, fun call member => (each call member).1,
    fun call member => (each call member).2⟩

theorem Complete.of_reachable {maxBytes : Nat}
    (reached : Reachable (step texts config origin) (Completes texts config origin)
      (start maxBytes) state) : Complete texts config origin state := by
  refine reached.invariant (Complete texts config origin) ?_
    fun complete completes taken => complete.kept completes taken
  exact ⟨sound_start maxBytes, by simp [start], by simp [start]⟩

theorem Complete.leads (complete : Complete texts config origin state)
    (found : state.calls[id]? = some call) (made : call.channel = some (.new 1)) : call.Leads := by
  rcases ((complete.sound.fits found).unsent made).2 with leads | gone
  · exact leads
  · have unmade := (complete.gone call (mem_of_getElem? found) gone).2
    simp [made] at unmade

theorem Complete.joined (complete : Complete texts config origin state)
    (found : state.calls[id]? = some call) {leader : Nat} (joined : call.joined = some leader) :
    ∃ lead, state.calls[leader]? = some lead ∧
      ((∃ bytes, call.phase = .answered bytes ∧ lead.obtained = some bytes) ∨
        call.phase = .waiting leader 0 ∧
          ((lead.Leads ∧ state.step texts config origin (.receive id) = none) ∨
            ∃ bytes, lead.obtained = some bytes ∧ state.step texts config origin (.receive id) =
              some (state.advance id (.answered bytes)))) := by
  have fits := complete.sound.fits found
  obtain ⟨lead, leadIs, serves, follows⟩ := fits.joined joined
  refine ⟨lead, leadIs, ?_⟩
  rcases follows with ⟨place, phase⟩ | answered | gone
  · right
    obtain ⟨rfl, -⟩ := fits.first phase
    refine ⟨phase, ?_⟩
    obtain ⟨channel, made, received⟩ := receive_of_serves serves
    rcases received with ⟨unsent, pending⟩ | ⟨bytes, obtained, message⟩
    · left
      refine ⟨complete.leads leadIs unsent, ?_⟩
      simp [step, found, phase, receive, channelOf, leadIs, made, pending]
    · right
      refine ⟨bytes, obtained, ?_⟩
      simp [step, found, phase, receive, channelOf, leadIs, made, message]
  · exact .inl answered
  · have unjoined := (complete.gone call (mem_of_getElem? found) gone).1
    simp [joined] at unjoined

theorem exists_step_of_leads (found : state.calls[id]? = some call) (leads : call.Leads)
    (returns : ∃ bytes, call.ownFetch texts config origin = .ok bytes) :
    ∃ event, Continues texts config origin state event ∧
      state.step texts config origin event ≠ none := by
  rcases leads with phase | ⟨bytes, phase⟩
  · refine ⟨.fetch id 0, ⟨?_, by simp⟩, by simp [step, found, phase]⟩
    intro other otherIs
    cases found.symm.trans otherIs
    exact returns
  · exact ⟨.publish id, ⟨trivial, by simp⟩, by simp [step, found, phase]⟩

theorem Complete.exists_step (complete : Complete texts config origin state)
    (returns : ∀ call ∈ state.calls, ∃ bytes, call.ownFetch texts config origin = .ok bytes)
    (found : state.calls[id]? = some call) (runs : ¬ call.Ended) :
    ∃ event, Continues texts config origin state event ∧
      state.step texts config origin event ≠ none := by
  cases phase : call.phase with
  | direct =>
    exact ⟨.lookup id 0, ⟨trivial, by simp⟩, by simp [step, found, phase]⟩
  | missed =>
    refine ⟨.join id, ⟨trivial, by simp⟩, ?_⟩
    simp only [step, found, bind_some, phase, join]
    split
    · split
      · rename_i leader looked
        -- A sender in the map has a channel.
        obtain ⟨lead, leadIs, -, -, made⟩ := complete.sound.led_of_lookup looked
        simp [channelOf, leadIs, made]
      · simp
    · simp
  | fetching =>
    exact exists_step_of_leads found (.inl phase) (returns call (mem_of_getElem? found))
  | fetched bytes =>
    exact exists_step_of_leads found (.inr ⟨bytes, phase⟩)
      (returns call (mem_of_getElem? found))
  | waiting leader place =>
    obtain ⟨-, joined⟩ := (complete.sound.fits found).first phase
    obtain ⟨lead, leadIs, ⟨bytes, answered, -⟩ | ⟨-, ⟨leads, -⟩ | ⟨bytes, -, received⟩⟩⟩ :=
      complete.joined found joined
    · simp [phase] at answered
    · exact exists_step_of_leads leadIs leads (returns lead (mem_of_getElem? leadIs))
    · exact ⟨.receive id, ⟨trivial, by simp⟩, by simp [received]⟩
  | answered bytes => exact absurd (.inl ⟨bytes, phase⟩) runs
  | gone => exact absurd (.inr phase) runs

theorem sum_toGo_set_lt {calls : List CoalescedCall} {changed : CoalescedCall}
    (found : calls[id]? = some call) (fewer : changed.toGo < call.toGo) :
    ((calls.set id changed).map CoalescedCall.toGo).sum < (calls.map CoalescedCall.toGo).sum := by
  induction calls generalizing id with
  | nil => simp at found
  | cons first others ih =>
    cases id with
    | zero =>
      cases found
      simp only [set_cons_zero, map_cons, sum_cons]
      omega
    | succ id =>
      have later := ih found
      simp only [set_cons_succ, map_cons, sum_cons]
      omega

theorem Complete.exists_ended (complete : Complete texts config origin state)
    (returns : ∀ call ∈ state.calls, ∃ bytes, call.ownFetch texts config origin = .ok bytes) :
    ∃ final, Reachable (step texts config origin) (Continues texts config origin) state final ∧
      ∀ call ∈ final.calls, call.Ended := by
  let Kept (state : Coalescing) : Prop := Complete texts config origin state ∧
    ∀ call ∈ state.calls, ∃ bytes, call.ownFetch texts config origin = .ok bytes
  have lowers : ∀ {state after : Coalescing} {event : CoalescingEvent}, Kept state →
      Continues texts config origin state event →
      state.step texts config origin event = some after →
      Kept after ∧ (after.calls.map CoalescedCall.toGo).sum <
        (state.calls.map CoalescedCall.toGo).sum := by
    intro state after event kept continues taken
    obtain ⟨complete, returns⟩ := kept
    have later := complete.kept continues.1 taken
    rcases complete.sound.moved_of_step taken with ⟨request, moment, rfl⟩ | ⟨id, call, found, moved⟩
    · exact absurd rfl (continues.2 request moment)
    · obtain ⟨changed, inflight, cache, moves, rfl, -⟩ := moved
      refine ⟨⟨later, ?_⟩, sum_toGo_set_lt found (moves.toGo_lt continues.1)⟩
      intro other member
      rcases mem_or_eq_of_mem_set member with before | rfl
      · exact returns other before
      · rw [moves.ownFetch_eq]
        exact returns call (mem_of_getElem? found)
  obtain ⟨final, reached, rests⟩ := exists_rests Kept _ lowers ⟨complete, returns⟩
  refine ⟨final, reached, ?_⟩
  have kept : Kept final := reached.invariant Kept ⟨complete, returns⟩
    fun kept continues taken => (lowers kept continues taken).1
  intro call member
  by_contra runs
  obtain ⟨id, found⟩ := List.mem_iff_getElem?.mp member
  obtain ⟨event, continues, moves⟩ := kept.1.exists_step kept.2 found runs
  exact moves (rests event continues)

end

/--
Where every call completes, a key is fetched by one call at a time, whoever joins it returns what it
obtained, and the map is empty when no call runs. Calls whose fetches return can end.
-/
theorem coalescing_correct {maxBytes : Nat} {state : Coalescing}
    (reached : Reachable (step texts config origin) (Completes texts config origin)
      (start maxBytes) state) :
    (∀ (first second : Nat) (one other : CoalescedCall) (key : Text),
      state.calls[first]? = some one → state.calls[second]? = some other →
      one.request.key config = some key → other.request.key config = some key →
      one.phase = .fetching → other.phase = .fetching → first = second) ∧
    (∀ (id leader : Nat) (call : CoalescedCall), state.calls[id]? = some call →
      call.joined = some leader → ∃ lead, state.calls[leader]? = some lead ∧
        ((∃ bytes, call.phase = .answered bytes ∧ lead.obtained = some bytes) ∨
          call.phase = .waiting leader 0 ∧
            ((lead.Leads ∧ state.step texts config origin (.receive id) = none) ∨
              ∃ bytes, lead.obtained = some bytes ∧ state.step texts config origin (.receive id) =
                some (state.advance id (.answered bytes))))) ∧
    (∀ call ∈ state.calls, ∀ bytes, call.obtained = some bytes →
      call.ownFetch texts config origin = .ok bytes) ∧
    ((∀ call ∈ state.calls, call.Ended) → state.inflight = []) ∧
    ((∀ call ∈ state.calls, ∃ bytes, call.ownFetch texts config origin = .ok bytes) →
      ∃ final, Reachable (step texts config origin) (Continues texts config origin) state final ∧
        ∀ call ∈ final.calls, call.Ended) := by
  have complete := Complete.of_reachable reached
  refine ⟨?_, ?_, complete.obtained, ?_, complete.exists_ended⟩
  · intro first second one other key oneIs otherIs oneKey otherKey oneFetches otherFetches
    -- Both calls are the one in the map.
    have here := complete.sound.listed oneIs oneKey (.inl oneFetches)
    have there := complete.sound.listed otherIs otherKey (.inl otherFetches)
    exact some.inj (here.symm.trans there)
  · intro id leader call found joined
    exact complete.joined found joined
  · intro ended
    apply List.eq_nil_iff_forall_not_mem.mpr
    rintro ⟨key, leader⟩ member
    -- Whoever is in the map is to publish.
    obtain ⟨lead, leadIs, -, -, made⟩ := complete.sound.led member
    have leads := complete.leads leadIs made
    rcases ended lead (mem_of_getElem? leadIs) with ⟨bytes, phase⟩ | phase <;>
      simp [CoalescedCall.Leads, phase] at leads

def coalescedCalls (first second : RelayRequest) : List CoalescingEvent :=
  [.enter first 0, .enter second 0, .lookup 0 0, .lookup 1 0, .join 0, .join 1, .fetch 0 0,
    .publish 0, .receive 1]

theorem runSteps_coalescedCalls (texts : LibraryTexts) (config : RelayConfig) (origin : Origin)
    (maxBytes : Nat) {first second : RelayRequest} {key : Text} {content other : Bytes}
    (firstKey : first.key config = some key) (secondKey : second.key config = some key)
    (firstMeets : origin.weather config 0 first = answering content)
    (secondMeets : origin.weather config 0 second = answering other) :
    ∃ cache, runSteps (step texts config origin) (start maxBytes) (coalescedCalls first second) =
      some ⟨cache, [],
        [⟨first, 0, .answered (relayedResponse texts config.stripNoise 200 [] content),
            some (((Broadcast.new 1).send
              (relayedResponse texts config.stripNoise 200 [] content)).close), none,
            some (relayedResponse texts config.stripNoise 200 [] content)⟩,
          ⟨second, 0, .answered (relayedResponse texts config.stripNoise 200 [] content), none,
            some 0, none⟩]⟩ := by
  have fetched := relayUncoalesced_answering texts config first.method content
  simp [coalescedCalls, runSteps, step, start, ResponseCache.new, firstMeets, secondMeets,
    opening_answering, lookup, firstKey, secondKey, ResponseCache.get, advance,
    update, join, channelOf, fetch, fetched, publish, broadcast, receive, Broadcast.new,
    Broadcast.subscribe, Broadcast.send, Broadcast.close, Broadcast.receive]

theorem coalescing_correct_two :
    ∃ state, Reachable (step noTexts plainConfig cookieOrigin)
        (Completes noTexts plainConfig cookieOrigin) (start defaultMaxBytes) state ∧
      state.calls.map CoalescedCall.joined = [none, some 0] ∧
      state.calls.map CoalescedCall.phase =
        [.answered (accountPage (lit "alice")),
          .answered (accountPage (lit "alice"))] ∧
      state.inflight = [] := by
  have meets : ∀ user, cookieOrigin.weather plainConfig 0 (accountScript user) =
      answering (toUtf8 (((((buildPayload plainConfig (accountScript user)).fetch.h.lookup
        (lit "Cookie")).bind Json.asStr).getD []))) := fun _ => rfl
  have alice : ((((buildPayload plainConfig (accountScript (lit "alice"))).fetch.h.lookup
      (lit "Cookie")).bind Json.asStr).getD []) = lit "alice" := by decide +kernel
  have page := @relayedResponse_accountPage (lit "alice") (by decide +kernel)
  have key : (accountScript (lit "alice")).key plainConfig =
      some (lit "GET:https://shop.example/account.js") := by decide +kernel
  have meetsAlice := (meets (lit "alice")).trans (by rw [alice])
  obtain ⟨cache, ran⟩ := runSteps_coalescedCalls noTexts plainConfig
    cookieOrigin defaultMaxBytes key key meetsAlice meetsAlice
  have permitted : Permits (step noTexts plainConfig cookieOrigin)
      (Completes noTexts plainConfig cookieOrigin) (start defaultMaxBytes)
      (coalescedCalls (accountScript (lit "alice"))
        (accountScript (lit "alice"))) := by
    refine permits_of_forall_mem ?_ _
    intro event member state
    cases event with
    | fetch id now =>
      -- This origin answers every fetch.
      intro call found
      exact ⟨_, relayUncoalesced_answering _ _ _ _⟩
    | drop id => simp [coalescedCalls] at member
    | _ => trivial
  rw [page] at ran
  have reached := Reachable.runSteps _ .begin permitted ran
  exact ⟨_, reached, rfl, rfl, (coalescing_correct reached).2.2.2.1 (by simp [CoalescedCall.Ended])⟩

end Coalescing

end Gvpn
