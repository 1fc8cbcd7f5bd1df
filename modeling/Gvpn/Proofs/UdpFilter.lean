import Gvpn.Proofs.UdpOwnership

/-! Which datagrams a relay ignores, and which ports it keeps closed. -/

namespace Gvpn

open List Option

inductive Ignorable (ctx : SocksCtx) (clientPeerIp : IpAddr) (clientAddr : Option PeerAddr)
    (datagram : Datagram) : Prop
  | foreign (other : datagram.peer.ip ≠ clientPeerIp)
  | malformed (refused : parseSocks5UdpPacketOffsets datagram.bytes = none)
  | quic {target : SocksUdpTarget} {payloadOff : Nat} (blocked : ctx.blockQuic = true)
      (parsed : parseSocks5UdpPacketOffsets datagram.bytes = some (target, payloadOff))
      (port : target.port = 443)
  | unlocked {existing : PeerAddr} (locked : clientAddr = some existing)
      (other : existing ≠ datagram.peer)

theorem Ignorable.refused {ctx : SocksCtx} {clientPeerIp : IpAddr} {clientAddr : Option PeerAddr}
    {datagram : Datagram} (ignorable : Ignorable ctx clientPeerIp clientAddr datagram) :
    acceptDatagram ctx clientPeerIp clientAddr datagram = none := by
  by_contra accepted
  obtain ⟨⟨target, payload⟩, accepted⟩ := Option.ne_none_iff_exists'.mp accepted
  obtain ⟨known, parsed, free, lock⟩ := acceptDatagram_eq_some_iff.mp accepted
  cases ignorable with
  | foreign other => exact other known
  | malformed refused => simp [parseSocks5UdpPacket, refused] at parsed
  | quic blocked located port =>
    rw [parseSocks5UdpPacket, located] at parsed
    obtain ⟨rfl, -⟩ := Prod.mk.inj (some.inj parsed)
    exact free ⟨blocked, port⟩
  | unlocked locked other => exact other (lock _ locked)

namespace UdpRelay

def lockAfter (ctx : SocksCtx) (clientPeerIp : IpAddr) (clientAddr : Option PeerAddr) :
    RelayEvent → Option PeerAddr
  | .recv datagram =>
    if (acceptDatagram ctx clientPeerIp clientAddr datagram).isSome then some datagram.peer
    else clientAddr
  | _ => clientAddr

inductive DifferBy (ctx : SocksCtx) (clientPeerIp : IpAddr) :
    Option PeerAddr → List RelayEvent → List RelayEvent → Prop
  | done {clientAddr : Option PeerAddr} : DifferBy ctx clientPeerIp clientAddr [] []
  | both {clientAddr : Option PeerAddr} {first second : List RelayEvent} (event : RelayEvent)
      (rest : DifferBy ctx clientPeerIp (lockAfter ctx clientPeerIp clientAddr event) first
        second) :
      DifferBy ctx clientPeerIp clientAddr (event :: first) (event :: second)
  | left {clientAddr : Option PeerAddr} {first second : List RelayEvent} {datagram : Datagram}
      (ignorable : Ignorable ctx clientPeerIp clientAddr datagram)
      (rest : DifferBy ctx clientPeerIp clientAddr first second) :
      DifferBy ctx clientPeerIp clientAddr (.recv datagram :: first) second
  | right {clientAddr : Option PeerAddr} {first second : List RelayEvent} {datagram : Datagram}
      (ignorable : Ignorable ctx clientPeerIp clientAddr datagram)
      (rest : DifferBy ctx clientPeerIp clientAddr first second) :
      DifferBy ctx clientPeerIp clientAddr first (.recv datagram :: second)

variable {ctx : SocksCtx} {relay after : UdpRelay} {event : RelayEvent}

variable {datagram : Datagram}

theorem step_of_ignorable (ignorable : Ignorable ctx relay.clientPeerIp relay.clientAddr datagram)
    (taken : relay.step ctx (.recv datagram) = some after) : after = relay := by
  obtain ⟨-, taken⟩ := Option.ite_none_right_eq_some.mp taken
  rw [onDatagram, ignorable.refused] at taken
  exact (some.inj taken).symm

theorem step_clientAddr (taken : relay.step ctx event = some after) :
    after.clientPeerIp = relay.clientPeerIp ∧
      after.clientAddr = lockAfter ctx relay.clientPeerIp relay.clientAddr event := by
  cases change_of_step taken with
  | ignores receives refused => exact ⟨rfl, by simp [lockAfter, refused]⟩
  | locks receives accepted large => exact ⟨rfl, by simp [lockAfter, accepted]⟩
  | accepts receives accepted small => exact ⟨rfl, by simp [lockAfter, accepted]⟩
  | ends receives last => rcases last with rfl | rfl <;> exact ⟨rfl, rfl⟩
  | stays | queues | drops | misses | evicts | refuses | spawns | inserts | clears | aborts | closes
  | returns | works | cleans => exact ⟨rfl, rfl⟩

theorem runSteps_of_ignorable {events : List RelayEvent} {final : UdpRelay}
    (ignorable : Ignorable ctx relay.clientPeerIp relay.clientAddr datagram)
    (run : runSteps (step ctx) relay (.recv datagram :: events) = some final) :
    runSteps (step ctx) relay events = some final := by
  obtain ⟨next, taken, run⟩ := exists_step_of_runSteps run
  rwa [step_of_ignorable ignorable taken] at run

theorem DifferBy.eq {clientPeerIp : IpAddr} {clientAddr : Option PeerAddr}
    {first second : List RelayEvent} {final other : UdpRelay}
    (differ : DifferBy ctx clientPeerIp clientAddr first second)
    (ip : relay.clientPeerIp = clientPeerIp) (lock : relay.clientAddr = clientAddr)
    (run : runSteps (step ctx) relay first = some final)
    (otherRun : runSteps (step ctx) relay second = some other) : other = final := by
  induction differ generalizing relay with
  | done => exact some.inj (otherRun.symm.trans run)
  | both event rest ih =>
    obtain ⟨next, taken, run⟩ := exists_step_of_runSteps run
    obtain ⟨other, otherTaken, otherRun⟩ := exists_step_of_runSteps otherRun
    cases taken.symm.trans otherTaken
    obtain ⟨sameIp, sameLock⟩ := step_clientAddr taken
    subst ip lock
    exact ih sameIp sameLock run otherRun
  | left ignorable rest ih =>
    subst ip lock
    exact ih rfl rfl (runSteps_of_ignorable ignorable run) otherRun
  | right ignorable rest ih =>
    subst ip lock
    exact ih rfl rfl run (runSteps_of_ignorable ignorable otherRun)

def udpOpens (relay : UdpRelay) : List (Text × UInt16 × Bytes) :=
  relay.calls.filterMap fun call =>
    match call with
    | .udpOpen target data => some (target.host, target.port, data)
    | _ => none

/--
Datagrams the relay does not listen to change neither its sessions nor its payloads nor its client.
-/
theorem udp_noninterference {clientPeerIp : IpAddr} {first second : List RelayEvent}
    {other : UdpRelay} (differ : DifferBy ctx clientPeerIp none first second)
    (run : runSteps (step ctx) (start clientPeerIp) first = some relay)
    (otherRun : runSteps (step ctx) (start clientPeerIp) second = some other) :
    relay.udpOpens = other.udpOpens ∧ relay.queued = other.queued ∧
      relay.clientAddr = other.clientAddr := by
  obtain rfl := differ.eq rfl rfl run otherRun
  exact ⟨rfl, rfl, rfl⟩

theorem udp_noninterference_stranger :
    ∃ relay other, runSteps (step (fullCtx false false)) (start localClient.ip)
        (openingEvents 53) = some relay ∧
      runSteps (step (fullCtx false false)) (start localClient.ip)
        (.recv ⟨{ localClient with ip := .v4 ⟨[10, 0, 0, 1], rfl⟩ }, [1, 2, 3]⟩ ::
          openingEvents 53) = some other ∧
      relay.udpOpens = other.udpOpens ∧ relay.queued = other.queued ∧
      relay.clientAddr = other.clientAddr := by
  have goes : (runSteps (step (fullCtx false false)) (start localClient.ip)
      (openingEvents 53)).isSome = true := by decide +kernel
  have goesToo : (runSteps (step (fullCtx false false)) (start localClient.ip)
      (.recv ⟨{ localClient with ip := .v4 ⟨[10, 0, 0, 1], rfl⟩ }, [1, 2, 3]⟩ ::
        openingEvents 53)).isSome = true := by decide +kernel
  obtain ⟨relay, run⟩ := Option.isSome_iff_exists.mp goes
  obtain ⟨other, otherRun⟩ := Option.isSome_iff_exists.mp goesToo
  have differ : DifferBy (fullCtx false false) localClient.ip none (openingEvents 53)
      (.recv ⟨{ localClient with ip := .v4 ⟨[10, 0, 0, 1], rfl⟩ }, [1, 2, 3]⟩ ::
        openingEvents 53) := by
    apply DifferBy.right (.foreign (by decide))
    exact .both _ (.both _ (.both _ (.both _ .done)))
  exact ⟨relay, other, run, otherRun, udp_noninterference differ run otherRun⟩

structure Avoids (ports : List UInt16) (relay : UdpRelay) : Prop where
  calls : ∀ call ∈ relay.calls, ∀ target, call.target = some target → target.port ∉ ports
  queued : ∀ item ∈ relay.queued, item.1.port ∉ ports

theorem Only.avoids {ports : List UInt16} (only : Only (fun target => target.port ∉ ports) relay) :
    Avoids ports relay where
  calls _ sent _ named := only.calls sent named
  queued _ member := only.queued member

theorem exists_udpOpen {target : SocksUdpTarget} {payload : Bytes}
    (accepted : acceptDatagram ctx relay.clientPeerIp relay.clientAddr datagram =
      some (target, payload))
    (small : payload.length ≤ maxUdpPayloadBytes)
    (free : relay.state.sessions.lookup target = none)
    (taken : relay.step ctx (.recv datagram) = some after) :
    ∃ final, Becomes ctx after final ∧ .udpOpen target payload ∈ final.calls := by
  obtain ⟨-, taken⟩ := Option.ite_none_right_eq_some.mp taken
  simp only [onDatagram, accepted, if_neg (Nat.not_lt.mpr small), some.injEq] at taken
  subst taken
  have misses : step ctx { relay with
      clientAddr := some datagram.peer, stage := .looking datagram.peer target payload } .dispatch =
        some { relay with
          clientAddr := some datagram.peer, stage := .evicting datagram.peer target payload } := by
    simp [step, dispatch, UdpRelayState.getUplink, free]
  have asks : step ctx { relay with
      clientAddr := some datagram.peer, stage := .evicting datagram.peer target payload }
      .dispatch =
        some { relay with
          clientAddr := some datagram.peer
          state := relay.state.evictUntilUnder maxUdpSessionsPerAssociate
          calls := relay.calls ++ [.udpOpen target payload]
          stage := .opening datagram.peer target } := rfl
  exact ⟨_, (becomes_of_step misses).trans (becomes_of_step asks), by simp⟩

end UdpRelay

namespace Socks5Listener

abbrev Becomes (ctx : SocksCtx) (listener after : Socks5Listener) : Prop :=
  Reachable (step ctx) (fun _ _ => True) listener after

def NoStun (ctx : SocksCtx) (listener : Socks5Listener) : Socks5Event → Prop
  | .relay id (.recv datagram) =>
    ∀ relay, listener.relays[id]? = some relay → ∀ target payload,
      acceptDatagram ctx relay.clientPeerIp relay.clientAddr datagram = some (target, payload) →
      payload.length ≤ maxUdpPayloadBytes → ¬ (ctx.blockStun ∧ target.port ∈ stunPorts)
  | _ => True

variable {ctx : SocksCtx} {listener after : Socks5Listener} {event : Socks5Event}

theorem relay_of_step (taken : listener.step ctx event = some after) {id : Nat} {relay : UdpRelay}
    (found : after.relays[id]? = some relay) :
    listener.relays[id]? = some relay ∨ (∃ clientPeerIp, relay = UdpRelay.start clientPeerIp) ∨
      ∃ before inner, event = .relay id inner ∧ listener.relays[id]? = some before ∧
        before.step ctx inner = some relay := by
  cases event with
  | connect clientPeerIp isUnreachable bound bytes =>
    simp only [step] at taken
    split at taken
    · cases taken
      rw [getElem?_append] at found
      split at found
      · exact .inl found
      · obtain ⟨-, same⟩ : _ ∧ UdpRelay.start clientPeerIp = relay := by
          simpa [getElem?_singleton] using found
        exact .inr (.inl ⟨clientPeerIp, same.symm⟩)
    · cases taken
      exact .inl found
  | relay at_ inner =>
    obtain ⟨before, there, taken⟩ := Option.bind_eq_some_iff.mp taken
    obtain ⟨next, moved, rfl⟩ := Option.map_eq_some_iff.mp taken
    rcases getElem?_set_eq_some found with ⟨rfl, rfl⟩ | ⟨-, same⟩
    · exact .inr (.inr ⟨before, inner, rfl, there, moved⟩)
    · exact .inl same

theorem only_of_reachable {allowed : Socks5Listener → Socks5Event → Prop}
    {kind : SocksUdpTarget → Prop} (reached : Reachable (step ctx) allowed {} listener)
    (fits : ∀ {listener id datagram relay target payload},
      allowed listener (.relay id (.recv datagram)) → listener.relays[id]? = some relay →
      acceptDatagram ctx relay.clientPeerIp relay.clientAddr datagram = some (target, payload) →
      payload.length ≤ maxUdpPayloadBytes → kind target) :
    ∀ {id : Nat} {relay : UdpRelay}, listener.relays[id]? = some relay → relay.Only kind := by
  refine reached.invariant (fun listener => ∀ {id : Nat} {relay : UdpRelay},
    listener.relays[id]? = some relay → relay.Only kind) (by simp) ?_
  intro state after event only permitted taken id relay found
  rcases relay_of_step taken found with before | ⟨ip, rfl⟩ | ⟨before, inner, rfl, there, moved⟩
  · exact only before
  · exact UdpRelay.only_start kind ip
  · apply (only there).change (UdpRelay.change_of_step moved)
    intro datagram target payload is accepted small
    subst is
    exact fits permitted there accepted small

theorem becomes_of_relay {id : Nat} {relay final : UdpRelay}
    (found : listener.relays[id]? = some relay) (reached : relay.Becomes ctx final) :
    Becomes ctx listener { relays := listener.relays.set id final } := by
  have inside := (List.getElem?_eq_some_iff.mp found).1
  induction reached with
  | begin =>
    -- Nothing has happened to the relay yet.
    rw [show listener.relays.set id relay = listener.relays from set_eq_self found]
    exact .begin
  | @next state after event _ _ taken ih =>
    apply ih.next trivial
    show step ctx _ (.relay id event) = _
    simp [step, getElem?_set_self inside, taken]

theorem exists_stun_of_passes
    (only : ∀ {id : Nat} {relay : UdpRelay}, listener.relays[id]? = some relay →
      relay.Only fun target => target.port ∉ stunPorts)
    (taken : listener.step ctx event = some after) (passes : ¬ listener.NoStun ctx event) :
    ∃ final, Becomes ctx after final ∧ ∃ relay ∈ final.relays, ¬ relay.Avoids stunPorts := by
  unfold NoStun at passes
  split at passes
  · simp only [not_forall, not_not] at passes
    obtain ⟨relay, found, target, payload, accepted, small, -, port⟩ := passes
    have free : relay.state.sessions.lookup target = none := by
      by_contra held
      obtain ⟨session, held⟩ := Option.ne_none_iff_exists'.mp held
      exact (only found).table held port
    obtain ⟨same, there, taken⟩ := Option.bind_eq_some_iff.mp taken
    obtain rfl := some.inj (found.symm.trans there)
    obtain ⟨next, moved, rfl⟩ := Option.map_eq_some_iff.mp taken
    obtain ⟨final, reached, sent⟩ := UdpRelay.exists_udpOpen accepted small free moved
    have inside := (List.getElem?_eq_some_iff.mp found).1
    refine ⟨_, becomes_of_relay (getElem?_set_self inside) reached, final, ?_, ?_⟩
    · simp [mem_set, inside]
    · intro avoids
      exact avoids.calls _ sent target rfl port
  · exact absurd trivial passes

/--
No datagram for a blocked QUIC port gets to the tunnel, nor one for a STUN port until the first
passes the checks of a relay.
-/
theorem udp_ports_blocked (ctx : SocksCtx) :
    (ctx.blockQuic = true → ∀ listener, Reachable (step ctx) (fun _ _ => True) {} listener →
      ∀ relay ∈ listener.relays, relay.Avoids [443]) ∧
    (ctx.blockStun = true → ∀ listener, Reachable (step ctx) (NoStun ctx) {} listener →
      (∀ relay ∈ listener.relays, relay.Avoids stunPorts) ∧
      ∀ event after, listener.step ctx event = some after → ¬ listener.NoStun ctx event →
        ∃ final, Becomes ctx after final ∧ ∃ relay ∈ final.relays, ¬ relay.Avoids stunPorts) := by
  constructor
  · -- A datagram for the QUIC port does not pass.
    intro blocked listener reached relay member
    obtain ⟨id, found⟩ := List.mem_iff_getElem?.mp member
    apply UdpRelay.Only.avoids
    apply only_of_reachable reached _ found
    intro _ _ datagram _ target _ _ _ accepted _
    obtain ⟨-, -, free, -⟩ := acceptDatagram_eq_some_iff.mp accepted
    exact fun port => free ⟨blocked, List.mem_singleton.mp port⟩
  · intro blocked listener reached
    have only : ∀ {id : Nat} {relay : UdpRelay}, listener.relays[id]? = some relay →
        relay.Only fun target => target.port ∉ stunPorts :=
      only_of_reachable reached fun permitted there accepted small port =>
        permitted _ there _ _ accepted small ⟨blocked, port⟩
    constructor
    · intro relay member
      obtain ⟨id, found⟩ := List.mem_iff_getElem?.mp member
      exact (only found).avoids
    · intro event after taken passes
      exact exists_stun_of_passes only taken passes

theorem stun_question_passes :
    ∃ listener, Becomes (fullCtx true true) {} listener ∧
      ∃ relay ∈ listener.relays, .udpOpen (serverAt 3478) [7] ∈ relay.calls := by
  have through : (runSteps (step (fullCtx true true)) {}
      [.connect localClient.ip (fun _ _ => false) (some { localClient with port := 6000 })
        [5, 1, 0, 5, 3, 0, 1, 0, 0, 0, 0, 0, 0], .relay 0 (.recv (datagramTo 3478)),
        .relay 0 .dispatch, .relay 0 .dispatch]).any (fun listener =>
          listener.relays.any fun relay =>
            decide (.udpOpen (serverAt 3478) [7] ∈ relay.calls)) = true := by decide +kernel
  obtain ⟨listener, run, checked⟩ := (Option.any_eq_true _ _).mp through
  obtain ⟨relay, member, sent⟩ := List.any_eq_true.mp checked
  refine ⟨listener, ?_, relay, member, of_decide_eq_true sent⟩
  exact Reachable.runSteps _ .begin (permits_of_forall_mem (fun _ _ _ => trivial) _) run

end Socks5Listener

end Gvpn
