import Gvpn.TunnelClient.Unreachable

/-! What the cache of unreachable destinations answers, by its history. -/

namespace Gvpn

open List Option

def rootless (host : Text) : Text := if host.getLast? = some '.' then host.dropLast else host

theorem normalizeCacheHost_eq (host : Text) : normalizeCacheHost host = lower (rootless host) := by
  rcases eq_nil_or_concat host with rfl | ⟨front, final, rfl⟩
  · rfl
  · -- The text is read from its end, so what counts is the last character.
    rw [concat_eq_append]
    by_cases dot : final = '.'
    · subst dot
      have split : rsplitOnce '.' (front ++ ['.']) = some (front, []) := by
        simp [rsplitOnce, splitOnce]
      rw [normalizeCacheHost, split, rootless, if_pos (by simp), dropLast_concat]
    · have kept : rootless (front ++ [final]) = front ++ [final] := by
        rw [rootless, if_neg (by simpa using dot)]
      rw [normalizeCacheHost, kept]
      cases split : rsplitOnce '.' (front ++ [final]) with
      | none => rfl
      | some parts =>
        obtain ⟨parts', found, rfl⟩ := Option.map_eq_some_iff.mp split
        rw [reverse_append, reverse_singleton, singleton_append, splitOnce,
          if_neg dot] at found
        obtain ⟨rest, -, rfl⟩ := Option.map_eq_some_iff.mp found
        simp

theorem unreachableKey_eq_iff (host other : Text) (port door : UInt16) :
    unreachableKey host port = unreachableKey other door ↔
      eqIgnoreCase (rootless host) (rootless other) = true ∧ port = door := by
  rw [unreachableKey, unreachableKey, Prod.mk.injEq, normalizeCacheHost_eq, normalizeCacheHost_eq,
    eqIgnoreCase, decide_eq_true_eq]

namespace UnreachableCache

section Query

variable {cache : UnreachableCache} {host : Text} {port : UInt16} {now : Nat}

theorem isUnreachable_of_none (absent : cache.lookup (unreachableKey host port) = none) :
    cache.isUnreachable host port now = (false, cache) := by
  simp only [isUnreachable, absent]

variable {expiry : Nat}

theorem isUnreachable_of_fresh
    (present : cache.lookup (unreachableKey host port) = some expiry) (fresh : now < expiry) :
    cache.isUnreachable host port now = (true, cache) := by
  simp only [isUnreachable, present, if_pos fresh]

theorem isUnreachable_of_stale
    (present : cache.lookup (unreachableKey host port) = some expiry) (stale : expiry ≤ now) :
    cache.isUnreachable host port now = (false, cache.erase (unreachableKey host port)) := by
  simp only [isUnreachable, present, if_neg (Nat.not_lt.mpr stale)]

theorem isUnreachable_snd (cache : UnreachableCache) (host : Text) (port : UInt16) (now : Nat) :
    (cache.isUnreachable host port now).2 = cache ∨
      ∃ expiry, cache.lookup (unreachableKey host port) = some expiry ∧ expiry ≤ now ∧
        (cache.isUnreachable host port now).2 = cache.erase (unreachableKey host port) := by
  cases present : cache.lookup (unreachableKey host port) with
  | none => exact .inl (by rw [isUnreachable_of_none present])
  | some expiry =>
    rcases Nat.lt_or_ge now expiry with fresh | stale
    · exact .inl (by rw [isUnreachable_of_fresh present fresh])
    · exact .inr ⟨expiry, rfl, stale, by rw [isUnreachable_of_stale present stale]⟩

theorem lookup_of_isUnreachable {key : Text × UInt16}
    (left : (cache.isUnreachable host port now).2.lookup key = some expiry) :
    cache.lookup key = some expiry := by
  rcases isUnreachable_snd cache host port now with same | ⟨_, -, -, erased⟩
  · rwa [same] at left
  · rw [erased] at left
    exact (Table.lookup_erase_eq_some.mp left).2

theorem lookup_isUnreachable {key : Text × UInt16}
    (present : cache.lookup key = some expiry) (fresh : now < expiry) :
    (cache.isUnreachable host port now).2.lookup key = some expiry := by
  rcases isUnreachable_snd cache host port now with same | ⟨old, found, stale, erased⟩
  · rwa [same]
  · -- The entry that is taken out is another one, for it is too old.
    have differ : key ≠ unreachableKey host port := by
      rintro rfl
      rw [present, some.injEq] at found
      omega
    rwa [erased, AList.lookup_erase_ne differ]

theorem length_isUnreachable (cache : UnreachableCache) (host : Text) (port : UInt16) (now : Nat) :
    (cache.isUnreachable host port now).2.entries.length ≤ cache.entries.length := by
  rcases isUnreachable_snd cache host port now with same | ⟨_, found, -, erased⟩
  · rw [same]
  · rw [erased]
    have fewer := Table.length_erase_of_lookup found
    omega

end Query

variable {fuel : Nat} {cache : UnreachableCache}

theorem length_evictSoonest (enough : cache.entries.length < unreachableCacheMax + fuel) :
    (evictSoonest fuel cache).entries.length < unreachableCacheMax := by
  induction fuel generalizing cache with
  | zero => exact enough
  | succ fuel ih =>
    unfold evictSoonest
    by_cases full : unreachableCacheMax ≤ cache.entries.length
    · rw [if_pos full]
      cases least : Table.minByKey cache with
      | none =>
        -- A full table has a least entry.
        rw [Table.entries_eq_nil_of_minByKey least] at full
        exact absurd full (by decide)
      | some victim =>
        obtain ⟨_, present, -⟩ := Table.exists_of_minByKey least
        have fewer := Table.length_erase_of_lookup present
        exact ih (by omega)
    · rw [if_neg full]
      omega

variable {key : Text × UInt16} {expiry : Nat}

theorem lookup_of_evictSoonest (left : (evictSoonest fuel cache).lookup key = some expiry) :
    cache.lookup key = some expiry := by
  induction fuel generalizing cache with
  | zero => exact left
  | succ fuel ih =>
    unfold evictSoonest at left
    by_cases full : unreachableCacheMax ≤ cache.entries.length
    · rw [if_pos full] at left
      cases least : Table.minByKey cache with
      | none =>
        rw [least] at left
        exact left
      | some victim =>
        rw [least] at left
        exact (Table.lookup_erase_eq_some.mp (ih left)).2
    · rwa [if_neg full] at left

theorem lookup_evictSoonest
    (present : cache.lookup key = some expiry) (younger : Finset (Text × UInt16))
    (covers : ∀ other bound, cache.lookup other = some bound → other ≠ key → expiry ≤ bound →
      other ∈ younger)
    (few : younger.card + 1 < unreachableCacheMax) :
    (evictSoonest fuel cache).lookup key = some expiry := by
  induction fuel generalizing cache with
  | zero => exact present
  | succ fuel ih =>
    unfold evictSoonest
    by_cases full : unreachableCacheMax ≤ cache.entries.length
    · rw [if_pos full]
      cases least : Table.minByKey cache with
      | none => exact present
      | some victim =>
        obtain ⟨value, found, smallest⟩ := Table.exists_of_minByKey least
        by_cases same : victim = key
        · -- If the entry were the least one, all the others would be as young.
          subst same
          obtain rfl : expiry = value := some.inj (present.symm.trans found)
          have others : cache.keys.toFinset.erase victim ⊆ younger := by
            intro other member
            obtain ⟨differ, listed⟩ := Finset.mem_erase.mp member
            have known := AList.mem_keys.mpr (List.mem_toFinset.mp listed)
            obtain ⟨bound, held⟩ := Option.isSome_iff_exists.mp (AList.lookup_isSome.mpr known)
            exact covers other bound held differ (smallest other bound held)
          have many := Finset.card_le_card others
          have counted := Finset.pred_card_le_card_erase (s := cache.keys.toFinset) (a := victim)
          rw [Table.card_keys] at counted
          omega
        · apply ih
          · rwa [AList.lookup_erase_ne (Ne.symm same)]
          · intro other bound held differ young
            exact covers other bound (Table.lookup_erase_eq_some.mp held).2 differ young
    · rw [if_neg full]
      exact present

theorem length_makeRoom (cache : UnreachableCache) (now : Nat) :
    (cache.makeRoom now).entries.length < unreachableCacheMax := by
  unfold makeRoom
  by_cases full : unreachableCacheMax ≤ cache.entries.length
  · rw [if_pos full]
    exact length_evictSoonest (Nat.lt_add_of_pos_left (by decide))
  · rw [if_neg full]
    omega

theorem lookup_of_makeRoom {now : Nat} (left : (cache.makeRoom now).lookup key = some expiry) :
    cache.lookup key = some expiry := by
  unfold makeRoom at left
  by_cases full : unreachableCacheMax ≤ cache.entries.length
  · rw [if_pos full] at left
    exact (Table.lookup_retain_eq_some.mp (lookup_of_evictSoonest left)).1
  · rwa [if_neg full] at left

theorem lookup_makeRoom {now : Nat}
    (present : cache.lookup key = some expiry) (fresh : now < expiry)
    (younger : Finset (Text × UInt16))
    (covers : ∀ other bound, cache.lookup other = some bound → other ≠ key → expiry ≤ bound →
      other ∈ younger)
    (few : younger.card + 1 < unreachableCacheMax) :
    (cache.makeRoom now).lookup key = some expiry := by
  unfold makeRoom
  by_cases full : unreachableCacheMax ≤ cache.entries.length
  · -- The sweep leaves what is not too old, and adds nothing that could be younger.
    rw [if_pos full]
    refine lookup_evictSoonest ?_ younger ?_ few
    · exact Table.lookup_retain_eq_some.mpr ⟨present, decide_eq_true fresh⟩
    · intro other bound held
      exact covers other bound (Table.lookup_retain_eq_some.mp held).1
  · rw [if_neg full]
    exact present

end UnreachableCache

namespace UnreachableHistory

structure Remembers (state : UnreachableHistory) : Prop where
  ordered : Chronological state.history
  past : ∀ record ∈ state.history, record.2 < state.clock
  bounded : state.cache.entries.length ≤ unreachableCacheMax
  dated : ∀ {key expiry}, state.cache.lookup key = some expiry →
    ∃ time since, LastRecord state.history key time since ∧ expiry = time + unreachableCacheTtl
  kept : ∀ {key time since}, LastRecord state.history key time since →
    distinctKeys since + 1 < unreachableCacheMax → state.clock < time + unreachableCacheTtl →
    state.cache.lookup key = some (time + unreachableCacheTtl)

theorem Remembers.start : Remembers {} where
  ordered := List.Pairwise.nil
  past := nofun
  bounded := by decide
  dated := nofun
  kept found := absurd found.mem not_mem_nil

variable {state : UnreachableHistory}

theorem Remembers.query (remembers : Remembers state) (host : Text)
    (port : UInt16) {now : Nat} (later : state.clock ≤ now) :
    Remembers { state with
      cache := (state.cache.isUnreachable host port now).2
      clock := now + 1 } where
  ordered := remembers.ordered
  past record member := by
    have earlier := remembers.past record member
    show record.2 < now + 1
    omega
  bounded := by
    have fewer := UnreachableCache.length_isUnreachable state.cache host port now
    exact fewer.trans remembers.bounded
  dated held := remembers.dated (UnreachableCache.lookup_of_isUnreachable held)
  kept {key time since} found few fresh := by
    have young : now + 1 < time + unreachableCacheTtl := fresh
    -- Only what is too old is forgotten.
    apply UnreachableCache.lookup_isUnreachable
    · exact remembers.kept found few (by omega)
    · omega

theorem Remembers.record (remembers : Remembers state)
    (key : Text × UInt16) {sweptAt now : Nat} (later : state.clock ≤ sweptAt)
    (elapsed : sweptAt ≤ now) :
    Remembers {
      cache := (state.cache.makeRoom sweptAt).insert key (now + unreachableCacheTtl)
      history := state.history ++ [(key, now)]
      clock := now + 1 } where
  ordered := by
    apply remembers.ordered.append
    intro record member
    have earlier := remembers.past record member
    omega
  past record member := by
    show record.2 < now + 1
    rcases List.mem_append.mp member with old | new
    · have earlier := remembers.past record old
      omega
    · rw [List.mem_singleton.mp new]
      exact Nat.lt_succ_self now
  bounded := by
    have room := UnreachableCache.length_makeRoom state.cache sweptAt
    have grown := Table.length_insert_le key (now + unreachableCacheTtl)
      (state.cache.makeRoom sweptAt)
    exact grown.trans room
  dated {other expiry} held := by
    by_cases same : other = key
    · subst same
      rw [AList.lookup_insert, some.injEq] at held
      exact ⟨now, [], LastRecord.appended _ _ _, held.symm⟩
    · rw [AList.lookup_insert_ne same] at held
      obtain ⟨time, since, found, dated⟩ :=
        remembers.dated (UnreachableCache.lookup_of_makeRoom held)
      exact ⟨time, _, found.append_other now (Ne.symm same), dated⟩
  kept {other time since} found few fresh := by
    have young : now + 1 < time + unreachableCacheTtl := fresh
    rcases found.of_append with ⟨rfl, rfl, rfl⟩ | ⟨rest, rfl, earlier⟩
    · exact AList.lookup_insert _
    · have differ : other ≠ key := by
        rintro rfl
        exact found.last _ (mem_append_right _ mem_cons_self) rfl
      rw [AList.lookup_insert_ne differ]
      have fewer := distinctKeys_le_append rest [(key, now)]
      refine UnreachableCache.lookup_makeRoom (remembers.kept earlier (by omega) (by omega))
        (by omega) (rest.map Prod.fst).toFinset ?_ (Nat.lt_of_le_of_lt (Nat.succ_le_succ fewer) few)
      intro another bound held apart_ older
      obtain ⟨moment, _, last, rfl⟩ := remembers.dated held
      have recorded := earlier.mem_since remembers.ordered last.mem apart_ (by omega)
      exact List.mem_toFinset.mpr (List.mem_map.mpr ⟨_, recorded, rfl⟩)

theorem remembers_step {after_ : UnreachableHistory} {call : UnreachableCall}
    (remembers : Remembers state) (taken : state.step call = some after_) : Remembers after_ := by
  cases call with
  | query host port now =>
    simp only [step] at taken
    by_cases later : state.clock ≤ now
    · rw [if_pos later, some.injEq] at taken
      exact taken ▸ remembers.query host port later
    · rw [if_neg later] at taken
      exact nomatch taken
  | record host port err sweptAt now =>
    simp only [step] at taken
    by_cases later : state.clock ≤ sweptAt ∧ sweptAt ≤ now
    · rw [if_pos later, some.injEq] at taken
      subst taken
      by_cases matching : isUnreachableErrorStr err = true
      · simp only [UnreachableCache.recordUnreachableIfMatch, if_pos matching]
        exact remembers.record (unreachableKey host port) later.1 later.2
      · -- An error of another kind only lets time go by.
        simp only [UnreachableCache.recordUnreachableIfMatch, if_neg matching]
        refine ⟨remembers.ordered, ?_, remembers.bounded, remembers.dated, ?_⟩
        · intro record member
          have earlier := remembers.past record member
          show record.2 < now + 1
          omega
        · intro key time since found few fresh
          have young : now + 1 < time + unreachableCacheTtl := fresh
          exact remembers.kept found few (by omega)
    · rw [if_neg later] at taken
      exact nomatch taken

theorem remembers_of_reachable
    (reached : Reachable step (fun _ _ => True) {} state) : Remembers state :=
  reached.invariant Remembers .start fun remembers _ taken => remembers_step remembers taken

/--
At most 256 entries are kept, and a destination is known exactly if it was recorded within the time
to live, unless 255 others were since; letter case and one last dot do not count.
-/
theorem unreachable_cache_law {state : UnreachableHistory}
    (reached : Reachable step (fun _ _ => True) {} state) :
    state.cache.entries.length ≤ 256 ∧
      ∀ (host : Text) (port : UInt16) (now : Nat), state.clock ≤ now →
        (∀ time since, LastRecord state.history (unreachableKey host port) time since →
          (now < time + unreachableCacheTtl → distinctKeys since < 255 →
            (state.cache.isUnreachable host port now).1 = true) ∧
          (time + unreachableCacheTtl ≤ now →
            (state.cache.isUnreachable host port now).1 = false)) ∧
        ((∀ time, (unreachableKey host port, time) ∉ state.history) →
          (state.cache.isUnreachable host port now).1 = false) ∧
        ∀ other door, unreachableKey host port = unreachableKey other door ↔
          eqIgnoreCase (rootless host) (rootless other) = true ∧ port = door := by
  have remembers := remembers_of_reachable reached
  refine ⟨remembers.bounded, ?_⟩
  intro host port now later
  refine ⟨?_, ?_, fun other door => unreachableKey_eq_iff host other port door⟩
  · intro time since found
    constructor
    · intro fresh few
      have room : distinctKeys since + 1 < unreachableCacheMax := Nat.succ_lt_succ few
      have present := remembers.kept found room (by omega)
      rw [UnreachableCache.isUnreachable_of_fresh present fresh]
    · intro stale
      cases present : state.cache.lookup (unreachableKey host port) with
      | none => rw [UnreachableCache.isUnreachable_of_none present]
      | some expiry =>
        obtain ⟨moment, _, last, rfl⟩ := remembers.dated present
        obtain rfl : time = moment := found.time_unique last
        rw [UnreachableCache.isUnreachable_of_stale present stale]
  · intro never
    cases present : state.cache.lookup (unreachableKey host port) with
    | none => rw [UnreachableCache.isUnreachable_of_none present]
    | some expiry =>
      obtain ⟨moment, _, last, -⟩ := remembers.dated present
      exact absurd last.mem (never moment)

theorem unreachable_cache_law_other_spelling :
    ∃ state : UnreachableHistory,
      ({} : UnreachableHistory).step (.record (lit "Example.COM") 443
        (lit "Network is unreachable (os error 101)") 5 5) = some state ∧
      (state.cache.isUnreachable (lit "example.com.") 443 6).1 = true ∧
      (state.cache.isUnreachable (lit "example.com.") 443 30000000005).1 = false ∧
      (state.cache.isUnreachable (lit "example.com.") 80 6).1 = false := by
  have matching : isUnreachableErrorStr (lit "Network is unreachable (os error 101)") = true := by
    decide +kernel
  have taken : ({} : UnreachableHistory).step (.record (lit "Example.COM") 443
      (lit "Network is unreachable (os error 101)") 5 5) =
      some {
        cache := (UnreachableCache.makeRoom ∅ 5).insert (unreachableKey (lit "Example.COM") 443)
          (5 + unreachableCacheTtl)
        history := [] ++ [(unreachableKey (lit "Example.COM") 443, 5)]
        clock := 6 } := by
    simp [step, UnreachableCache.recordUnreachableIfMatch, matching]
  refine ⟨_, taken, ?_⟩
  obtain ⟨-, law⟩ := unreachable_cache_law (Reachable.begin.next trivial taken)
  have same : unreachableKey (lit "example.com.") 443 = unreachableKey (lit "Example.COM") 443 := by
    decide +kernel
  have found : LastRecord ([] ++ [(unreachableKey (lit "Example.COM") 443, 5)])
      (unreachableKey (lit "example.com.") 443) 5 [] := by
    rw [same]
    exact LastRecord.appended [] _ 5
  refine ⟨?_, ?_, ?_⟩
  · exact ((law (lit "example.com.") 443 6 (by decide)).1 5 [] found).1 (by decide) (by decide)
  · exact ((law (lit "example.com.") 443 30000000005 (by decide)).1 5 [] found).2 (by decide)
  · apply (law (lit "example.com.") 80 6 (by decide)).2.1
    intro time recorded
    have door : (80 : UInt16) = 443 :=
      congrArg (fun record => record.1.2) (List.mem_singleton.mp recorded)
    exact absurd door (by decide)

end UnreachableHistory

end Gvpn
