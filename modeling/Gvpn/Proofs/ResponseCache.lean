import Gvpn.Data.Runs
import Gvpn.Data.Table
import Gvpn.Fronter.Cache
import Mathlib.Algebra.Order.BigOperators.Group.List

/-! The cache as a queue, and what a look-up finds over whole histories. -/

namespace Gvpn

open List

inductive CacheOp where
  | put (key : Text) (bytes : Bytes) (ttl now : Nat)
  | get (key : Text) (now : Nat)

structure CacheHistory where
  cache : ResponseCache
  clock : Nat := 0
  putOrder : List Text := []
  latest : Text → Option CachedResponse := fun _ => none

def ResponseCache.Accepts (cache : ResponseCache) (bytes : Bytes) : Prop :=
  bytes.length ≠ 0 ∧ bytes.length ≤ cache.maxBytes / maxEntryFraction

instance (cache : ResponseCache) (bytes : Bytes) : Decidable (cache.Accepts bytes) :=
  inferInstanceAs (Decidable (_ ∧ _))

def CacheHistory.accept (history : CacheHistory) (key : Text) (bytes : Bytes) (ttl now : Nat) :
    CacheHistory :=
  let after := history.cache.put key bytes ttl now
  ⟨after, now, history.putOrder.filter (· ≠ key) ++ [key], fun other =>
    if other = key then some ⟨bytes, now + ttl * second⟩
    else if other ∈ history.cache.order ∧ other ∉ after.order then none
    else history.latest other⟩

def CacheHistory.step (history : CacheHistory) : CacheOp → Option CacheHistory
  | .put key bytes ttl now =>
    if now < history.clock then none
    else if history.cache.Accepts bytes then some (history.accept key bytes ttl now)
    else some { history with cache := history.cache.put key bytes ttl now, clock := now }
  | .get key now =>
    if now < history.clock then none
    else some { history with cache := (history.cache.get key now).2, clock := now }

section

variable {queue : List (Text × CachedResponse)} {key : Text} {entry : CachedResponse}

theorem lookup_eq_some_iff_mem (distinct : (queue.map Prod.fst).Nodup) :
    queue.lookup key = some entry ↔ (key, entry) ∈ queue := by
  constructor
  · exact mem_of_lookup_eq_some
  · intro member
    induction queue with
    | nil => cases member
    | cons first rest ih =>
      obtain ⟨fresh, distinct⟩ := List.nodup_cons.mp distinct
      rcases List.mem_cons.mp member with rfl | later
      · exact lookup_cons_self
      · have differs : key ≠ first.1 := fun is => fresh (is ▸ List.mem_map.mpr ⟨_, later, rfl⟩)
        rw [lookup_cons, beq_eq_false_iff_ne.mpr differs]
        exact ih distinct later

theorem lookup_eq_none_iff_not_mem : queue.lookup key = none ↔ key ∉ queue.map Prod.fst := by
  rw [lookup_eq_none_iff, mem_map]
  constructor
  · rintro absent ⟨entry, member, rfl⟩
    simpa using absent entry member
  · intro absent entry member
    exact bne_iff_ne.mpr fun is => absent ⟨entry, member, is.symm⟩

end

namespace ResponseCache

def total (queue : List (Text × CachedResponse)) : Nat :=
  (queue.map fun entry => entry.2.bytes.length).sum

def ofQueue (maxBytes : Nat) (queue : List (Text × CachedResponse)) : ResponseCache :=
  ⟨maxBytes, queue.reverse, queue.map Prod.fst, total queue⟩

def evict (maxBytes incoming : Nat) : List (Text × CachedResponse) → List (Text × CachedResponse)
  | [] => []
  | oldest :: rest =>
    if maxBytes < total (oldest :: rest) + incoming then evict maxBytes incoming rest
    else oldest :: rest

structure Fits (maxBytes : Nat) (queue : List (Text × CachedResponse)) : Prop where
  distinct : (queue.map Prod.fst).Nodup
  within : total queue ≤ maxBytes
  small : ∀ entry ∈ queue, entry.2.bytes.length ≤ maxBytes / maxEntryFraction

variable {maxBytes : Nat} {queue : List (Text × CachedResponse)} {key : Text}

theorem evict_suffix (incoming : Nat) : evict maxBytes incoming queue <:+ queue := by
  induction queue with
  | nil => exact suffix_rfl
  | cons oldest rest ih =>
    unfold evict
    split
    · exact ih.trans (suffix_cons _ _)
    · exact suffix_rfl

theorem evict_eq_self {incoming : Nat} (room : total queue + incoming ≤ maxBytes) :
    evict maxBytes incoming queue = queue := by
  cases queue with
  | nil => rfl
  | cons oldest rest => exact if_neg (Nat.not_lt.mpr room)

theorem total_evict {incoming : Nat} (fits : incoming ≤ maxBytes) :
    total (evict maxBytes incoming queue) + incoming ≤ maxBytes := by
  induction queue with
  | nil => simpa [evict, total] using fits
  | cons oldest rest ih =>
    unfold evict
    split
    · exact ih
    · omega

theorem without_eq_self (absent : key ∉ queue.map Prod.fst) : without key queue = queue := by
  apply List.filter_eq_self.mpr
  intro entry inside
  have differs : entry.1 ≠ key := fun is => absent (is ▸ mem_map_of_mem inside)
  simpa using differs

theorem without_cons_self {first : Text × CachedResponse}
    (distinct : ((first :: queue).map Prod.fst).Nodup) :
    without first.1 (first :: queue) = queue :=
  (filter_cons_of_neg (by simp)).trans (without_eq_self (List.nodup_cons.mp distinct).1)

theorem total_without {old : CachedResponse} (distinct : (queue.map Prod.fst).Nodup)
    (member : (key, old) ∈ queue) :
    total (without key queue) + old.bytes.length = total queue := by
  induction queue with
  | nil => cases member
  | cons first rest ih =>
    obtain ⟨fresh, behind⟩ := List.nodup_cons.mp distinct
    by_cases same : first.1 = key
    · -- The entry that goes is the first one, as no other one is under its key.
      have own : (key, old) = first := by
        rcases List.mem_cons.mp member with is | later
        · exact is
        · exact absurd (List.mem_map.mpr ⟨_, later, same.symm⟩) fresh
      rw [← same, without_cons_self distinct, ← own]
      exact Nat.add_comm _ _
    · have later := (List.mem_cons.mp member).resolve_left fun is => same (is ▸ rfl)
      have sizes := ih behind later
      have stays : without key (first :: rest) = first :: without key rest :=
        filter_cons_of_pos (by simp [same])
      rw [stays]
      simp only [total, map_cons, sum_cons] at sizes ⊢
      omega

theorem remove_ofQueue {old : CachedResponse} (distinct : (queue.map Prod.fst).Nodup)
    (member : (key, old) ∈ queue) :
    (ofQueue maxBytes queue).remove key old = ofQueue maxBytes (without key queue) := by
  have sizes := total_without distinct member
  simp only [remove, ofQueue, without, filter_reverse, filter_map] at sizes ⊢
  congr 1
  omega

theorem lookup_ofQueue (distinct : (queue.map Prod.fst).Nodup) :
    (ofQueue maxBytes queue).entries.lookup key = queue.lookup key := by
  have backwards : (queue.reverse.map Prod.fst).Nodup := by
    rw [map_reverse]
    exact List.nodup_reverse.mpr distinct
  apply Option.ext
  intro entry
  simp only [ofQueue, lookup_eq_some_iff_mem backwards, lookup_eq_some_iff_mem distinct,
    mem_reverse]

theorem get_ofQueue (distinct : (queue.map Prod.fst).Nodup) (now : Nat) :
    (ofQueue maxBytes queue).get key now =
      match queue.lookup key with
      | some entry =>
        if now < entry.expires then (some entry.bytes, ofQueue maxBytes queue)
        else (none, ofQueue maxBytes (without key queue))
      | none => (none, ofQueue maxBytes queue) := by
  unfold get
  rw [lookup_ofQueue distinct]
  cases looked : queue.lookup key with
  | none => rfl
  | some entry =>
    dsimp only
    rw [remove_ofQueue distinct (mem_of_lookup_eq_some looked)]

theorem makeRoom_eq (incoming : Nat) (distinct : (queue.map Prod.fst).Nodup) :
    makeRoom maxBytes incoming queue.reverse (total queue) (queue.map Prod.fst) =
      ofQueue maxBytes (evict maxBytes incoming queue) := by
  induction queue with
  | nil => rfl
  | cons oldest rest ih =>
    have looked : (oldest :: rest).reverse.lookup oldest.1 = some oldest.2 :=
      (@lookup_ofQueue maxBytes _ _ distinct).trans lookup_cons_self
    have kept : without oldest.1 (oldest :: rest).reverse = rest.reverse := by
      rw [without, filter_reverse]
      exact congrArg List.reverse (without_cons_self distinct)
    have sizes : total (oldest :: rest) - oldest.2.bytes.length = total rest :=
      Nat.add_sub_cancel_left _ _
    rw [map_cons, makeRoom, evict]
    split
    · rw [looked]
      dsimp only
      rw [kept, sizes]
      exact ih (List.nodup_cons.mp distinct).2
    · rfl

theorem put_ofQueue {bytes : Bytes} (distinct : (queue.map Prod.fst).Nodup)
    (accepts : (ofQueue maxBytes queue).Accepts bytes) (ttl now : Nat) :
    (ofQueue maxBytes queue).put key bytes ttl now = ofQueue maxBytes
      (evict maxBytes bytes.length (without key queue) ++ [(key, ⟨bytes, now + ttl * second⟩)]) := by
  have remaining : ((without key queue).map Prod.fst).Nodup :=
    distinct.sublist (List.filter_sublist.map _)
  let store (cache : ResponseCache) : ResponseCache :=
    { cache with
      entries := (key, ⟨bytes, now + ttl * second⟩) :: cache.entries
      order := cache.order ++ [key]
      size := cache.size + bytes.length }
  have stored : store (makeRoom maxBytes bytes.length (without key queue).reverse
      (total (without key queue)) ((without key queue).map Prod.fst)) = ofQueue maxBytes
        (evict maxBytes bytes.length (without key queue) ++ [(key, ⟨bytes, now + ttl * second⟩)]) := by
    rw [makeRoom_eq _ remaining]
    simp [store, ofQueue, total]
  unfold put
  rw [if_neg (by unfold Accepts at accepts; simpa using accepts)]
  rw [lookup_ofQueue distinct]
  cases looked : queue.lookup key with
  | some old =>
    dsimp only
    rw [remove_ofQueue distinct (mem_of_lookup_eq_some looked)]
    exact stored
  | none =>
    rw [without_eq_self (lookup_eq_none_iff_not_mem.mp looked)] at stored ⊢
    exact stored

theorem total_without_le : total (without key queue) ≤ total queue :=
  (List.filter_sublist.map _).sum_le_sum (by simp)

theorem Fits.without (fits : Fits maxBytes queue) (key : Text) :
    Fits maxBytes (without key queue) where
  distinct := fits.distinct.sublist (List.filter_sublist.map _)
  within := total_without_le.trans fits.within
  small entry member := fits.small entry (mem_of_mem_filter member)

theorem Fits.put (fits : Fits maxBytes queue) {bytes : Bytes}
    (accepts : (ofQueue maxBytes queue).Accepts bytes) (expires : Nat) :
    Fits maxBytes
      (evict maxBytes bytes.length (ResponseCache.without key queue) ++ [(key, ⟨bytes, expires⟩)]) := by
  have others := fits.without key
  have suffix := @evict_suffix maxBytes (ResponseCache.without key queue) bytes.length
  have inside : bytes.length ≤ maxBytes := accepts.2.trans (Nat.div_le_self _ _)
  refine ⟨?_, ?_, ?_⟩
  · rw [map_append, nodup_append]
    refine ⟨others.distinct.sublist (suffix.sublist.map _), by simp, ?_⟩
    intro other member own is
    have others := List.mem_map.mp ((suffix.sublist.map _).subset member)
    obtain ⟨entry, inside, rfl⟩ := others
    have differs := (List.mem_filter.mp inside).2
    simp_all
  · simpa [total] using total_evict inside
  · intro entry member
    rcases List.mem_append.mp member with older | own
    · exact others.small entry (suffix.subset older)
    · rw [List.mem_singleton.mp own]
      exact accepts.2

theorem put_of_not_accepts {cache : ResponseCache} {bytes : Bytes}
    (refused : ¬ cache.Accepts bytes) (ttl now : Nat) : cache.put key bytes ttl now = cache := by
  unfold put
  rw [if_pos]
  unfold Accepts at refused
  omega

end ResponseCache

namespace CacheHistory

def alive (now : Nat) (entry : Option CachedResponse) : Option CachedResponse :=
  entry.filter fun entry => now < entry.expires

structure Holds (maxBytes : Nat) (history : CacheHistory) (queue : List (Text × CachedResponse)) :
    Prop where
  is : history.cache = .ofQueue maxBytes queue
  fits : ResponseCache.Fits maxBytes queue
  ordered : (queue.map Prod.fst).Sublist history.putOrder
  found : ∀ key now, history.clock ≤ now →
    alive now (history.latest key) = alive now (queue.lookup key)

variable {maxBytes : Nat} {history after : CacheHistory} {queue : List (Text × CachedResponse)}
  {key : Text} {now : Nat}

theorem lookup_without_of_ne {other : Text} (differs : other ≠ key) :
    (ResponseCache.without key queue).lookup other = queue.lookup other :=
  lookup_filter_of_kept fun _ => by simp [differs]

theorem Holds.get (holds : Holds maxBytes history queue) (later : history.clock ≤ now) :
    ∃ queue, Holds maxBytes
      { history with cache := (history.cache.get key now).2, clock := now } queue := by
  have found : ∀ other moment, now ≤ moment →
      alive moment (history.latest other) = alive moment (queue.lookup other) :=
    fun other moment behind => holds.found other moment (later.trans behind)
  rw [holds.is, ResponseCache.get_ofQueue holds.fits.distinct]
  split
  · rename_i entry looked
    split
    · exact ⟨queue, rfl, holds.fits, holds.ordered, found⟩
    · refine ⟨_, rfl, holds.fits.without key,
        (List.filter_sublist.map _).trans holds.ordered, ?_⟩
      intro other moment (behind : now ≤ moment)
      rw [found other moment behind]
      by_cases own : other = key
      · -- What has expired is found neither before nor behind.
        subst own
        have gone : (ResponseCache.without other queue).lookup other = none := by
          apply lookup_eq_none_iff_not_mem.mpr
          simp [ResponseCache.without]
        rw [looked, gone, alive, Option.filter_some, if_neg]
        · rfl
        · rw [decide_eq_true_eq]
          omega
      · rw [lookup_without_of_ne own]
  · exact ⟨queue, rfl, holds.fits, holds.ordered, found⟩

theorem Holds.accept (holds : Holds maxBytes history queue) (later : history.clock ≤ now)
    {bytes : Bytes} (accepts : history.cache.Accepts bytes) (ttl : Nat) :
    ∃ queue, Holds maxBytes (history.accept key bytes ttl now) queue := by
  rw [holds.is] at accepts
  have put := @ResponseCache.put_ofQueue maxBytes queue key bytes holds.fits.distinct accepts ttl now
  have fits := @ResponseCache.Fits.put maxBytes queue key holds.fits bytes accepts
    (now + ttl * second)
  have suffix := @ResponseCache.evict_suffix maxBytes (ResponseCache.without key queue) bytes.length
  generalize ResponseCache.evict maxBytes bytes.length (ResponseCache.without key queue) = kept
    at put fits suffix
  rw [← holds.is] at put
  refine ⟨_, put, fits, ?_, ?_⟩
  · have others := holds.ordered.filter (· ≠ key)
    rw [filter_map] at others
    rw [map_append]
    exact ((suffix.sublist.map _).trans others).append (Sublist.refl _)
  · intro other moment (behind : now ≤ moment)
    have found := holds.found other moment (later.trans behind)
    unfold CacheHistory.accept
    dsimp only
    rw [put, holds.is]
    by_cases own : other = key
    · subst own
      rw [if_pos rfl, (lookup_eq_some_iff_mem fits.distinct).mpr mem_concat_self]
    rw [if_neg own]
    by_cases stays : other ∈ kept.map Prod.fst
    · -- A key that stays is under its old entry.
      obtain ⟨⟨other, entry⟩, inside, rfl⟩ := List.mem_map.mp stays
      have before := (lookup_eq_some_iff_mem holds.fits.distinct).mpr
        (mem_of_mem_filter (suffix.subset inside))
      have after := (lookup_eq_some_iff_mem fits.distinct).mpr (mem_append_left _ inside)
      rw [if_neg (by simp [ResponseCache.ofQueue, stays]), after, ← before, found]
    · have absent : other ∉ (kept ++ [(key, (⟨bytes, now + ttl * second⟩ : CachedResponse))]).map
          Prod.fst := by simp [own, stays]
      rw [lookup_eq_none_iff_not_mem.mpr absent]
      by_cases was : other ∈ queue.map Prod.fst
      · rw [if_pos ⟨was, absent⟩]
      · rw [if_neg fun both => was both.1, found, lookup_eq_none_iff_not_mem.mpr was]

theorem Holds.step (holds : Holds maxBytes history queue) {op : CacheOp}
    (taken : history.step op = some after) : ∃ queue, Holds maxBytes after queue := by
  unfold CacheHistory.step at taken
  split at taken
  · split at taken
    · cases taken
    · rename_i later
      split at taken
      · rename_i accepts
        cases taken
        exact holds.accept (Nat.le_of_not_lt later) accepts _
      · rename_i refused
        cases taken
        rw [ResponseCache.put_of_not_accepts refused]
        exact ⟨queue, holds.is, holds.fits, holds.ordered, fun key moment behind =>
          holds.found key moment ((Nat.le_of_not_lt later).trans behind)⟩
  · split at taken
    · cases taken
    · rename_i later
      cases taken
      exact holds.get (Nat.le_of_not_lt later)

end CacheHistory

/--
Over every history, the cache holds the latest puts in order and within its limits, a put takes out
only the oldest keys, and a look-up finds the latest accepted put that has neither expired nor been
evicted.
-/
theorem cache_lookup_law {maxBytes : Nat} {history : CacheHistory}
    (reached : Reachable CacheHistory.step (fun _ _ => True) { cache := .new maxBytes } history) :
    let cache := history.cache
    (cache.size = ResponseCache.total cache.entries ∧ cache.size ≤ maxBytes ∧
      cache.order.Nodup ∧ cache.order.Perm (cache.entries.map Prod.fst) ∧
      cache.order.Sublist history.putOrder ∧
      ∀ entry ∈ cache.entries, entry.2.bytes.length ≤ maxBytes / maxEntryFraction) ∧
    (∀ key bytes ttl now, cache.Accepts bytes → ∃ evicted kept,
      cache.order.filter (· ≠ key) = evicted ++ kept ∧
        (cache.put key bytes ttl now).order = kept ++ [key] ∧
        (cache.size + bytes.length ≤ maxBytes → evicted = [])) ∧
    ∀ key now, history.clock ≤ now → (cache.get key now).1 =
      (CacheHistory.alive now (history.latest key)).map CachedResponse.bytes := by
  obtain ⟨queue, holds⟩ := reached.invariant
    (fun history => ∃ queue, CacheHistory.Holds maxBytes history queue)
    ⟨[], rfl, ⟨nodup_nil, Nat.zero_le _, by simp⟩, Sublist.refl _, fun _ _ _ => rfl⟩
    fun ⟨queue, holds⟩ _ taken => holds.step taken
  have distinct := holds.fits.distinct
  rw [holds.is]
  refine ⟨⟨?_, holds.fits.within, distinct, ?_, holds.ordered, ?_⟩, ?_, ?_⟩
  · simp [ResponseCache.ofQueue, ResponseCache.total]
  · exact (reverse_perm queue).symm.map _
  · intro entry member
    exact holds.fits.small entry (List.mem_reverse.mp member)
  · intro key bytes ttl now accepts
    obtain ⟨front, parts⟩ :=
      @ResponseCache.evict_suffix maxBytes (ResponseCache.without key queue) bytes.length
    refine ⟨front.map Prod.fst, (ResponseCache.evict maxBytes bytes.length
      (ResponseCache.without key queue)).map Prod.fst, ?_, ?_, ?_⟩
    · show (queue.map Prod.fst).filter (· ≠ key) = _
      rw [filter_map, ← map_append, parts]
      rfl
    · rw [ResponseCache.put_ofQueue distinct accepts]
      exact map_append
    · intro room
      have fewer := @ResponseCache.total_without_le queue key
      rw [ResponseCache.evict_eq_self ((Nat.add_le_add_right fewer _).trans room)] at parts
      simpa using parts
  · intro key now later
    rw [ResponseCache.get_ofQueue distinct, holds.found key now later]
    cases queue.lookup key with
    | none => rfl
    | some entry =>
      simp only [CacheHistory.alive, Option.filter_some, decide_eq_true_eq]
      split <;> rfl

theorem cache_lookup_law_page :
    let history : CacheHistory :=
      { cache := .new 100 : CacheHistory }.accept (lit "page") [1, 2, 3] 60 0
    (history.cache.get (lit "page") (59 * second)).1 = some [1, 2, 3] ∧
      (history.cache.get (lit "page") (60 * second)).1 = none := by
  intro history
  have reached : Reachable CacheHistory.step (fun _ _ => True) { cache := .new 100 } history :=
    Reachable.runSteps [.put (lit "page") [1, 2, 3] 60 0] .begin ⟨trivial, trivial⟩ rfl
  have law := (cache_lookup_law reached).2.2 (lit "page")
  exact ⟨(law _ (Nat.zero_le _)).trans (by decide +kernel),
    (law _ (Nat.zero_le _)).trans (by decide +kernel)⟩

end Gvpn
