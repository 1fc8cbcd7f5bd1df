import Gvpn.Data.SeqMap
import Mathlib.Order.Interval.Finset.Nat

/-! An in-order writer: numbered items arrive in any order and leave in theirs. -/

namespace Gvpn

open List

structure Reorder (α : Type) where
  next : Nat
  early : SeqMap α

namespace Reorder

variable {α : Type}

def accept (buffer : Reorder α) (key : Nat) (item : α) : List α × Reorder α :=
  if key = buffer.next then
    let (run, next, early) := buffer.early.popRun (buffer.next + 1)
    (item :: run, ⟨next, early⟩)
  else ([], ⟨buffer.next, buffer.early.insert key item⟩)

structure Tracks (base : Nat) (payload : Nat → α) (given : Finset Nat) (buffer : Reorder α)
    (out : List α) : Prop where
  started : base ≤ buffer.next
  contiguous : ∀ i, base ≤ i → i < buffer.next → i ∈ given
  waiting : buffer.next ∉ given
  held : ∀ key item, (key, item) ∈ buffer.early.entries ↔
    key ∈ given ∧ buffer.next < key ∧ item = payload key
  written : out = (List.range' base (buffer.next - base)).map payload

theorem tracks_start (base : Nat) (payload : Nat → α) :
    Tracks base payload ∅ ⟨base, SeqMap.empty⟩ [] where
  started := Nat.le_refl base
  contiguous i above below := absurd above (Nat.not_le.mpr below)
  waiting := Finset.notMem_empty base
  held key item := by simp [SeqMap.empty]
  written := by simp

variable {base : Nat} {payload : Nat → α} {given : Finset Nat} {buffer : Reorder α} {out : List α}

theorem Tracks.congr {other : Nat → α} (tracks : Tracks base payload given buffer out)
    (agree : ∀ i ∈ given, other i = payload i) : Tracks base other given buffer out := by
  refine ⟨tracks.started, tracks.contiguous, tracks.waiting, ?_, ?_⟩
  · -- Whatever is held was given, so both payloads name the same item.
    intro key item
    rw [tracks.held]
    constructor
    · intro ⟨member, later, same⟩
      exact ⟨member, later, by rw [same, agree key member]⟩
    · intro ⟨member, later, same⟩
      exact ⟨member, later, by rw [same, agree key member]⟩
  · rw [tracks.written]
    apply map_congr_left
    intro i inside
    have bounds := List.mem_range'_1.mp inside
    exact (agree i (tracks.contiguous i bounds.1 (by omega))).symm

variable {key : Nat}

theorem Tracks.hold (tracks : Tracks base payload given buffer out)
    (above : base ≤ key) (fresh : key ∉ given) (early : key ≠ buffer.next) :
    Tracks base payload (insert key given)
      ⟨buffer.next, buffer.early.insert key (payload key)⟩ out := by
  have past : buffer.next < key := by
    by_contra notPast
    exact fresh (tracks.contiguous key above (by omega))
  refine ⟨tracks.started, ?_, ?_, ?_, tracks.written⟩
  · intro i lower upper
    exact Finset.mem_insert_of_mem (tracks.contiguous i lower upper)
  · simp only [Finset.mem_insert, not_or]
    exact ⟨fun same => early same.symm, tracks.waiting⟩
  · intro other item
    rw [SeqMap.mem_insert, tracks.held]
    simp only [Finset.mem_insert, Prod.mk.injEq]
    constructor
    · rintro (⟨rfl, rfl⟩ | ⟨⟨member, later, same⟩, -⟩)
      · exact ⟨.inl rfl, past, rfl⟩
      · exact ⟨.inr member, later, same⟩
    · rintro ⟨rfl | member, later, same⟩
      · exact .inl ⟨rfl, same⟩
      · exact .inr ⟨⟨member, later, same⟩, fun same => fresh (same ▸ member)⟩

theorem range'_through {next : Nat} (started : base ≤ next) (count : Nat) :
    List.range' base (next + 1 + count - base) =
      List.range' base (next - base) ++ next :: List.range' (next + 1) count := by
  have width : next + 1 + count - base = (next - base) + (count + 1) := by omega
  rw [width, ← range'_append_1, Nat.add_sub_cancel' started, range'_succ]

theorem Tracks.release (tracks : Tracks base payload given buffer out) :
    Tracks base payload (insert buffer.next given)
      ⟨(buffer.early.popRun (buffer.next + 1)).2.1, (buffer.early.popRun (buffer.next + 1)).2.2⟩
      (out ++ payload buffer.next :: (buffer.early.popRun (buffer.next + 1)).1) := by
  obtain ⟨next, early⟩ := buffer
  simp only [SeqMap.popRun]
  have bounded : ∀ pair ∈ early.entries, next + 1 ≤ pair.1 := fun pair member =>
    ((tracks.held pair.1 pair.2).mp member).2.1
  have leftAbove := SeqMap.lt_of_mem_drop_runLength early.increasing bounded
  have left : ∀ pair, pair ∈ early.entries.drop (SeqMap.runLength (next + 1) early.entries) ↔ _ :=
    fun pair => SeqMap.mem_drop_runLength_iff early.increasing bounded
  have runKeys := SeqMap.take_runLength_keys (next + 1) early.entries
  generalize SeqMap.runLength (next + 1) early.entries = count at leftAbove left runKeys ⊢
  have runHeld : ∀ pair ∈ early.entries.take count, pair.1 ∈ given ∧ pair.2 = payload pair.1 := by
    intro pair member
    obtain ⟨wasGiven, -, same⟩ := (tracks.held pair.1 pair.2).mp (mem_of_mem_take member)
    exact ⟨wasGiven, same⟩
  refine ⟨?_, ?_, ?_, ?_, ?_⟩
  · have : base ≤ next := tracks.started
    show base ≤ next + 1 + count
    omega
  · intro i lower upper
    rw [Finset.mem_insert]
    rcases Nat.lt_trichotomy i next with below | same | later
    · exact .inr (tracks.contiguous i lower below)
    · exact .inl same
    · -- Every key of the run is a consecutive number, so it was given.
      have inRange : i ∈ List.range' (next + 1) count := List.mem_range'_1.mpr ⟨later, upper⟩
      rw [← runKeys] at inRange
      obtain ⟨pair, member, rfl⟩ := List.mem_map.mp inRange
      exact .inr (runHeld pair member).1
  · -- A given number at the stop would be held, and the held ones left are all above it.
    show next + 1 + count ∉ insert next given
    rw [Finset.mem_insert, not_or]
    refine ⟨by omega, fun member => ?_⟩
    have stored : (next + 1 + count, payload (next + 1 + count)) ∈ early.entries :=
      (tracks.held _ _).mpr ⟨member, show next < next + 1 + count by omega, rfl⟩
    exact absurd (leftAbove _ ((left _).mpr ⟨stored, le_rfl⟩)) (Nat.lt_irrefl _)
  · intro key item
    show (key, item) ∈ early.entries.drop count ↔
      key ∈ insert next given ∧ next + 1 + count < key ∧ item = payload key
    constructor
    · intro remains
      obtain ⟨wasGiven, -, same⟩ := (tracks.held key item).mp (mem_of_mem_drop remains)
      exact ⟨Finset.mem_insert_of_mem wasGiven, leftAbove _ remains, same⟩
    · rintro ⟨wasGiven, later, same⟩
      have wasGiven : key ∈ given := by
        rcases Finset.mem_insert.mp wasGiven with same | member
        · omega
        · exact member
      have member : (key, item) ∈ early.entries :=
        (tracks.held key item).mpr ⟨wasGiven, show next < key by omega, same⟩
      exact (left _).mpr ⟨member, later.le⟩
  · -- The items of the run are the payloads of its keys, which are consecutive.
    have runItems : (early.entries.take count).map Prod.snd =
        (List.range' (next + 1) count).map payload := by
      rw [← runKeys, map_map]
      exact map_congr_left fun pair member => (runHeld pair member).2
    rw [tracks.written, runItems, range'_through tracks.started count, map_append,
      map_cons]

theorem Tracks.accept (tracks : Tracks base payload given buffer out)
    (above : base ≤ key) (fresh : key ∉ given) :
    Tracks base payload (insert key given) (buffer.accept key (payload key)).2
      (out ++ (buffer.accept key (payload key)).1) := by
  unfold Reorder.accept
  split
  · rename_i same
    subst same
    exact tracks.release
  · rename_i early
    simpa using tracks.hold above fresh early

theorem Tracks.complete {stop : Nat}
    (tracks : Tracks base payload (Finset.Ico base stop) buffer out)
    (ordered : base ≤ stop) :
    buffer.next = stop ∧ buffer.early = SeqMap.empty ∧
      out = (List.range' base (stop - base)).map payload := by
  have reached : buffer.next = stop := by
    have outside := tracks.waiting
    rw [Finset.mem_Ico] at outside
    have begun := tracks.started
    rcases Nat.lt_trichotomy buffer.next stop with below | same | above
    · exact absurd ⟨begun, below⟩ outside
    · exact same
    · have := Finset.mem_Ico.mp (tracks.contiguous stop ordered above)
      omega
  refine ⟨reached, ?_, reached ▸ tracks.written⟩
  apply SeqMap.ext
  rw [SeqMap.empty, eq_nil_iff_forall_not_mem]
  rintro ⟨key, item⟩ member
  obtain ⟨given, later, -⟩ := (tracks.held key item).mp member
  have := (Finset.mem_Ico.mp given).2
  omega

def offer (buffer : Reorder α) (key : Nat) (item : α) : List (Nat × α) × Reorder α :=
  if key < buffer.next then ([], buffer)
  else if key = buffer.next then
    let count := SeqMap.runLength (buffer.next + 1) buffer.early.entries
    ((key, item) :: buffer.early.entries.take count,
      ⟨buffer.next + 1 + count, buffer.early.dropFirst count⟩)
  else ([], ⟨buffer.next, buffer.early.insert key item⟩)

structure Delivers (base : Nat) (arrived : List (Nat × α)) (buffer : Reorder α)
    (log : List (Nat × α)) : Prop where
  started : base ≤ buffer.next
  inOrder : log.map Prod.fst = List.range' base (buffer.next - base)
  genuine : ∀ pair ∈ log, pair ∈ arrived
  held : ∀ pair ∈ buffer.early.entries, buffer.next < pair.1 ∧ pair ∈ arrived
  kept : ∀ pair ∈ arrived, base ≤ pair.1 →
    pair.1 < buffer.next ∨ pair.1 ∈ buffer.early.entries.map Prod.fst

theorem delivers_start (base : Nat) :
    Delivers base ([] : List (Nat × α)) ⟨base, SeqMap.empty⟩ [] where
  started := Nat.le_refl base
  inOrder := by simp
  genuine := by simp
  held := by simp [SeqMap.empty]
  kept := by simp

namespace Delivers

variable {base : Nat} {arrived log : List (Nat × α)} {buffer : Reorder α}

theorem awaited (delivers : Delivers base arrived buffer log) {pair : Nat × α}
    (member : pair ∈ arrived) : pair.1 ≠ buffer.next := by
  intro same
  rcases delivers.kept pair member (same ▸ delivers.started) with below | waiting
  · omega
  · obtain ⟨other, inside, is⟩ := List.mem_map.mp waiting
    have above := (delivers.held other inside).1
    omega

theorem next_le (delivers : Delivers base arrived buffer log) {limit : Nat}
    (bounded : ∀ pair ∈ arrived, pair.1 < limit) (begun : base ≤ limit) : buffer.next ≤ limit := by
  rcases Nat.eq_or_lt_of_le delivers.started with same | later
  · omega
  · -- The last number written is one that arrived.
    have last : buffer.next - 1 ∈ log.map Prod.fst := by
      rw [delivers.inOrder]
      exact List.mem_range'_1.mpr (by omega)
    obtain ⟨pair, inside, is⟩ := List.mem_map.mp last
    have small := bounded pair (delivers.genuine pair inside)
    omega

variable {key : Nat}

theorem all_below (delivers : Delivers base arrived buffer log) (above : base ≤ key)
    (below : key < buffer.next) : key ∈ arrived.map Prod.fst := by
  have written : key ∈ log.map Prod.fst := by
    rw [delivers.inOrder]
    exact List.mem_range'_1.mpr (by omega)
  obtain ⟨pair, inside, rfl⟩ := List.mem_map.mp written
  exact mem_map_of_mem (delivers.genuine pair inside)

theorem skip (delivers : Delivers base arrived buffer log) (stale : key < buffer.next)
    (item : α) : Delivers base (arrived ++ [(key, item)]) buffer log where
  started := delivers.started
  inOrder := delivers.inOrder
  genuine pair member := mem_append_left _ (delivers.genuine pair member)
  held pair member :=
    ⟨(delivers.held pair member).1, mem_append_left _ (delivers.held pair member).2⟩
  kept pair member above := by
    rcases List.mem_append.mp member with old | new
    · exact delivers.kept pair old above
    · obtain rfl := List.mem_singleton.mp new
      exact .inl stale

theorem write (delivers : Delivers base arrived buffer log) (item : α) :
    let count := SeqMap.runLength (buffer.next + 1) buffer.early.entries
    Delivers base (arrived ++ [(buffer.next, item)])
      ⟨buffer.next + 1 + count, buffer.early.dropFirst count⟩
      (log ++ (buffer.next, item) :: buffer.early.entries.take count) := by
  obtain ⟨started, inOrder, genuine, held, kept⟩ := delivers
  intro count
  have earlier : ∀ pair ∈ arrived, pair ∈ arrived ++ [(buffer.next, item)] := fun pair member =>
    mem_append_left _ member
  have runKeys : (buffer.early.entries.take count).map Prod.fst =
      List.range' (buffer.next + 1) count := SeqMap.take_runLength_keys _ _
  have leftAbove : ∀ pair ∈ buffer.early.entries.drop count, buffer.next + 1 + count < pair.1 :=
    SeqMap.lt_of_mem_drop_runLength buffer.early.increasing
      fun pair member => (held pair member).1
  refine ⟨by dsimp only; omega, ?_, ?_, ?_, ?_⟩
  · rw [map_append, map_cons, inOrder, runKeys, range'_through started]
  · intro pair member
    rcases List.mem_append.mp member with old | new
    · exact earlier pair (genuine pair old)
    · rcases List.mem_cons.mp new with rfl | run
      · exact mem_append_right _ mem_cons_self
      · exact earlier pair (held pair (mem_of_mem_take run)).2
  · intro pair member
    exact ⟨leftAbove pair member, earlier pair (held pair (mem_of_mem_drop member)).2⟩
  · intro pair member above
    dsimp only
    rcases List.mem_append.mp member with old | new
    · rcases kept pair old above with below | waiting
      · omega
      · -- What was held is in the run or stays held.
        have split : buffer.early.entries.take count ++ buffer.early.entries.drop count =
            buffer.early.entries := take_append_drop _ _
        rw [← split, map_append, mem_append, runKeys, mem_range'_1] at waiting
        rcases waiting with run | stays
        · omega
        · exact .inr stays
    · obtain rfl := List.mem_singleton.mp new
      omega

theorem hold (delivers : Delivers base arrived buffer log) (early : buffer.next < key) (item : α) :
    Delivers base (arrived ++ [(key, item)]) { buffer with early := buffer.early.insert key item }
      log where
  started := delivers.started
  inOrder := delivers.inOrder
  genuine pair member := mem_append_left _ (delivers.genuine pair member)
  held pair member := by
    rcases SeqMap.mem_insert.mp member with rfl | ⟨old, -⟩
    · exact ⟨early, mem_append_right _ mem_cons_self⟩
    · obtain ⟨above, came⟩ := delivers.held pair old
      exact ⟨above, mem_append_left _ came⟩
  kept pair member above := by
    by_cases same : pair.1 = key
    · exact .inr (List.mem_map.mpr ⟨(key, item), SeqMap.mem_insert.mpr (.inl rfl), same.symm⟩)
    · rcases List.mem_append.mp member with old | new
      · rcases delivers.kept pair old above with below | waiting
        · exact .inl below
        · obtain ⟨other, inside, is⟩ := List.mem_map.mp waiting
          refine .inr (List.mem_map.mpr ⟨other, SeqMap.mem_insert.mpr (.inr ⟨inside, ?_⟩), is⟩)
          rw [is]
          exact same
      · obtain rfl := List.mem_singleton.mp new
        exact absurd rfl same

theorem offer (delivers : Delivers base arrived buffer log) (key : Nat) (item : α) :
    Delivers base (arrived ++ [(key, item)]) (buffer.offer key item).2
      (log ++ (buffer.offer key item).1) := by
  unfold Reorder.offer
  split
  · next stale =>
    rw [append_nil]
    exact delivers.skip stale item
  · split
    · next same =>
      subst same
      exact delivers.write item
    · next notStale other =>
      rw [append_nil]
      exact delivers.hold (by omega) item

end Delivers

def advance (buffer : Reorder α) : Reorder α :=
  let count := SeqMap.runLength buffer.next buffer.early.entries
  ⟨buffer.next + count, buffer.early.dropFirst count⟩

theorem advance_of_nil (none_ : buffer.early.entries = []) :
    buffer.advance = buffer := by
  simp only [advance, none_, SeqMap.runLength, Nat.add_zero]
  rfl

theorem advance_of_early {item : α} {rest : List (Nat × α)}
    (held : buffer.early.entries = (key, item) :: rest) (early : key ≠ buffer.next) :
    buffer.advance = buffer := by
  simp only [advance, held, SeqMap.runLength, early, if_false, Nat.add_zero]
  rfl

theorem advance_of_turn {item : α} {rest : List (Nat × α)}
    (held : buffer.early.entries = (buffer.next, item) :: rest) :
    buffer.advance = (⟨buffer.next + 1, buffer.early.dropFirst 1⟩ : Reorder α).advance := by
  have popped : (buffer.early.dropFirst 1).entries = rest := by simp [SeqMap.dropFirst, held]
  unfold advance
  simp only [held, popped, SeqMap.runLength, if_true]
  congr 1
  · omega
  · simp [SeqMap.dropFirst, held]

structure Accounts (limit : Nat) (awaited : List Nat) (arrived : List (Nat × α)) : Prop where
  unique : awaited.Nodup
  apart : ∀ key ∈ awaited, key ∉ arrived.map Prod.fst
  all : ∀ key, key < limit ↔ key ∈ awaited ∨ key ∈ arrived.map Prod.fst

namespace Accounts

variable {limit : Nat} {awaited : List Nat} {arrived : List (Nat × α)}

theorem start : Accounts 0 [] ([] : List (Nat × α)) where
  unique := nodup_nil
  apart := by simp
  all := by simp

theorem send (accounts : Accounts limit awaited arrived) :
    Accounts (limit + 1) (awaited ++ [limit]) arrived := by
  have new : limit ∉ awaited ∧ limit ∉ arrived.map Prod.fst := by
    rw [← not_or, ← accounts.all]
    exact Nat.lt_irrefl limit
  refine ⟨?_, ?_, fun key => ?_⟩
  · refine List.nodup_append.mpr ⟨accounts.unique, nodup_singleton limit, ?_⟩
    intro key member other single
    rw [List.mem_singleton.mp single]
    exact fun same => new.1 (same ▸ member)
  · intro key member
    rcases List.mem_append.mp member with old | single
    · exact accounts.apart key old
    · rw [List.mem_singleton.mp single]
      exact new.2
  · have below := accounts.all key
    rw [mem_append, mem_singleton, or_right_comm, ← below]
    omega

theorem arrive (accounts : Accounts limit awaited arrived) {id : Nat}
    (found : awaited[id]? = some key) (item : α) :
    Accounts limit (awaited.eraseIdx id) (arrived ++ [(key, item)]) := by
  obtain ⟨inside, rfl⟩ := List.getElem?_eq_some_iff.mp found
  have left : ∀ other, other ∈ awaited.eraseIdx id ↔ other ∈ awaited ∧ other ≠ awaited[id] := by
    intro other
    rw [← accounts.unique.erase_getElem id inside, accounts.unique.mem_erase_iff, and_comm]
  refine ⟨accounts.unique.sublist (eraseIdx_sublist awaited id), ?_, fun other => ?_⟩
  · intro other member
    obtain ⟨old, differs⟩ := (left other).mp member
    have := accounts.apart other old
    simp only [map_append, map_cons, map_nil, mem_append, mem_singleton]
    exact fun either => either.elim this differs
  · rw [accounts.all other, left, map_append, mem_append, map_singleton,
      mem_singleton]
    by_cases same : other = awaited[id]
    · simp [same]
    · simp [same]

theorem next_mem {log : List (Nat × α)} (accounts : Accounts limit awaited arrived)
    (delivers : Delivers 0 arrived buffer log) (held : buffer.early.entries ≠ []) :
    buffer.next ∈ awaited := by
  obtain ⟨pair, member⟩ := exists_mem_of_ne_nil _ held
  obtain ⟨later, came⟩ := delivers.held pair member
  have sent := (accounts.all pair.1).mpr (.inr (mem_map_of_mem came))
  rcases (accounts.all buffer.next).mp (by omega) with awaits | arrives
  · exact awaits
  · obtain ⟨other, inside, is⟩ := List.mem_map.mp arrives
    exact absurd is (delivers.awaited inside)

theorem next_le {log : List (Nat × α)} (accounts : Accounts limit awaited arrived)
    (delivers : Delivers 0 arrived buffer log) (member : key ∈ awaited) : buffer.next ≤ key := by
  by_contra below
  exact accounts.apart key member (delivers.all_below (Nat.zero_le key) (by omega))

end Accounts

end Reorder

end Gvpn
