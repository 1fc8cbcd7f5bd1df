import Gvpn.AppsScript.SheetCache

/-! What a script keeps in its sheet, and finds there again. -/

namespace Gvpn

open List

namespace CacheSheet

def storeAll (sheet : CacheSheet) (writes : List (Bool × CacheRow)) : CacheSheet :=
  writes.foldl (fun sheet write => sheet.store write.1 write.2) sheet

def rowsWritten : CacheSheet → List (Bool × CacheRow) → List Nat
  | _, [] => []
  | sheet, write :: rest =>
    sheet.writeRow write.1 :: rowsWritten (sheet.store write.1 write.2) rest

variable {sheet : CacheSheet} {row : CacheRow}

theorem ensureRowsAllocated_eq (sheet : CacheSheet) :
    sheet.ensureRowsAllocated =
      { sheet with allocated := sheet.allocated + (cacheMaxRows + 1 - sheet.numRows) } := by
  unfold ensureRowsAllocated
  split
  · rfl
  · rename_i full
    rw [Nat.sub_eq_zero_of_le (Nat.not_lt.mp full)]
    rfl

theorem store_true (sheet : CacheSheet) (row : CacheRow) :
    sheet.store true row =
      { allocated := sheet.allocated + (cacheMaxRows + 1 - sheet.numRows)
        rows := (sheet.setRow (sheet.writeRow true) row).rows
        cursor := if cacheMaxRows < sheet.writeRow true then 2 else sheet.writeRow true + 1 } := by
  simp only [store, if_true, ensureRowsAllocated_eq, advanceCursor, setRow, writeRow, getNextCursor,
    numRows, Nat.add_lt_add_iff_right]

theorem store_rows (metaWorks : Bool) :
    (sheet.store metaWorks row).rows = (sheet.setRow (sheet.writeRow metaWorks) row).rows := by
  cases metaWorks with
  | true => rw [store_true]
  | false => rfl

theorem cursor_store (inside : sheet.cursor ≤ cacheMaxRows + 1) (metaWorks : Bool) :
    (sheet.store metaWorks row).cursor ≤ cacheMaxRows + 1 := by
  cases metaWorks with
  | true =>
    rw [store_true]
    dsimp only
    split
    · decide
    · omega
  | false => exact inside

theorem cursor_storeAll (inside : sheet.cursor ≤ cacheMaxRows + 1)
    (writes : List (Bool × CacheRow)) : (sheet.storeAll writes).cursor ≤ cacheMaxRows + 1 := by
  induction writes generalizing sheet with
  | nil => exact inside
  | cons write rest ih => exact ih (cursor_store inside write.1)

theorem writeRow_place (inside : sheet.cursor ≤ cacheMaxRows + 1) (metaWorks : Bool) :
    2 ≤ sheet.writeRow metaWorks ∧ sheet.writeRow metaWorks ≤ sheet.numRows + 1 := by
  have header : 1 ≤ sheet.numRows := Nat.le_add_left 1 _
  unfold writeRow getNextCursor
  dsimp only
  split_ifs <;> omega

theorem setRow_getElem? {number : Nat} (place : 2 ≤ number ∧ number ≤ sheet.numRows + 1) (i : Nat) :
    (sheet.setRow number row).rows[i]? =
      if i + 2 = number then some row else sheet.rows[i]? := by
  unfold numRows at place
  unfold setRow numRows
  split
  · -- Behind the last row there is nothing else.
    rw [getElem?_append]
    split
    · rw [if_neg (by omega)]
    · split
      · rw [show i - sheet.rows.length = 0 by omega]
        rfl
      · rw [getElem?_eq_none (by simp; omega), getElem?_eq_none (by omega)]
  · rw [getElem?_set]
    split
    · rw [if_pos (by omega), if_pos (by omega)]
    · rw [if_neg (by omega)]

theorem storeAll_getElem? (inside : sheet.cursor ≤ cacheMaxRows + 1)
    {writes : List (Bool × CacheRow)} {i : Nat} (kept : i + 2 ∉ sheet.rowsWritten writes) :
    (sheet.storeAll writes).rows[i]? = sheet.rows[i]? := by
  induction writes generalizing sheet with
  | nil => rfl
  | cons write rest ih =>
    rw [rowsWritten, mem_cons, not_or] at kept
    have later := ih (cursor_store inside write.1) kept.2
    rw [store_rows, setRow_getElem? (writeRow_place inside _), if_neg kept.1] at later
    exact later

theorem findNext_eq {hash : Text} {i : Nat} (here : sheet.rows[i]? = some row)
    (shows_ : row.shows hash = true)
    (front : ∀ j other, j < i → sheet.rows[j]? = some other → other.shows hash = false) :
    sheet.findNext hash = some row := by
  refine List.find?_eq_some_iff_getElem.mpr ⟨shows_, i, ?_⟩
  obtain ⟨short, is⟩ := List.getElem?_eq_some_iff.mp here
  refine ⟨short, is, ?_⟩
  intro j before
  rw [front j _ before (getElem?_eq_getElem (by omega))]
  rfl

theorem rowsWritten_append (sheet : CacheSheet) (front back : List (Bool × CacheRow)) :
    sheet.rowsWritten (front ++ back) =
      sheet.rowsWritten front ++ (sheet.storeAll front).rowsWritten back := by
  induction front generalizing sheet with
  | nil => rfl
  | cons write rest ih => exact congrArg (sheet.writeRow write.1 :: ·) (ih _)

/-- A write of a run whose row has not been written over since. -/
structure Standing (sheet : CacheSheet) (writes : List (Bool × CacheRow)) where
  before : List (Bool × CacheRow)
  metaWorks : Bool
  row : CacheRow
  after : List (Bool × CacheRow)
  split : writes = before ++ (metaWorks, row) :: after
  stands : (sheet.storeAll before).writeRow metaWorks ∉
    ((sheet.storeAll before).store metaWorks row).rowsWritten after

namespace Standing

variable {writes : List (Bool × CacheRow)}

/-- The number of the row that was written. -/
def number (place : Standing sheet writes) : Nat :=
  (sheet.storeAll place.before).writeRow place.metaWorks

theorem number_place (inside : sheet.cursor ≤ cacheMaxRows + 1) (place : Standing sheet writes) :
    2 ≤ place.number :=
  (writeRow_place (cursor_storeAll inside _) _).1

/-- After some of the later writes, the row is where it was written. -/
theorem getElem?_of_prefix (inside : sheet.cursor ≤ cacheMaxRows + 1)
    (place : Standing sheet writes) {between rest : List (Bool × CacheRow)}
    (later : place.after = between ++ rest) :
    (sheet.storeAll (place.before ++ (place.metaWorks, place.row) :: between)).rows[place.number - 2]? =
      some place.row := by
  have cursor := cursor_storeAll inside place.before
  have above := number_place inside place
  have stands := place.stands
  rw [later, rowsWritten_append, mem_append, not_or] at stands
  rw [storeAll, foldl_append, foldl_cons]
  refine (storeAll_getElem? (cursor_store cursor _) ?_).trans ?_
  · rw [Nat.sub_add_cancel above]
    exact stands.1
  · rw [store_rows, setRow_getElem? (writeRow_place cursor _)]
    exact if_pos (Nat.sub_add_cancel above)

/-- At the end of the run, the row is where it was written. -/
theorem getElem?_number (inside : sheet.cursor ≤ cacheMaxRows + 1) (place : Standing sheet writes) :
    (sheet.storeAll writes).rows[place.number - 2]? = some place.row := by
  have all := getElem?_of_prefix inside place (append_nil place.after).symm
  rwa [← place.split] at all

/-- What is written later goes to another row, and finds this one where it was written. -/
theorem apart_of_lt (inside : sheet.cursor ≤ cacheMaxRows + 1) {older newer : Standing sheet writes}
    (first : older.before.length < newer.before.length) :
    older.number ≠ newer.number ∧
      (sheet.storeAll newer.before).rows[older.number - 2]? = some older.row := by
  obtain ⟨between, front, back⟩ :
      ∃ between, newer.before = older.before ++ (older.metaWorks, older.row) :: between ∧
        older.after = between ++ (newer.metaWorks, newer.row) :: newer.after := by
    rcases append_eq_append_iff.mp (older.split.symm.trans newer.split) with
      ⟨more, front, back⟩ | ⟨more, front, -⟩
    · cases more with
      | nil =>
        rw [front, append_nil] at first
        omega
      | cons write between =>
        rw [cons_append, cons_eq_cons] at back
        exact ⟨between, by rw [front, back.1], back.2⟩
    · rw [front, length_append] at first
      omega
  refine ⟨fun same => ?_, ?_⟩
  · have stands := older.stands
    rw [back, rowsWritten_append, mem_append, not_or] at stands
    refine stands.2 ?_
    have reached : ((sheet.storeAll older.before).store older.metaWorks older.row).storeAll
        between = sheet.storeAll newer.before := by
      rw [front, storeAll, storeAll, storeAll, foldl_append, foldl_cons]
    rw [reached]
    exact mem_cons.mpr (.inl same)
  · rw [front]
    exact getElem?_of_prefix inside older back

/-- Each row of the sheet is a write that stands, or was there before and not written over. -/
theorem exists_of_getElem? (inside : sheet.cursor ≤ cacheMaxRows + 1) {i : Nat}
    (here : (sheet.storeAll writes).rows[i]? = some row) :
    (i + 2 ∉ sheet.rowsWritten writes ∧ sheet.rows[i]? = some row) ∨
      ∃ place : Standing sheet writes, place.number = i + 2 ∧ place.row = row := by
  induction writes generalizing sheet with
  | nil => exact .inl ⟨not_mem_nil, here⟩
  | cons write rest ih =>
    rcases ih (cursor_store inside write.1) here with ⟨unwritten, early⟩ | ⟨place, number, same⟩
    · rw [store_rows, setRow_getElem? (writeRow_place inside _)] at early
      split at early
      · -- The first write stands.
        rename_i this
        refine .inr ⟨⟨[], write.1, write.2, rest, rfl, ?_⟩, this.symm, Option.some.inj early⟩
        exact this ▸ unwritten
      · rename_i other
        exact .inl ⟨fun written => (mem_cons.mp written).elim other unwritten, early⟩
    · refine .inr ⟨⟨write :: place.before, place.metaWorks, place.row, place.after, ?_,
        place.stands⟩, number, same⟩
      rw [cons_append, ← place.split]

/-- Of one run there is one write at each position. -/
theorem same_of_length {one other : Standing sheet writes}
    (same : one.before.length = other.before.length) :
    one.number = other.number ∧ one.row = other.row := by
  obtain ⟨front, back⟩ := append_inj (one.split.symm.trans other.split) same
  obtain ⟨write, -⟩ := cons_eq_cons.mp back
  obtain ⟨metaWorks, row⟩ := Prod.mk.inj write
  exact ⟨by rw [number, number, front, metaWorks], row⟩

end Standing

/--
A write goes in front: each row that stays and has its key, or whose key it shows, has the same key,
comes behind it and expires no later.
-/
def Ahead (sheet : CacheSheet) (write : Bool × CacheRow) : Prop :=
  ∀ other ∈ sheet.rows.zipIdx, other.2 + 2 ≠ sheet.writeRow write.1 →
    other.1.shows write.2.hash ∨ write.2.shows other.1.hash →
    sheet.writeRow write.1 < other.2 + 2 ∧ other.1.hash = write.2.hash ∧
      other.1.expiresAt ≤ write.2.expiresAt

instance (sheet : CacheSheet) (write : Bool × CacheRow) : Decidable (sheet.Ahead write) :=
  inferInstanceAs (Decidable (∀ other ∈ _, _))

/-- Each write of a run goes in front. -/
def StoredAhead : CacheSheet → List (Bool × CacheRow) → Prop
  | _, [] => True
  | sheet, write :: rest => sheet.Ahead write ∧ StoredAhead (sheet.store write.1 write.2) rest

theorem StoredAhead.ahead {before after : List (Bool × CacheRow)} {write : Bool × CacheRow}
    (all : sheet.StoredAhead (before ++ write :: after)) : (sheet.storeAll before).Ahead write := by
  induction before generalizing sheet with
  | nil => exact all.1
  | cons first rest ih => exact ih all.2

namespace Standing

variable {writes : List (Bool × CacheRow)}

/-- Of two rows that stand and show the same key, the newer one is in front. -/
theorem ahead_of_lt (inside : sheet.cursor ≤ cacheMaxRows + 1) (all : sheet.StoredAhead writes)
    {older newer : Standing sheet writes} (first : older.before.length < newer.before.length)
    (related : older.row.shows newer.row.hash ∨ newer.row.shows older.row.hash) :
    newer.number < older.number ∧ older.row.hash = newer.row.hash ∧
      older.row.expiresAt ≤ newer.row.expiresAt := by
  obtain ⟨other, here⟩ := apart_of_lt inside first
  have above := number_place inside older
  rw [newer.split] at all
  have front := all.ahead (older.row, older.number - 2) (mem_zipIdx_iff_getElem?.mpr here)
  rw [Nat.sub_add_cancel above] at front
  exact front other related

/-- From an empty sheet on, a lookup of a key finds the row that was stored for it last. -/
theorem findNext_newest (inside : sheet.cursor ≤ cacheMaxRows + 1) (empty : sheet.rows = [])
    (all : sheet.StoredAhead writes) (newest : Standing sheet writes)
    (latest : ∀ later : Standing sheet writes, newest.before.length < later.before.length →
      later.row.hash ≠ newest.row.hash) :
    (sheet.storeAll writes).findNext newest.row.hash = some newest.row := by
  refine findNext_eq (getElem?_number inside newest) (by simp [CacheRow.shows, eqIgnoreCase])
    fun j other front here => Bool.eq_false_iff.mpr fun shown => ?_
  rcases exists_of_getElem? inside here with ⟨-, early⟩ | ⟨place, number, rfl⟩
  · simp [empty] at early
  · rcases Nat.lt_trichotomy place.before.length newest.before.length with older | same | later
    · have behind := (ahead_of_lt inside all older (.inl shown)).1
      omega
    · have equal := (same_of_length same).1
      omega
    · exact latest place later (ahead_of_lt inside all later (.inr shown)).2.1.symm

/-- No row that stands for the key expires later than the one that was stored last. -/
theorem expiresAt_le_newest (inside : sheet.cursor ≤ cacheMaxRows + 1)
    (all : sheet.StoredAhead writes) {newest : Standing sheet writes}
    (latest : ∀ later : Standing sheet writes, newest.before.length < later.before.length →
      later.row.hash ≠ newest.row.hash)
    {place : Standing sheet writes} (same : place.row.hash = newest.row.hash) :
    place.row.expiresAt ≤ newest.row.expiresAt := by
  rcases Nat.lt_trichotomy place.before.length newest.before.length with older | equal | later
  · exact (ahead_of_lt inside all older
      (.inl (by simp [CacheRow.shows, eqIgnoreCase, same]))).2.2
  · rw [(same_of_length equal).2]
  · exact absurd same (latest place later)

end Standing

/-- While the sheet is not full, a write goes behind the last row with content. -/
theorem store_of_lt (room : sheet.rows.length < cacheMaxRows) (metaWorks : Bool) :
    sheet.writeRow metaWorks = sheet.rows.length + 2 ∧
      (sheet.store metaWorks row).rows.length = sheet.rows.length + 1 := by
  have place : sheet.writeRow metaWorks = sheet.rows.length + 2 := by
    simp [writeRow, getNextCursor, numRows, room]
  refine ⟨place, ?_⟩
  simp [store_rows, setRow, place, numRows]

/-- A write to a full sheet with the meta sheet overwrites a row. -/
theorem store_full (full : sheet.rows.length = cacheMaxRows)
    (inside : sheet.cursor ≤ cacheMaxRows + 1) :
    (2 ≤ sheet.writeRow true ∧ sheet.writeRow true ≤ cacheMaxRows + 1) ∧
      (sheet.store true row).rows.length = cacheMaxRows := by
  have place : 2 ≤ sheet.writeRow true ∧ sheet.writeRow true ≤ cacheMaxRows + 1 := by
    have several : 2 ≤ cacheMaxRows + 1 := by decide
    simp only [writeRow, getNextCursor, numRows, full]
    split_ifs <;> omega
  refine ⟨place, ?_⟩
  have within : sheet.writeRow true ≠ sheet.numRows + 1 := by
    rw [numRows, full]
    omega
  rw [store_rows, setRow, if_neg within, length_set, full]

/-- With the meta sheet, as many rows are added as there are without content; else one at most. -/
theorem allocated_store (metaWorks : Bool) :
    (sheet.store metaWorks row).allocated =
      if metaWorks then sheet.allocated + (cacheMaxRows - sheet.rows.length)
      else max sheet.allocated (sheet.rows.length + 2) := by
  cases metaWorks with
  | true =>
    rw [store_true]
    simp [numRows]
  | false => rfl

/-- A write always changes the sheet. -/
theorem store_ne (sheet : CacheSheet) (row : CacheRow) (metaWorks : Bool) :
    sheet.store metaWorks row ≠ sheet := by
  intro same
  rcases Nat.lt_or_ge sheet.rows.length cacheMaxRows with room | full
  · have longer := (@store_of_lt sheet row room metaWorks).2
    rw [same] at longer
    omega
  · cases metaWorks with
    | false =>
      have longer := congrArg (fun sheet : CacheSheet => sheet.rows.length) same
      simp [store_rows, setRow, writeRow] at longer
    | true =>
      -- The cursor moves on.
      have place : sheet.writeRow true = if sheet.cursor < 2 then 2 else sheet.cursor :=
        if_neg (Nat.not_lt.mpr (Nat.add_le_add_right full 1))
      have moved := congrArg CacheSheet.cursor same
      rw [store_true, place] at moved
      dsimp only at moved
      have several : 2 ≤ cacheMaxRows := by decide
      split_ifs at moved <;> omega

/-- Content stays where it belongs exactly if no row is appended to a full sheet. -/
theorem rowsWritten_inside_iff (inside : sheet.cursor ≤ cacheMaxRows + 1)
    (room : sheet.rows.length ≤ cacheMaxRows) (writes : List (Bool × CacheRow)) :
    (∀ number ∈ sheet.rowsWritten writes, 2 ≤ number ∧ number ≤ cacheMaxRows + 1) ↔
      ∀ write ∈ writes.drop (cacheMaxRows - sheet.rows.length), write.1 = true := by
  induction writes generalizing sheet with
  | nil => simp [rowsWritten]
  | cons write rest ih =>
    obtain ⟨metaWorks, row⟩ := write
    have later := @ih (sheet.store metaWorks row) (cursor_store inside metaWorks)
    rw [rowsWritten, List.forall_mem_cons]
    rcases Nat.lt_or_eq_of_le room with free | full
    · obtain ⟨place, longer⟩ := @store_of_lt sheet row free metaWorks
      have left : cacheMaxRows - sheet.rows.length = cacheMaxRows - (sheet.rows.length + 1) + 1 := by
        omega
      rw [later (by omega), longer, left, drop_succ_cons, place]
      exact and_iff_right (by omega)
    · rw [full, Nat.sub_self, drop_zero, List.forall_mem_cons]
      cases metaWorks with
      | true =>
        obtain ⟨place, same⟩ := @store_full sheet row full inside
        rw [later same.le, same, Nat.sub_self, drop_zero]
        exact and_congr_left' (iff_of_true place rfl)
      | false =>
        -- The row is appended behind the last one that may have content.
        have beyond : sheet.writeRow false = cacheMaxRows + 2 := by simp [writeRow, numRows, full]
        rw [beyond]
        refine iff_of_false (fun all => ?_) (by simp)
        omega

/-- The rows that writes with the meta sheet add, with so many rows of content at first. -/
def addedRows : Nat → List (Bool × CacheRow) → Nat
  | _, [] => 0
  | content, write :: rest =>
    (if write.1 then cacheMaxRows - content else 0) + addedRows (content + 1) rest

/-- To a full sheet no rows are added. -/
theorem addedRows_full {content : Nat} (full : cacheMaxRows ≤ content)
    (writes : List (Bool × CacheRow)) : addedRows content writes = 0 := by
  induction writes generalizing content with
  | nil => rfl
  | cons write rest ih =>
    rw [addedRows, ih (by omega), Nat.sub_eq_zero_of_le full]
    simp

/-- A full sheet keeps its rows. -/
theorem allocated_full (full : sheet.rows.length = cacheMaxRows)
    (inside : sheet.cursor ≤ cacheMaxRows + 1) {writes : List (Bool × CacheRow)}
    (managed : ∀ write ∈ writes, write.1 = true) :
    (sheet.storeAll writes).allocated = sheet.allocated := by
  induction writes generalizing sheet with
  | nil => rfl
  | cons write rest ih =>
    obtain ⟨here, later⟩ := List.forall_mem_cons.mp managed
    obtain ⟨metaWorks, row⟩ := write
    subst here
    have step := ih (@store_full sheet row full inside).2 (cursor_store inside true) later
    rw [allocated_store, if_pos rfl, full, Nat.sub_self, Nat.add_zero] at step
    exact step

/-- Once the sheet has all rows that may have content, only the meta sheet makes it longer. -/
theorem allocated_storeAll (enough : cacheMaxRows + 1 ≤ sheet.allocated)
    (inside : sheet.cursor ≤ cacheMaxRows + 1) (room : sheet.rows.length ≤ cacheMaxRows)
    {writes : List (Bool × CacheRow)}
    (managed : ∀ write ∈ writes.drop (cacheMaxRows - sheet.rows.length), write.1 = true) :
    (sheet.storeAll writes).allocated =
      sheet.allocated + addedRows sheet.rows.length writes := by
  induction writes generalizing sheet with
  | nil => rfl
  | cons write rest ih =>
    rcases Nat.lt_or_eq_of_le room with free | full
    · obtain ⟨metaWorks, row⟩ := write
      obtain ⟨-, longer⟩ := @store_of_lt sheet row free metaWorks
      have left : cacheMaxRows - sheet.rows.length = cacheMaxRows - (sheet.rows.length + 1) + 1 := by
        omega
      rw [left, drop_succ_cons, ← longer] at managed
      have added := @allocated_store sheet row metaWorks
      have step := ih (by split at added <;> omega) (cursor_store inside metaWorks) (by omega) managed
      rw [longer] at step
      rw [addedRows]
      refine step.trans ?_
      rw [added]
      split <;> omega
    · rw [full, Nat.sub_self, drop_zero] at managed
      rw [allocated_full full inside managed, addedRows_full full.ge, Nat.add_zero]

/-- The writes before the first one with the meta sheet. -/
def appendedFirst (writes : List (Bool × CacheRow)) : Nat := (writes.takeWhile (!·.1)).length

/-- From a new sheet, rows are appended one by one until the meta sheet adds some. -/
theorem allocated_eq {r0 : Nat} (start : sheet.allocated = max r0 (sheet.rows.length + 1))
    (inside : sheet.cursor ≤ cacheMaxRows + 1) (room : sheet.rows.length ≤ cacheMaxRows)
    {writes : List (Bool × CacheRow)}
    (managed : ∀ write ∈ writes.drop (cacheMaxRows - sheet.rows.length), write.1 = true) :
    (sheet.storeAll writes).allocated = max r0 (sheet.rows.length + appendedFirst writes + 1) +
      addedRows sheet.rows.length writes := by
  induction writes generalizing sheet with
  | nil => exact start
  | cons write rest ih =>
    obtain ⟨metaWorks, row⟩ := write
    have added := @allocated_store sheet row metaWorks
    rcases Nat.lt_or_eq_of_le room with free | full
    · obtain ⟨-, longer⟩ := @store_of_lt sheet row free metaWorks
      have left : cacheMaxRows - sheet.rows.length = cacheMaxRows - (sheet.rows.length + 1) + 1 := by
        omega
      rw [left, drop_succ_cons, ← longer] at managed
      cases metaWorks with
      | true =>
        rw [if_pos rfl] at added
        have step := @allocated_storeAll (sheet.store true row) (by omega)
          (cursor_store inside true) (by omega) rest managed
        rw [longer] at step
        refine step.trans ?_
        simp only [addedRows, appendedFirst, takeWhile_cons, if_true, added, start]
        simp
        omega
      | false =>
        rw [if_neg (by simp)] at added
        have step := ih (by omega) (cursor_store inside false) (by omega) managed
        rw [longer] at step
        refine step.trans ?_
        simp [addedRows, appendedFirst]
        omega
    · rw [full, Nat.sub_self, drop_zero] at managed
      obtain rfl : metaWorks = true := (List.forall_mem_cons.mp managed).1
      rw [allocated_full full inside managed, addedRows_full full.ge, start]
      simp [appendedFirst]

/-- The first write with the meta sheet adds the missing rows, the later ones add rows again. -/
theorem addedRows_eq (content : Nat) (writes : List (Bool × CacheRow)) :
    addedRows content writes =
      (if writes.dropWhile (!·.1) = [] then 0 else cacheMaxRows - (content + appendedFirst writes)) +
        addedRows (content + appendedFirst writes + 1) (writes.dropWhile (!·.1)).tail := by
  induction writes generalizing content with
  | nil => rfl
  | cons write rest ih =>
    cases managed : write.1 with
    | true => simp [addedRows, appendedFirst, managed]
    | false =>
      have more : appendedFirst (write :: rest) = appendedFirst rest + 1 := by
        simp [appendedFirst, managed]
      have same : (write :: rest).dropWhile (!·.1) = rest.dropWhile (!·.1) := by
        simp [managed]
      have sum : content + 1 + appendedFirst rest = content + (appendedFirst rest + 1) := by omega
      rw [addedRows, ih, more, same, managed, sum]
      simp

/-- If none is appended to a full sheet, no more than its rows are appended at first. -/
theorem appendedFirst_le {writes : List (Bool × CacheRow)}
    (managed : ∀ write ∈ writes.drop cacheMaxRows, write.1 = true) :
    appendedFirst writes ≤ cacheMaxRows := by
  by_contra more
  have longer : cacheMaxRows < (writes.takeWhile (!·.1)).length := Nat.not_le.mp more
  have appended := List.all_eq_true.mp (List.all_takeWhile (p := (!·.1)) (l := writes)) _
    (getElem_mem longer)
  have inside : (writes.takeWhile (!·.1))[cacheMaxRows] ∈ writes.drop cacheMaxRows :=
    ((List.takeWhile_prefix _).drop cacheMaxRows).subset (mem_drop_iff_getElem.mpr ⟨0, by omega, rfl⟩)
  simp [managed _ inside] at appended

end CacheSheet

/--
Content and rows of a sheet stay within their bounds exactly if none is appended to a full sheet, and
the writes with the meta sheet after the first one of them find few rows without content: each adds
so many rows again.
-/
theorem sheet_rows_bounded_iff (r0 : Nat) (header : 0 < r0) (writes : List (Bool × CacheRow)) :
    ((∀ number ∈ CacheSheet.rowsWritten { allocated := r0 } writes,
        2 ≤ number ∧ number ≤ cacheMaxRows + 1) ∧
      (CacheSheet.storeAll { allocated := r0 } writes).allocated ≤ r0 + cacheMaxRows + 1) ↔
    (∀ write ∈ writes.drop cacheMaxRows, write.1 = true) ∧
      CacheSheet.addedRows (CacheSheet.appendedFirst writes + 1) (writes.dropWhile (!·.1)).tail ≤
        min r0 (CacheSheet.appendedFirst writes + 1) := by
  have inside : (2 : Nat) ≤ cacheMaxRows + 1 := by decide
  have content := @CacheSheet.rowsWritten_inside_iff { allocated := r0 } inside (Nat.zero_le _) writes
  rw [content]
  refine and_congr_right fun managed => ?_
  have rows := @CacheSheet.allocated_eq { allocated := r0 } r0 (by simp; omega) inside
    (Nat.zero_le _) writes managed
  have few := CacheSheet.appendedFirst_le managed
  rw [rows, CacheSheet.addedRows_eq, List.length_nil, Nat.zero_add]
  split
  · rename_i unmanaged
    simp only [unmanaged, tail_nil, CacheSheet.addedRows]
    omega
  · omega

def emptyRow : CacheRow := ⟨[], [], 200, [], [], 0, 0, false⟩

/-- One write with the meta sheet keeps within the bounds, also after rows that were appended. -/
theorem sheet_rows_bounded_iff_appended :
    (∀ number ∈ CacheSheet.rowsWritten { allocated := 1000 }
        [(false, emptyRow), (false, emptyRow), (true, emptyRow)],
      2 ≤ number ∧ number ≤ cacheMaxRows + 1) ∧
    (CacheSheet.storeAll { allocated := 1000 }
        [(false, emptyRow), (false, emptyRow), (true, emptyRow)]).allocated ≤
      1000 + cacheMaxRows + 1 :=
  (sheet_rows_bounded_iff 1000 (by decide)
    [(false, emptyRow), (false, emptyRow), (true, emptyRow)]).mpr (by decide)

/-- Two writes with the meta sheet do not: the second adds rows as if none had been added. -/
theorem rows_added_twice :
    (CacheSheet.storeAll { allocated := 1000 } [(true, emptyRow), (true, emptyRow)]).allocated =
        1000 + 9999 ∧
      1000 + cacheMaxRows + 1 < 1000 + 9999 := by
  decide

/-- The MD5 digests of two keys. -/
def digests : List (Text × Text) :=
  [(lit "http://a/|accept-encoding:<none>|accept-language:<none>",
      lit "38787ec2a394058411f2a3b7814a22e1"),
    (lit "http://b/|accept-encoding:<none>|accept-language:<none>",
      lit "35c3871d6be805357dd9aca4e1731c4b")]

def plainServices : SheetServices where
  md5Hex text := ((digests.find? fun digest => digest.1 = text).map Prod.snd).getD []
  gzip := id
  ungzip := id
  stringOf value := value.asStr.getD []
  toUtcString _ := lit "Thu, 01 Jan 1970 00:00:00 GMT"

def pageWith (name value : Text) : Fetched := ⟨200, [(name, .one value)], []⟩

def sheetAfter (calls : List (Fetched × Nat)) : CacheSheet :=
  calls.foldl (fun sheet call =>
    (fetchAndCache plainEngine plainServices (fun _ _ => .ok call.1) true sheet
      (lit "http://a/") none call.2).2) { allocated := 1000 }

theorem get_cons (member : Text × Json) (members : List (Text × Json)) (name : Text) :
    (Json.obj (member :: members)).get name =
      ((Json.obj members).get name).or (if member.1 = name then some member.2 else none) := by
  simp only [Json.get, reverse_cons, find?_append, find?_singleton]
  cases members.reverse.find? fun member => decide (member.1 = name) <;> simp

theorem get_assign_ne {key name : Text} (other : name ≠ key) (value : Json)
    (members : List (Text × Json)) :
    (Json.obj (assign key value members)).get name = (Json.obj members).get name := by
  induction members with
  | nil => simp [assign, Json.get, Ne.symm other]
  | cons member members ih =>
    rw [assign]
    split
    · rename_i here
      simp [get_cons, here, Ne.symm other]
    · rw [get_cons, get_cons, ih]

section

variable {engine : Engine} {services : SheetServices}

/-- What a row keeps of the response: its lifetime, its code and its body. -/
theorem facts_of_rowFor {url : Text} {reqHeaders : Option Json} {response : Fetched} {now : Nat}
    {row : CacheRow} (kept : rowFor engine services url reqHeaders response now = .ok (some row)) :
    (∃ seconds, parseMaxAge engine (cacheControl engine row.headers) = .ok seconds) ∧
      row.status = response.code ∧
      row.body = Base64.encode (if row.z then services.gzip response.content
        else response.content) := by
  unfold rowFor at kept
  simp only [bind, Except.bind, pure_eq_ok] at kept
  split at kept
  · cases kept
  · split at kept
    · cases kept
    · rename_i seconds parsed
      split at kept
      · cases kept
      · split at kept
        · cases kept
        · split at kept
          · cases kept
          · cases kept
            refine ⟨⟨seconds, parsed⟩, rfl, ?_⟩
            dsimp only [storedBody]
            split <;> rfl

theorem cacheFields_differ :
    (lit "Age" ≠ lit "Cache-Control" ∧ lit "Age" ≠ lit "cache-control") ∧
      lit "Date" ≠ lit "Cache-Control" ∧ lit "Date" ≠ lit "cache-control" := by
  with_unfolding_all decide

theorem cacheControl_assign_ne {key : Text}
    (other : key ≠ lit "Cache-Control" ∧ key ≠ lit "cache-control") (value : Json)
    (headers : List (Text × Json)) :
    cacheControl engine (assign key value headers) = cacheControl engine headers := by
  unfold cacheControl eitherField Engine.member
  rw [get_assign_ne other.1.symm, get_assign_ne other.2.symm]

theorem replyOf_eq {row : CacheRow} {content : Bytes}
    (decodes : ∀ data, engine.base64Decode (.str (Base64.encode data)) = .ok data)
    (unpacks : ∀ data, services.ungzip (services.gzip data) = data)
    (body : row.body = Base64.encode (if row.z then services.gzip content else content))
    {seconds : Nat} (parsed : parseMaxAge engine (cacheControl engine row.headers) = .ok seconds)
    (now : Nat) :
    ∃ reply, replyOf engine services row now = .ok reply ∧ reply.status = row.status ∧
      reply.body = Base64.encode content := by
  have same : parseMaxAge engine (cacheControl engine
      (assign (lit "Age") (.str (decimal ((now - row.timestamp) / 1000)))
        (assign (lit "Date") (.str (services.toUtcString now)) row.headers))) = .ok seconds := by
    rw [cacheControl_assign_ne cacheFields_differ.1, cacheControl_assign_ne cacheFields_differ.2,
      parsed]
  unfold replyOf refreshCachedHeaders
  cases packed : row.z with
  | false =>
    simp only [packed, Bool.false_eq_true, if_false] at body ⊢
    simp only [ok_bind, pure_eq_ok, same]
    exact ⟨_, rfl, rfl, body⟩
  | true =>
    simp only [packed, if_true] at body ⊢
    simp only [ok_bind, pure_eq_ok, body, decodes, same, unpacks]
    exact ⟨_, rfl, rfl, rfl⟩

end

/--
While a row that was stored for a key stands and has not expired, a lookup answers with the response
that was stored for the key last, if each write of the run went in front.
-/
theorem sheet_cache_serves (engine : Engine) (services : SheetServices)
    (decodes : ∀ data, engine.base64Decode (.str (Base64.encode data)) = .ok data)
    (unpacks : ∀ data, services.ungzip (services.gzip data) = data)
    {r0 : Nat} {writes : List (Bool × CacheRow)}
    (all : CacheSheet.StoredAhead { allocated := r0 } writes)
    (newest : CacheSheet.Standing { allocated := r0 } writes)
    (latest : ∀ later : CacheSheet.Standing { allocated := r0 } writes,
      newest.before.length < later.before.length → later.row.hash ≠ newest.row.hash)
    {url : Text} {reqHeaders : Option Json} {response : Fetched} {time : Nat}
    (kept : rowFor engine services url reqHeaders response time = .ok (some newest.row))
    {askedUrl : Text} {askedHeaders : Option Json}
    (sameKey : getCacheKey engine services askedUrl askedHeaders = .ok newest.row.hash)
    (place : CacheSheet.Standing { allocated := r0 } writes)
    (same : place.row.hash = newest.row.hash) {now : Nat} (fresh : now ≤ place.row.expiresAt) :
    ∃ reply, getFromCache engine services (CacheSheet.storeAll { allocated := r0 } writes) askedUrl
        askedHeaders now = .ok (some reply) ∧
      reply.status = response.code ∧ reply.body = Base64.encode response.content := by
  have inside : (2 : Nat) ≤ cacheMaxRows + 1 := by decide
  have found := newest.findNext_newest inside rfl all latest
  have unexpired := fresh.trans (CacheSheet.Standing.expiresAt_le_newest inside all latest same)
  obtain ⟨⟨seconds, parsed⟩, status, body⟩ := facts_of_rowFor kept
  obtain ⟨reply, replied, sameStatus, sameBody⟩ := replyOf_eq decodes unpacks body parsed now
  refine ⟨reply, ?_, sameStatus.trans status, sameBody⟩
  simp only [getFromCache, sameKey, found, ok_bind, replied]
  exact if_neg (Nat.not_lt.mpr unexpired)

/-- The row that a page without fields gives at a time. -/
def pageRow (url hash : Text) (content : Bytes) (now : Nat) : CacheRow :=
  { hash, url, status := 200, headers := [], body := Base64.encode content, timestamp := now
    expiresAt := now + 86400000, z := false }

def twoPages : List (Bool × CacheRow) :=
  [(true, pageRow (lit "http://a/") (lit "38787ec2a394058411f2a3b7814a22e1") [1] 0),
    (true, pageRow (lit "http://b/") (lit "35c3871d6be805357dd9aca4e1731c4b") [2] 100)]

/-- Of two pages that were stored, each is served for its own address. -/
theorem sheet_cache_serves_pages :
    ∃ reply, getFromCache plainEngine plainServices
        (CacheSheet.storeAll { allocated := 1000 } twoPages) (lit "http://a/") none 500 =
          .ok (some reply) ∧
      reply.status = 200 ∧ reply.body = Base64.encode [1] := by
  have decodes (data : Bytes) :
      plainEngine.base64Decode (.str (Base64.encode data)) = .ok data := by
    simp [plainEngine, Json.asStr]
  let first : CacheSheet.Standing { allocated := 1000 } twoPages :=
    ⟨[], _, _, _, rfl, by decide⟩
  refine @sheet_cache_serves plainEngine plainServices decodes (fun _ => rfl) 1000 twoPages ?_ first
    ?_ (lit "http://a/") none ⟨200, [], [1]⟩ 0 ?_ (lit "http://a/") none ?_ first rfl 500 ?_
  · exact ⟨by with_unfolding_all decide, by with_unfolding_all decide, trivial⟩
  · -- Only the other page comes later.
    rintro ⟨before, metaWorks, row, after, split, stands⟩ behind
    change 0 < before.length at behind
    have member : (metaWorks, row) ∈ twoPages.drop 1 := by
      rw [split, drop_append_of_le_length behind]
      exact mem_append_right _ mem_cons_self
    obtain ⟨-, rfl⟩ := Prod.mk.inj (List.mem_singleton.mp member)
    change lit "35c3871d6be805357dd9aca4e1731c4b" ≠ lit "38787ec2a394058411f2a3b7814a22e1"
    with_unfolding_all decide
  · with_unfolding_all rfl
  · with_unfolding_all rfl
  · with_unfolding_all decide

def keptTwice : CacheSheet :=
  sheetAfter [(pageWith (lit "Cache-Control") (lit "max-age=60"), 0),
    (pageWith (lit "Cache-Control") (lit "max-age=60"), 70000)]

theorem fresh_row_behind_expired :
    keptTwice.rows.map CacheRow.expiresAt = [60000, 130000] ∧
      ((getFromCache plainEngine plainServices keptTwice (lit "http://a/") none
        80000).toOption.map Option.isNone) = some true := by
  with_unfolding_all decide

/-- The texts of a field: several where it was sent several times. -/
def FieldValue.texts : FieldValue → List Text
  | .one text => [text]
  | .many texts => texts

/-- A text has one of the words that keep a response from the sheet. -/
def HasForbiddingWord (engine : Engine) (text : Text) : Prop :=
  ∃ word ∈ forbiddingWords, word <:+: engine.toLowerCase text

/-- A `Cache-Control` field of the response, however it is written, forbids to keep it. -/
def Forbidden (engine : Engine) (response : Fetched) : Prop :=
  ∃ field ∈ response.headers, lower field.1 = lit "cache-control" ∧
    ∃ text ∈ field.2.texts, HasForbiddingWord engine text

/-- The value that the script finds ends the keeping: it has such a word, or it is no text. -/
def Refuses (engine : Engine) (value : Json) : Prop :=
  ∀ text, value = .str text → HasForbiddingWord engine text

section

variable {engine : Engine} {services : SheetServices}

theorem any_cut_iff (text : Text) :
    (forbiddingWords.any fun word => (cut word (engine.toLowerCase text)).isSome) = true ↔
      HasForbiddingWord engine text := by
  rw [List.any_eq_true]
  refine exists_congr fun word => and_congr_right fun _ => ⟨fun found => ?_, fun inside => ?_⟩
  · by_contra absent
    rw [cut_eq_none absent] at found
    exact absurd found (by simp)
  · obtain ⟨front, back, whole⟩ := inside
    obtain ⟨before, after, is, -⟩ := exists_cut_of_eq_append whole.symm
    rw [is]
    rfl

/-- There is a lifetime unless the value that was found refuses. -/
theorem parseMaxAge_ok_iff (control : Option Json) :
    (∃ seconds, parseMaxAge engine control = .ok seconds ∧ seconds ≠ 0) ↔
      ∀ value, control = some value → ¬ Refuses engine value := by
  rcases control with _ | (_ | _ | _ | text | _ | _)
  case some.str =>
    simp only [parseMaxAge, Option.some.injEq, forall_eq']
    by_cases forbidden : HasForbiddingWord engine text
    · rw [if_pos ((any_cut_iff text).mpr forbidden)]
      refine iff_of_false (by rintro ⟨_, ⟨⟩, positive⟩; exact positive rfl) fun free => free ?_
      rintro _ ⟨⟩
      exact forbidden
    · rw [if_neg (mt (any_cut_iff text).mp forbidden)]
      refine iff_of_true ?_ fun refuses => forbidden (refuses text rfl)
      cases findMaxAge (engine.toLowerCase text) with
      | none => exact ⟨_, rfl, by decide⟩
      | some ttl => exact ⟨_, rfl, by omega⟩
  case none => exact iff_of_true ⟨_, rfl, by decide⟩ (by simp)
  all_goals
    refine iff_of_false (by rintro ⟨_, ⟨⟩, _⟩) fun free => free _ rfl ?_
    rintro _ ⟨⟩

variable {url : Text} {reqHeaders : Option Json} {response : Fetched} {now : Nat}

theorem exists_rowFor_iff :
    (∃ row, rowFor engine services url reqHeaders response now = .ok (some row)) ↔
      response.code < 500 ∧
      (∃ seconds, parseMaxAge engine (cacheControl engine (response.headers.map fun field =>
        (field.1, field.2.toJson))) = .ok seconds ∧ seconds ≠ 0) ∧
      (storedBody engine services (response.headers.map fun field => (field.1, field.2.toJson))
        response.content).1.length ≤ cacheMaxBodyBytes ∧
      ∃ key, getCacheKey engine services url reqHeaders = .ok key := by
  unfold rowFor
  by_cases failed : 500 ≤ response.code
  · simp [failed]
  cases parsed : parseMaxAge engine (cacheControl engine (response.headers.map fun field =>
    (field.1, field.2.toJson))) with
  | error reason => simp [failed, bind, Except.bind, parsed]
  | ok seconds =>
    by_cases zero : seconds = 0
    · simp [failed, bind, Except.bind, parsed, zero]
    by_cases large : cacheMaxBodyBytes < (storedBody engine services (response.headers.map
      fun field => (field.1, field.2.toJson)) response.content).1.length
    · simp [failed, bind, Except.bind, parsed, zero, large]
    cases key : getCacheKey engine services url reqHeaders with
    | error reason => simp [failed, bind, Except.bind, parsed, zero, large]
    | ok hash =>
      simp [failed, bind, Except.bind, parsed, zero, large, Nat.not_lt.mp large,
        Nat.not_le.mp failed]

/-- A call leaves the sheet as it is exactly if it has no row to keep. -/
theorem fetchAndCache_unchanged_iff {fetch : Text → FetchOptions → Except Text Fetched}
    (fetched : fetch url cacheFetchOptions = .ok response) (metaWorks : Bool) (sheet : CacheSheet) :
    (fetchAndCache engine services fetch metaWorks sheet url reqHeaders now).2 = sheet ↔
      ¬ ∃ row, rowFor engine services url reqHeaders response now = .ok (some row) := by
  unfold fetchAndCache
  rw [fetched]
  dsimp only
  rcases rowFor engine services url reqHeaders response now with reason | _ | row
  · simp
  · simp
  · simpa using sheet.store_ne row metaWorks

end

/--
A response that forbids it is not kept exactly if the value found under one of the two names that the
script looks for refuses it, or it is not kept for another reason: its code, its size or its key.
-/
theorem uncacheable_not_stored_iff (engine : Engine) (services : SheetServices)
    {fetch : Text → FetchOptions → Except Text Fetched} {url : Text} {response : Fetched}
    (fetched : fetch url cacheFetchOptions = .ok response)
    (metaWorks : Bool) (sheet : CacheSheet) (reqHeaders : Option Json) (now : Nat) :
    (Forbidden engine response →
      (fetchAndCache engine services fetch metaWorks sheet url reqHeaders now).2 = sheet) ↔
    (Forbidden engine response →
      (∃ value, cacheControl engine (response.headers.map fun field =>
          (field.1, field.2.toJson)) = some value ∧ Refuses engine value) ∨
      500 ≤ response.code ∨
      cacheMaxBodyBytes < (storedBody engine services (response.headers.map fun field =>
        (field.1, field.2.toJson)) response.content).1.length ∨
      ∀ key, getCacheKey engine services url reqHeaders ≠ .ok key) := by
  refine forall_congr' fun _ => ?_
  rw [fetchAndCache_unchanged_iff fetched, exists_rowFor_iff, parseMaxAge_ok_iff]
  simp only [not_and_or, not_lt, not_le, not_exists, not_forall, not_not, exists_prop, ne_eq]
  exact or_left_comm

/-- A page with the usual field that forbids it is not kept. -/
theorem uncacheable_not_stored_iff_page :
    (fetchAndCache plainEngine plainServices
      (fun _ _ => .ok (pageWith (lit "Cache-Control") (lit "max-age=60, No-Store"))) true
      { allocated := 1000 } (lit "http://a/") none 0).2 = { allocated := 1000 } := by
  have small : plainEngine.toLowerCase (lit "max-age=60, No-Store") =
      lit "max-age=60, " ++ lit "no-store" := by with_unfolding_all decide
  have word : HasForbiddingWord plainEngine (lit "max-age=60, No-Store") :=
    ⟨lit "no-store", by simp [forbiddingWords], small ▸ (suffix_append _ _).isInfix⟩
  have named : lower (lit "Cache-Control") = lit "cache-control" := by with_unfolding_all decide
  refine (@uncacheable_not_stored_iff plainEngine plainServices _ _ _ rfl true _ none 0).mpr
    (fun _ => .inl ⟨.str (lit "max-age=60, No-Store"), by with_unfolding_all rfl, ?_⟩)
    ⟨_, mem_singleton_self _, named, _, mem_singleton_self _, word⟩
  rintro _ ⟨⟩
  exact word

theorem forbidden_page_stored :
    (sheetAfter [(pageWith (lit "CACHE-CONTROL") (lit "no-store"), 0)]).rows.length = 1 := by
  with_unfolding_all rfl

end Gvpn
