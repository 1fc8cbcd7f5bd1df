import Mathlib.Data.Finset.Card
import Mathlib.Data.List.AList
import Mathlib.Data.List.MinMax

/-! Tables with one entry for each key, and lists searched for a key. -/

namespace Gvpn

open List Option

section

variable {κ β : Type} [BEq κ] [LawfulBEq κ] {pairs : List (κ × β)} {key : κ}

theorem mem_of_lookup_eq_some {value : β} (found : pairs.lookup key = some value) :
    (key, value) ∈ pairs := by
  obtain ⟨front, back, rfl, -⟩ := List.lookup_eq_some_iff.mp found
  simp

theorem lookup_filter_of_kept {test : κ × β → Bool} (kept : ∀ value, test (key, value) = true) :
    (pairs.filter test).lookup key = pairs.lookup key := by
  induction pairs with
  | nil => rfl
  | cons first others ih =>
    obtain ⟨found, value⟩ := first
    by_cases passes : test (found, value) = true
    · rw [filter_cons_of_pos passes, lookup_cons, lookup_cons, ih]
    · -- A pair that goes is under another key.
      have different : (key == found) = false := by
        apply beq_eq_false_iff_ne.mpr
        rintro rfl
        exact passes (kept value)
      rw [filter_cons_of_neg passes, lookup_cons, different, ih]

end

abbrev Table (κ β : Type) : Type := AList fun _ : κ => β

namespace Table

variable {κ β : Type}

def mapValues (update : β → β) (table : Table κ β) : Table κ β where
  entries := table.entries.map (Sigma.map id fun _ => update)
  nodupKeys := by
    -- The keys stay as they are.
    unfold List.NodupKeys List.keys
    rw [List.map_map]
    exact table.nodupKeys

@[simp]
theorem lookup_mapValues [DecidableEq κ] (update : β → β) (table : Table κ β) (key : κ) :
    AList.lookup key (mapValues update table) = (AList.lookup key table).map update :=
  dlookup_map₂ key

variable {table : Table κ β} {key : κ} {value : β}

theorem mapValues_eq_self {update : β → β}
    (same : ∀ entry ∈ table.entries, update entry.2 = entry.2) : mapValues update table = table := by
  apply AList.ext
  refine (map_congr_left ?_).trans (List.map_id table.entries)
  intro entry member
  exact Sigma.ext rfl (heq_of_eq (same entry member))

theorem lookup_erase_eq_some [DecidableEq κ] {erased : κ} :
    AList.lookup key (AList.erase erased table) = some value ↔
      key ≠ erased ∧ AList.lookup key table = some value := by
  by_cases same : key = erased
  · subst same
    simp
  · simp [same, AList.lookup_erase_ne same]

def retain (test : β → Bool) (table : Table κ β) : Table κ β where
  entries := table.entries.filter fun entry => test entry.2
  nodupKeys := NodupKeys.sublist filter_sublist table.nodupKeys

theorem lookup_retain_eq_some [DecidableEq κ] {test : β → Bool} :
    AList.lookup key (retain test table) = some value ↔
      AList.lookup key table = some value ∧ test value = true := by
  rw [← mem_def, ← mem_def, AList.mem_lookup_iff, AList.mem_lookup_iff]
  exact mem_filter

def retainKeys (test : κ → Bool) (table : Table κ β) : Table κ β where
  entries := table.entries.filter fun entry => test entry.1
  nodupKeys := NodupKeys.sublist filter_sublist table.nodupKeys

theorem lookup_retainKeys_eq_some [DecidableEq κ] {test : κ → Bool} :
    AList.lookup key (retainKeys test table) = some value ↔
      AList.lookup key table = some value ∧ test key = true := by
  rw [← mem_def, ← mem_def, AList.mem_lookup_iff, AList.mem_lookup_iff]
  exact mem_filter

def minByKey [LinearOrder β] (table : Table κ β) : Option κ :=
  (table.entries.argmin Sigma.snd).map Sigma.fst

theorem exists_of_minByKey [DecidableEq κ] [LinearOrder β] (least : minByKey table = some key) :
    ∃ value, AList.lookup key table = some value ∧
      ∀ other bound, AList.lookup other table = some bound → value ≤ bound := by
  obtain ⟨⟨found, value⟩, smallest, rfl⟩ := Option.map_eq_some_iff.mp least
  refine ⟨value, AList.mem_lookup_iff.mpr (argmin_mem smallest), ?_⟩
  intro other bound present
  exact le_of_mem_argmin (AList.mem_lookup_iff.mp present) smallest

theorem entries_eq_nil_of_minByKey [LinearOrder β]
    (missing : minByKey table = none) : table.entries = [] :=
  List.argmin_eq_none.mp (Option.map_eq_none_iff.mp missing)

theorem lookup_eq_none_of_minByKey [DecidableEq κ] [LinearOrder β]
    (missing : minByKey table = none) (key : κ) : AList.lookup key table = none := by
  have nothing := entries_eq_nil_of_minByKey missing
  cases looked : AList.lookup key table with
  | none => rfl
  | some value =>
    have member := AList.mem_lookup_iff.mp looked
    rw [nothing] at member
    simp at member

theorem card_keys [DecidableEq κ] (table : Table κ β) :
    table.keys.toFinset.card = table.entries.length := by
  rw [toFinset_card_of_nodup table.keys_nodup]
  exact length_map _

theorem length_erase_of_lookup [DecidableEq κ] (present : AList.lookup key table = some value) :
    (AList.erase key table).entries.length + 1 = table.entries.length := by
  have member : key ∈ table.keys := by
    exact AList.lookup_isSome.mp (by rw [present]; rfl)
  have positive : 0 < table.keys.length := length_pos_of_mem member
  have fewer : (AList.erase key table).keys.length = table.keys.length - 1 := by
    rw [AList.keys_erase, length_erase_of_mem member]
  have counted : ∀ some_ : Table κ β, some_.keys.length = some_.entries.length :=
    fun some_ => length_map _
  rw [counted, counted] at fewer
  rw [counted] at positive
  omega

theorem length_insert_le [DecidableEq κ] (key : κ) (value : β) (table : Table κ β) :
    (AList.insert key value table).entries.length ≤ table.entries.length + 1 := by
  exact Nat.succ_le_succ (kerase_sublist key table.entries).length_le

end Table

end Gvpn
