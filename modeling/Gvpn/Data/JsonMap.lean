import Gvpn.Data.Json

/-! Objects ordered by key, where a later member replaces an earlier one. -/

namespace Gvpn.Json

open List

def Ordered (members : List (Text × Json)) : Prop :=
  members.Pairwise fun earlier later => earlier.1 < later.1

variable {key : Text}

theorem key_lt_of_not_lt {other : Text} (after : ¬ key < other) (different : key ≠ other) :
    other < key := by
  by_contra before
  exact different (List.le_antisymm before after)

variable {members : List (Text × Json)} {value : Json}

theorem mem_insertMember (ordered : Ordered members) {member : Text × Json} :
    member ∈ insertMember key value members ↔
      member = (key, value) ∨ (member ∈ members ∧ member.1 ≠ key) := by
  induction members with
  | nil => simp [insertMember]
  | cons first rest ih =>
    obtain ⟨head, tail⟩ := List.pairwise_cons.mp ordered
    simp only [insertMember]
    split
    · -- The key comes before all others, so none of them is replaced.
      rename_i before
      have others : ∀ other ∈ first :: rest, other.1 ≠ key := by
        intro other inside same
        rcases List.mem_cons.mp inside with rfl | later
        · exact List.lt_irrefl _ (same ▸ before)
        · have further := List.lt_trans before (head other later)
          exact List.lt_irrefl _ (same ▸ further)
      rw [mem_cons]
      refine or_congr_right ⟨fun inside => ⟨inside, others member inside⟩, And.left⟩
    · split
      · -- The first member has the key, and no later one has.
        rename_i same
        have others : ∀ other ∈ rest, other.1 ≠ key := by
          intro other inside again
          exact List.lt_irrefl _ (again ▸ same ▸ head other inside)
        rw [mem_cons, mem_cons]
        refine or_congr_right ⟨fun inside => ⟨.inr inside, others member inside⟩, ?_⟩
        rintro ⟨rfl | inside, different⟩
        · exact absurd same.symm different
        · exact inside
      · rename_i different
        rw [mem_cons, ih tail, mem_cons]
        constructor
        · rintro (rfl | rfl | ⟨inside, other⟩)
          · exact .inr ⟨.inl rfl, fun same => different same.symm⟩
          · exact .inl rfl
          · exact .inr ⟨.inr inside, other⟩
        · rintro (rfl | ⟨rfl | inside, other⟩)
          · exact .inr (.inl rfl)
          · exact .inl rfl
          · exact .inr (.inr ⟨inside, other⟩)

theorem Ordered.insertMember (ordered : Ordered members)
    (key : Text) (value : Json) : Ordered (insertMember key value members) := by
  induction members with
  | nil => exact pairwise_singleton _ _
  | cons first rest ih =>
    obtain ⟨head, tail⟩ := List.pairwise_cons.mp ordered
    simp only [Json.insertMember]
    split
    · rename_i before
      refine List.pairwise_cons.mpr ⟨?_, ordered⟩
      intro other inside
      rcases List.mem_cons.mp inside with rfl | later
      · exact before
      · exact List.lt_trans before (head other later)
    · rename_i notBefore
      split
      · rename_i same
        exact List.pairwise_cons.mpr ⟨fun other inside => same ▸ head other inside, tail⟩
      · rename_i different
        refine List.pairwise_cons.mpr ⟨?_, ih tail⟩
        intro other inside
        rcases (mem_insertMember tail).mp inside with rfl | ⟨later, -⟩
        · exact key_lt_of_not_lt notBefore different
        · exact head other later

theorem byKey_concat (members : List (Text × Json)) (member : Text × Json) :
    byKey (members ++ [member]) = insertMember member.1 member.2 (byKey members) := by
  simp [byKey]

theorem ordered_byKey (members : List (Text × Json)) : Ordered (byKey members) := by
  induction members using List.reverseRecOn with
  | nil => exact List.Pairwise.nil
  | append_singleton members member ih =>
    rw [byKey_concat]
    exact ih.insertMember _ _

theorem get_concat (members : List (Text × Json)) (member : Text × Json) (key : Text) :
    (Json.obj (members ++ [member])).get key =
      if member.1 = key then some member.2 else (Json.obj members).get key := by
  by_cases same : member.1 = key <;> simp [get, same]

theorem mem_byKey :
    (key, value) ∈ byKey members ↔ (Json.obj members).get key = some value := by
  induction members using List.reverseRecOn with
  | nil => simp [byKey, get]
  | append_singleton members member ih =>
    rw [byKey_concat, mem_insertMember (ordered_byKey members), ih, get_concat]
    by_cases same : member.1 = key
    · subst same
      simp [Prod.ext_iff, eq_comm]
    · have different : key ≠ member.1 := fun again => same again.symm
      simp [Prod.ext_iff, same, different]

theorem mem_of_mem_byKey {member : Text × Json}
    (inside : member ∈ byKey members) : member ∈ members := by
  obtain ⟨found, search, same⟩ := Option.map_eq_some_iff.mp (mem_byKey.mp inside)
  have key : found.1 = member.1 := by simpa using find?_some search
  rw [← Prod.ext key same]
  exact List.mem_reverse.mp (mem_of_find?_eq_some search)

theorem Ordered.eq_of_key (ordered : Ordered members)
    {left right : Text × Json} (first : left ∈ members) (second : right ∈ members)
    (same : left.1 = right.1) : left = right := by
  have distinct : (members.map Prod.fst).Nodup := by
    refine List.pairwise_map.mpr (ordered.imp ?_)
    intro earlier later before again
    exact List.lt_irrefl _ (again ▸ before)
  exact inj_on_of_nodup_map distinct first second same

theorem Ordered.get_eq_some_iff (ordered : Ordered members) :
    (Json.obj members).get key = some value ↔ (key, value) ∈ members := by
  simp only [get, Option.map_eq_some_iff]
  constructor
  · rintro ⟨member, found, rfl⟩
    have same : member.1 = key := by simpa using find?_some found
    rw [← same]
    exact List.mem_reverse.mp (mem_of_find?_eq_some found)
  · intro inside
    have isSome : (members.reverse.find? fun member => member.1 = key).isSome := by
      rw [find?_isSome]
      exact ⟨(key, value), List.mem_reverse.mpr inside, by simp⟩
    obtain ⟨member, found⟩ := Option.isSome_iff_exists.mp isSome
    have same : member.1 = key := by simpa using find?_some found
    have listed := List.mem_reverse.mp (mem_of_find?_eq_some found)
    exact ⟨member, found, by rw [ordered.eq_of_key listed inside same]⟩

theorem get_byKey (members : List (Text × Json)) (key : Text) :
    (Json.obj (byKey members)).get key = (Json.obj members).get key :=
  Option.ext fun _ => (ordered_byKey members).get_eq_some_iff.trans mem_byKey

theorem Ordered.get_insertMember (ordered : Ordered members)
    {other : Text} (different : other ≠ key) (value : Json) :
    (Json.obj (Json.insertMember key value members)).get other = (Json.obj members).get other := by
  refine Option.ext fun found => ?_
  rw [(ordered.insertMember key value).get_eq_some_iff, ordered.get_eq_some_iff,
    mem_insertMember ordered]
  simp [Prod.ext_iff, different]

end Gvpn.Json
