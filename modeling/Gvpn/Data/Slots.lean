import Mathlib.Data.List.Basic

/-! Positions taken from the start, and values put into the open ones. -/

namespace Gvpn

open List Option

section

variable {ε α : Type}

def openBefore (slots : List (Option ε)) (i : Nat) : Nat := (slots.take i).countP Option.isNone

def fill (values : List α) : Nat → List (Option ε) → List (Except ε (Option α))
  | _, [] => []
  | cursor, some taken :: rest => .error taken :: fill values cursor rest
  | cursor, none :: rest => .ok values[cursor]? :: fill values (cursor + 1) rest

def spread : List (Option ε) → List (Option ε) → List (Option ε)
  | [], _ => []
  | some taken :: rest, more => some taken :: spread rest more
  | none :: rest, [] => none :: spread rest []
  | none :: rest, next :: more => next :: spread rest more

def scatter : List (Nat × α) → List (Option α) → List (Option α)
  | [], slots => slots
  | (i, value) :: rest, slots => scatter rest (slots.set i (some value))

variable (slots : List (Option ε))

@[simp]
theorem openBefore_zero : openBefore slots 0 = 0 := rfl

@[simp]
theorem openBefore_some (taken : ε) (slots : List (Option ε)) (i : Nat) :
    openBefore (some taken :: slots) (i + 1) = openBefore slots i := by
  simp [openBefore]

@[simp]
theorem openBefore_none (i : Nat) :
    openBefore (none :: slots) (i + 1) = openBefore slots i + 1 := by
  simp [openBefore]

@[simp]
theorem fill_length (values : List α) (cursor : Nat) :
    (fill values cursor slots).length = slots.length := by
  induction slots generalizing cursor with
  | nil => rfl
  | cons slot rest ih => cases slot <;> simp [fill, ih]

theorem fill_getElem? (values : List α) (cursor : Nat) (i : Nat) :
    (fill values cursor slots)[i]? = slots[i]?.map fun slot =>
      match slot with
      | some taken => .error taken
      | none => .ok values[cursor + openBefore slots i]? := by
  -- The cursor moves on at the open slots only.
  induction slots generalizing cursor i with
  | nil => rfl
  | cons slot rest ih =>
    cases i with
    | zero => cases slot <;> rfl
    | succ i =>
      cases slot with
      | some taken => simp only [fill, getElem?_cons_succ, ih, openBefore_some]
      | none =>
        simp only [fill, getElem?_cons_succ, ih, openBefore_none]
        rw [show cursor + 1 + openBefore rest i = cursor + (openBefore rest i + 1) by omega]

@[simp]
theorem spread_length (more : List (Option ε)) : (spread slots more).length = slots.length := by
  induction slots generalizing more with
  | nil => rfl
  | cons slot rest ih =>
    cases slot with
    | some taken => simp [spread, ih]
    | none => cases more <;> simp [spread, ih]

variable {i : Nat}

theorem spread_getElem? {slots more : List (Option ε)} (isOpen : slots[i]? = some none) :
    (spread slots more)[i]? = some more[openBefore slots i]?.join := by
  induction slots generalizing more i with
  | nil => simp at isOpen
  | cons slot rest ih =>
    cases i with
    | zero =>
      simp only [getElem?_cons_zero, some.injEq] at isOpen
      subst isOpen
      cases more <;> simp [spread]
    | succ i =>
      cases slot with
      | some taken => simp only [spread, getElem?_cons_succ, ih isOpen, openBefore_some]
      | none =>
        cases more with
        | nil => simp [spread, ih isOpen]
        | cons next more =>
          simp only [spread, getElem?_cons_succ, ih isOpen, openBefore_none]

theorem spread_taken {slots : List (Option ε)} {taken : ε}
    (isTaken : slots[i]? = some (some taken)) (more : List (Option ε)) :
    (spread slots more)[i]? = some (some taken) := by
  induction slots generalizing more i with
  | nil => simp at isTaken
  | cons slot rest ih =>
    cases i with
    | zero =>
      simp only [getElem?_cons_zero, some.injEq] at isTaken
      subst isTaken
      simp [spread]
    | succ i =>
      cases slot with
      | some other => simp [spread, ih isTaken]
      | none => cases more <;> simp [spread, ih isTaken]

theorem openBefore_spread {slots more : List (Option ε)}
    (enough : openBefore slots i ≤ more.length) :
    openBefore (spread slots more) i = openBefore more (openBefore slots i) := by
  induction slots generalizing more i with
  | nil => simp [spread, openBefore]
  | cons slot rest ih =>
    cases i with
    | zero => simp
    | succ i =>
      cases slot with
      | some taken =>
        simp [spread, ih enough]
      | none =>
        cases more with
        | nil => simp at enough
        | cons next more =>
          have left : openBefore rest i ≤ more.length := by simpa using enough
          cases next <;> simp [spread, ih left]

theorem getElem?_filterMap {β : Type} {f : α → Option β} {values : List α} {k : Nat} {kept : β} :
    (values.filterMap f)[k]? = some kept ↔
      ∃ (i : Nat) (value : α), values[i]? = some value ∧ f value = some kept ∧
        ((values.take i).filterMap f).length = k := by
  constructor
  · intro found
    obtain ⟨inside, is⟩ := List.getElem?_eq_some_iff.mp found
    have parts := (take_append_drop k (values.filterMap f)).symm
    rw [drop_eq_getElem_cons inside, is] at parts
    obtain ⟨front, back, rfl, frontIs, backIs⟩ := List.filterMap_eq_append_iff.mp parts
    obtain ⟨skipped, value, rest, rfl, skips, keeps, -⟩ := List.filterMap_eq_cons_iff.mp backIs
    refine ⟨(front ++ skipped).length, value, ?_, keeps, ?_⟩
    · rw [← append_assoc, getElem?_append_right (Nat.le_refl _), Nat.sub_self, getElem?_cons_zero]
    · rw [← append_assoc, take_left, filterMap_append, frontIs, filterMap_eq_nil_iff.mpr skips,
        append_nil, length_take, Nat.min_eq_left (Nat.le_of_lt inside)]
  · rintro ⟨i, value, found, is, rfl⟩
    obtain ⟨inside, rfl⟩ := List.getElem?_eq_some_iff.mp found
    have parts := congrArg (filterMap f) (take_append_drop i values)
    rw [filterMap_append, drop_eq_getElem_cons inside, filterMap_cons_some is] at parts
    rw [← parts, getElem?_append_right (Nat.le_refl _), Nat.sub_self, getElem?_cons_zero]

@[simp]
theorem scatter_length (values : List (Nat × α)) (slots : List (Option α)) :
    (scatter values slots).length = slots.length := by
  induction values generalizing slots with
  | nil => rfl
  | cons value rest ih => simp [scatter, ih]

theorem scatter_other {values : List (Nat × α)} (other : i ∉ values.map Prod.fst)
    (slots : List (Option α)) : (scatter values slots)[i]? = slots[i]? := by
  induction values generalizing slots with
  | nil => rfl
  | cons value rest ih =>
    simp only [map_cons, mem_cons, not_or] at other
    rw [scatter, ih other.2, getElem?_set_ne (Ne.symm other.1)]

theorem scatter_mem {values : List (Nat × α)} {value : α}
    (distinct : (values.map Prod.fst).Nodup) (member : (i, value) ∈ values)
    {slots : List (Option α)} (inside : i < slots.length) :
    (scatter values slots)[i]? = some (some value) := by
  induction values generalizing slots with
  | nil => simp at member
  | cons first rest ih =>
    rw [map_cons, nodup_cons] at distinct
    rw [mem_cons] at member
    rcases member with rfl | later
    · -- No later value is put into the same slot.
      rw [scatter, scatter_other distinct.1, getElem?_set_self inside]
    · exact ih distinct.2 later (by simpa using inside)

variable {items : List α}

theorem getElem?_concat_eq_some {new found : α} (is : (items ++ [new])[i]? = some found) :
    items[i]? = some found ∨ found = new := by
  by_cases inside : i < items.length
  · rw [getElem?_append_left inside] at is
    exact .inl is
  · rw [getElem?_append_right (Nat.not_lt.mp inside)] at is
    exact .inr (List.mem_singleton.mp (mem_of_getElem? is))

theorem getElem?_append_of_some {found : α} (is : items[i]? = some found) (more : List α) :
    (items ++ more)[i]? = some found := by
  rw [getElem?_append_left (List.getElem?_eq_some_iff.mp is).1, is]

theorem getElem?_set_eq_some {j : Nat} {new found : α} (is : (items.set i new)[j]? = some found) :
    (j = i ∧ found = new) ∨ (j ≠ i ∧ items[j]? = some found) := by
  by_cases same : j = i
  · subst same
    rw [getElem?_set] at is
    simp only [if_true] at is
    obtain ⟨-, same⟩ := Option.ite_none_right_eq_some.mp is
    exact .inl ⟨rfl, (some.inj same).symm⟩
  · rw [getElem?_set_ne (Ne.symm same)] at is
    exact .inr ⟨same, is⟩

variable {old : α}

theorem getElem?_set_of_some (found : items[i]? = some old) (new : α) (j : Nat) :
    (items.set i new)[j]? = if j = i then some new else items[j]? := by
  have inside := (List.getElem?_eq_some_iff.mp found).1
  by_cases here : j = i
  · simp [here, inside]
  · simp [here, getElem?_set_ne (Ne.symm here)]

theorem set_eq_self (found : items[i]? = some old) :
    items.set i old = items := by
  obtain ⟨inside, rfl⟩ := List.getElem?_eq_some_iff.mp found
  exact set_getElem_self inside

theorem map_set_of_eq {β : Type} {f : α → β} {new : α}
    (found : items[i]? = some old) (same : f new = f old) :
    (items.set i new).map f = items.map f := by
  obtain ⟨inside, rfl⟩ := List.getElem?_eq_some_iff.mp found
  apply ext_getElem?
  intro j
  rw [map_set, getElem?_set, getElem?_map]
  by_cases here : i = j
  · subst here
    simp [same, inside]
  · rw [if_neg here]

theorem countP_set_of_getElem? (found : items[i]? = some old) (kind : α → Bool) (new : α) :
    (items.set i new).countP kind + (if kind old then 1 else 0) =
      items.countP kind + (if kind new then 1 else 0) := by
  induction items generalizing i with
  | nil => simp at found
  | cons first rest ih =>
    cases i with
    | zero =>
      obtain rfl : first = old := by simpa using found
      simp only [set_cons_zero, countP_cons]
      omega
    | succ i =>
      have later := ih (by simpa using found)
      simp only [set_cons_succ, countP_cons]
      omega

end

end Gvpn
