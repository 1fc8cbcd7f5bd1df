import Mathlib.Tactic.IntervalCases

/-! The civil calendar, with days counted from the start of the year 0. -/

namespace Gvpn

structure CivilDate where
  year : Nat
  month : Nat
  day : Nat
  deriving DecidableEq

def IsLeap (year : Nat) : Prop := year % 4 = 0 ∧ (year % 100 ≠ 0 ∨ year % 400 = 0)

instance (year : Nat) : Decidable (IsLeap year) := inferInstanceAs (Decidable (_ ∧ _))

def monthLength (year : Nat) : Nat → Nat
  | 0 => 0
  | 2 => if IsLeap year then 29 else 28
  | 4 | 6 | 9 | 11 => 30
  | _ => 31

def daysBeforeYear : Nat → Nat
  | 0 => 0
  | year + 1 => daysBeforeYear year + if IsLeap year then 366 else 365

def daysBeforeMonth (year : Nat) : Nat → Nat
  | 0 => 0
  | month + 1 => daysBeforeMonth year month + monthLength year month

namespace CivilDate

structure Valid (date : CivilDate) : Prop where
  month_pos : 1 ≤ date.month
  month_le : date.month ≤ 12
  day_pos : 1 ≤ date.day
  day_le : date.day ≤ monthLength date.year date.month

def dayCount (date : CivilDate) : Nat :=
  daysBeforeYear date.year + daysBeforeMonth date.year date.month + (date.day - 1)

def ofMarch (year dayOfYear : Nat) : CivilDate :=
  let month := (5 * dayOfYear + 2) / 153
  ⟨if month < 10 then year else year + 1, if month < 10 then month + 3 else month - 9,
    dayOfYear - (153 * month + 2) / 5 + 1⟩

end CivilDate

variable (year : Nat)

/-- The leap years below a year and those up to it differ by the year itself. -/
theorem leapCount_step :
    (year + 3) / 4 + (year + 399) / 400 + year / 100 + 1 =
      year / 4 + year / 400 + (year + 99) / 100 + if IsLeap year then 1 else 2 := by
  have fours : (year + 3) / 4 = year / 4 + if year % 4 = 0 then 0 else 1 := by
    split <;> omega
  have hundreds : (year + 99) / 100 = year / 100 + if year % 100 = 0 then 0 else 1 := by
    split <;> omega
  have rounds : (year + 399) / 400 = year / 400 + if year % 400 = 0 then 0 else 1 := by
    split <;> omega
  rw [fours, hundreds, rounds]
  clear fours hundreds rounds
  by_cases leap : IsLeap year
  all_goals
    simp only [leap, if_true, if_false]
    unfold IsLeap at leap
    split_ifs <;> omega

theorem daysBeforeYear_eq :
    daysBeforeYear year + (year + 99) / 100 =
      365 * year + (year + 3) / 4 + (year + 399) / 400 := by
  induction year with
  | zero => rfl
  | succ year ih =>
    have step := leapCount_step year
    have fours : (year + 1 + 3) / 4 = year / 4 + 1 := Nat.add_div_right year (Nat.succ_pos _)
    have hundreds : (year + 1 + 99) / 100 = year / 100 + 1 :=
      Nat.add_div_right year (Nat.succ_pos _)
    have rounds : (year + 1 + 399) / 400 = year / 400 + 1 :=
      Nat.add_div_right year (Nat.succ_pos _)
    rw [fours, hundreds, rounds]
    unfold daysBeforeYear
    -- Without the divisions the rest is linear.
    generalize (year + 3) / 4 = a, (year + 99) / 100 = b, (year + 399) / 400 = c, year / 4 = d,
      year / 100 = e, year / 400 = f at *
    split_ifs at * <;> omega

theorem daysBeforeMarch_eq :
    daysBeforeYear year + daysBeforeMonth year 3 + year / 100 =
      365 * year + year / 4 + year / 400 + 60 := by
  have before := daysBeforeYear_eq year
  have step := leapCount_step year
  simp only [daysBeforeMonth, monthLength]
  generalize (year + 3) / 4 = a, (year + 99) / 100 = b, (year + 399) / 400 = c, year / 4 = d,
    year / 100 = e, year / 400 = f at *
  split_ifs at * <;> omega

theorem CivilDate.ofMarch_spec {year dayOfYear : Nat} (within : dayOfYear ≤ 365)
    (leapDay : dayOfYear = 365 → IsLeap (year + 1)) :
    (ofMarch year dayOfYear).Valid ∧ (ofMarch year dayOfYear).dayCount + year / 100 =
      365 * year + year / 4 + year / 400 + dayOfYear + 60 := by
  have march := daysBeforeMarch_eq year
  have next := daysBeforeYear_eq (year + 1)
  obtain ⟨month, is⟩ : ∃ month, month = (5 * dayOfYear + 2) / 153 := ⟨_, rfl⟩
  have last : month ≤ 11 := by omega
  have february : dayOfYear - 336 ≤ monthLength (year + 1) 2 := by
    simp only [monthLength]
    split
    · omega
    · rename_i common
      have earlier : dayOfYear ≠ 365 := fun is => common (leapDay is)
      omega
  unfold ofMarch
  rw [← is]
  interval_cases month
  all_goals
    simp only [Nat.reduceLT, Nat.reduceAdd, Nat.reduceSub, Nat.reduceMul, Nat.reduceDiv, if_true,
      if_false, dayCount, daysBeforeMonth, monthLength] at march february ⊢
    refine ⟨⟨by dsimp only; omega, by dsimp only; omega, by dsimp only; omega, ?_⟩, by omega⟩
    simp only [monthLength]
    omega

theorem daysBeforeMonth_thirteen :
    daysBeforeYear year + daysBeforeMonth year 13 = daysBeforeYear (year + 1) := by
  simp only [daysBeforeMonth, monthLength, daysBeforeYear]
  split <;> rfl

theorem daysBeforeMonth_mono : Monotone (daysBeforeMonth year) :=
  monotone_nat_of_le_succ fun _ => Nat.le_add_right _ _

theorem daysBeforeYear_mono : Monotone daysBeforeYear :=
  monotone_nat_of_le_succ fun _ => Nat.le_add_right _ _

namespace CivilDate

variable {date other : CivilDate}

theorem Valid.dayCount_lt_month (valid : date.Valid) {month : Nat} (later : date.month < month) :
    date.dayCount < daysBeforeYear date.year + daysBeforeMonth date.year month := by
  have next := daysBeforeMonth_mono date.year later
  obtain ⟨-, -, pos, within⟩ := valid
  simp only [daysBeforeMonth] at next
  unfold dayCount
  omega

theorem Valid.dayCount_lt_year (valid : date.Valid) {year : Nat} (later : date.year < year) :
    date.dayCount < daysBeforeYear year := by
  have inside := valid.dayCount_lt_month (Nat.lt_succ_of_le valid.month_le)
  rw [daysBeforeMonth_thirteen] at inside
  exact inside.trans_le (daysBeforeYear_mono later)

def Before (date other : CivilDate) : Prop :=
  date.year < other.year ∨ date.year = other.year ∧
    (date.month < other.month ∨ date.month = other.month ∧ date.day < other.day)

theorem Valid.dayCount_lt (valid : date.Valid) (before : date.Before other) :
    date.dayCount < other.dayCount := by
  rcases before with earlier | ⟨same, earlier | ⟨month, earlier⟩⟩
  · exact (valid.dayCount_lt_year earlier).trans_le (by unfold dayCount; omega)
  · exact (valid.dayCount_lt_month earlier).trans_le (by unfold dayCount; rw [same]; omega)
  · have pos := valid.day_pos
    unfold dayCount
    rw [same, month]
    omega

end CivilDate

def weekday (day : Nat) : Nat := (day + 6) % 7

def sundayFrom (day : Nat) : Nat := day + (7 - weekday day) % 7

end Gvpn
