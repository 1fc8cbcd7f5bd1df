import Gvpn.Fronter.Pacific

/-! The date by which the daily counters are kept is the civil date in Pacific Time. -/

namespace Gvpn

open CivilDate

def epochDays : Nat := 719528

def springForward (year : Nat) : Nat := sundayFrom (dayCount ⟨year, 3, 8⟩) * 86400 + 10 * 3600

def fallBack (year : Nat) : Nat := sundayFrom (dayCount ⟨year, 11, 1⟩) * 86400 + 9 * 3600

def DaylightTime (utcSecs : Nat) : Prop :=
  ∃ year, springForward year ≤ utcSecs + epochDays * 86400 ∧
    utcSecs + epochDays * 86400 < fallBack year

theorem exists_parts_of_era {doe : Nat} (within : doe < 146097) :
    ∃ century quad year day, doe = 36524 * century + 1461 * quad + 365 * year + day ∧
      century ≤ 3 ∧ quad ≤ 24 ∧ year ≤ 3 ∧ day ≤ 365 ∧
      (day = 365 → year = 3 ∧ (quad = 24 → century = 3)) := by
  obtain ⟨rest, inCentury⟩ : ∃ rest, rest = doe - 36524 * min (doe / 36524) 3 := ⟨_, rfl⟩
  refine ⟨min (doe / 36524) 3, rest / 1461, min (rest % 1461 / 365) 3,
    rest % 1461 - 365 * min (rest % 1461 / 365) 3, ?_⟩
  omega

theorem yearOfEra_eq {century quad year day : Nat} (years : year ≤ 3) (days : day ≤ 365)
    (quads : quad ≤ 24) (centuries : century ≤ 3)
    (leapDay : day = 365 → year = 3 ∧ (quad = 24 → century = 3)) {doe : Nat}
    (parts : doe = 36524 * century + 1461 * quad + 365 * year + day) :
    (doe - doe / 1460 + doe / 36524 - doe / 146096) / 365 = 100 * century + 4 * quad + year := by
  obtain ⟨inQuad, is⟩ : ∃ inQuad, inQuad = 365 * year + day := ⟨_, rfl⟩
  have fours : doe / 1460 = 25 * century + quad + (24 * century + quad + inQuad) / 1460 := by omega
  have hundreds : doe / 36524 = century + (1461 * quad + inQuad) / 36524 := by omega
  have whole : doe / 146096 = (1461 * quad + inQuad) / 36524 := by omega
  omega

theorem isLeap_of_last (era : Nat) {century quad : Nat} (quads : quad ≤ 24)
    (last : quad = 24 → century = 3) : IsLeap (100 * century + 4 * quad + 3 + era * 400 + 1) := by
  unfold IsLeap
  omega

theorem daysOfEra_eq (era : Nat) {century quad year : Nat} (years : year ≤ 3) (quads : quad ≤ 24)
    (centuries : century ≤ 3) :
    let whole := 100 * century + 4 * quad + year + era * 400
    365 * whole + whole / 4 + whole / 400 =
      146097 * era + 36524 * century + 1461 * quad + 365 * year + whole / 100 := by
  intro whole
  have fours : whole / 4 = 25 * century + quad + era * 100 := by omega
  have hundreds : whole / 100 = century + era * 4 := by omega
  have eras : whole / 400 = era := by omega
  omega

theorem unixToYmdUtc_eq (secs : Nat) :
    ∃ year day, unixToYmdUtc secs = ofMarch year day ∧ day ≤ 365 ∧
      (day = 365 → IsLeap (year + 1)) ∧
      365 * year + year / 4 + year / 400 + day = secs / 86400 + 719468 + year / 100 := by
  obtain ⟨z, shifted⟩ : ∃ z, z = secs / 86400 + 719468 := ⟨_, rfl⟩
  obtain ⟨doe, rest⟩ : ∃ doe, doe = z - z / 146097 * 146097 := ⟨_, rfl⟩
  obtain ⟨century, quad, year, day, parts, centuries, quads, years, days, leapDay⟩ :=
    @exists_parts_of_era doe (by omega)
  have yoe := yearOfEra_eq years days quads centuries leapDay parts
  refine ⟨100 * century + 4 * quad + year + z / 146097 * 400, day, ?_, days, ?_, ?_⟩
  · have doy : doe - (365 * (100 * century + 4 * quad + year) + (100 * century + 4 * quad + year) / 4 -
        (100 * century + 4 * quad + year) / 100) = day := by omega
    unfold unixToYmdUtc ofMarch
    dsimp only
    rw [← shifted, ← rest, yoe, doy]
    congr 1
    split <;> split <;> omega
  · intro last
    obtain ⟨rfl, century⟩ := leapDay last
    exact isLeap_of_last _ quads century
  · have days := daysOfEra_eq (z / 146097) years quads centuries
    clear yoe
    omega

theorem unixToYmdUtc_spec (secs : Nat) :
    (unixToYmdUtc secs).Valid ∧ (unixToYmdUtc secs).dayCount = secs / 86400 + epochDays := by
  obtain ⟨year, day, same, within, leapDay, count⟩ := unixToYmdUtc_eq secs
  obtain ⟨valid, counted⟩ := ofMarch_spec within leapDay
  rw [same]
  refine ⟨valid, ?_⟩
  unfold epochDays
  omega

section

variable (year : Nat)

theorem dayCount_march (day : Nat) : dayCount ⟨year, 3, day⟩ =
    daysBeforeYear year + daysBeforeMonth year 3 + (day - 1) := rfl

theorem dayCount_november (day : Nat) : dayCount ⟨year, 11, day⟩ =
    daysBeforeYear year + daysBeforeMonth year 3 + 245 + (day - 1) := by
  simp only [dayCount, daysBeforeMonth, monthLength]
  omega

theorem weekday_march :
    (year + year / 4 - year / 100 + year / 400 + 2 + 1) % 7 =
      weekday (daysBeforeYear year + daysBeforeMonth year 3) := by
  have march := daysBeforeMarch_eq year
  unfold weekday
  omega

theorem dayCount_nthSunday_march :
    dayCount ⟨year, 3, nthSundayOfMonth year 3 2⟩ = sundayFrom (dayCount ⟨year, 3, 8⟩) := by
  have first : nthSundayOfMonth year 3 2 =
      (if weekday (daysBeforeYear year + daysBeforeMonth year 3) = 0 then 1
        else 8 - weekday (daysBeforeYear year + daysBeforeMonth year 3)) + 7 := by
    rw [← weekday_march]
    rfl
  rw [dayCount_march, dayCount_march, first]
  unfold sundayFrom weekday
  split <;> omega

theorem dayCount_nthSunday_november :
    dayCount ⟨year, 11, nthSundayOfMonth year 11 1⟩ = sundayFrom (dayCount ⟨year, 11, 1⟩) := by
  have first : nthSundayOfMonth year 11 1 =
      if weekday (daysBeforeYear year + daysBeforeMonth year 3) = 0 then 1
      else 8 - weekday (daysBeforeYear year + daysBeforeMonth year 3) := by
    rw [← weekday_march]
    rfl
  rw [dayCount_november, dayCount_november, first]
  unfold sundayFrom weekday
  split <;> omega

theorem nthSunday_bounds : 8 ≤ nthSundayOfMonth year 3 2 ∧ nthSundayOfMonth year 3 2 ≤ 14 ∧
    1 ≤ nthSundayOfMonth year 11 1 ∧ nthSundayOfMonth year 11 1 ≤ 7 := by
  have first (days : Nat) : 1 ≤ (if days % 7 = 0 then 1 else 8 - days % 7) ∧
      (if days % 7 = 0 then 1 else 8 - days % 7) ≤ 7 := by
    split <;> omega
  exact ⟨Nat.add_le_add_right (first _).1 7, Nat.add_le_add_right (first _).2 7, first _⟩

end

theorem pacificIsDst_iff {date : CivilDate} (valid : date.Valid) :
    pacificIsDst date.year date.month date.day = true ↔
      sundayFrom (dayCount ⟨date.year, 3, 8⟩) ≤ date.dayCount ∧
        date.dayCount < sundayFrom (dayCount ⟨date.year, 11, 1⟩) := by
  obtain ⟨year, month, day⟩ := date
  have bounds := nthSunday_bounds year
  have april : daysBeforeMonth year 4 = daysBeforeMonth year 3 + 31 := rfl
  have november : daysBeforeMonth year 11 = daysBeforeMonth year 3 + 245 := rfl
  have december : daysBeforeMonth year 12 = daysBeforeMonth year 3 + 275 := rfl
  have pos : 1 ≤ day := valid.day_pos
  dsimp only
  rw [← dayCount_nthSunday_march, ← dayCount_nthSunday_november, dayCount_march, dayCount_november]
  unfold pacificIsDst
  split
  · rename_i outside
    simp only [Bool.false_eq_true, false_iff, not_and, Nat.not_lt]
    rcases outside with early | late
    · have before := valid.dayCount_lt_month early
      dsimp only at before
      omega
    · have behind := @daysBeforeMonth_mono year 12 month late
      simp only [dayCount]
      omega
  · split
    · rename_i inside
      have before := valid.dayCount_lt_month inside.2
      have behind := @daysBeforeMonth_mono year 4 month inside.1
      simp only [dayCount, true_iff] at before ⊢
      omega
    · split
      · rename_i is
        subst is
        have within : day ≤ 31 := valid.day_le
        rw [decide_eq_true_iff, dayCount_march]
        omega
      · have is : month = 11 := by omega
        subst is
        rw [decide_eq_true_iff, dayCount_november]
        omega

theorem daylightTime_iff {utcSecs : Nat} (late : 28800 ≤ utcSecs) {year : Nat}
    (guessed : (unixToYmdUtc (utcSecs - 28800)).year = year) :
    DaylightTime utcSecs ↔ springForward year ≤ utcSecs + epochDays * 86400 ∧
      utcSecs + epochDays * 86400 < fallBack year := by
  refine ⟨?_, fun daylight => ⟨year, daylight⟩⟩
  rintro ⟨other, spring, fall⟩
  obtain ⟨valid, count⟩ := unixToYmdUtc_spec (utcSecs - 28800)
  rcases Nat.lt_trichotomy other year with earlier | rfl | later
  · have week : CivilDate.Valid ⟨other, 11, 7⟩ :=
      ⟨by dsimp only; omega, by dsimp only; omega, by dsimp only; omega, (by omega : 7 ≤ 30)⟩
    have before := week.dayCount_lt_year earlier
    have sunday : sundayFrom (dayCount ⟨other, 11, 1⟩) ≤ dayCount ⟨other, 11, 7⟩ := by
      unfold sundayFrom
      rw [dayCount_november, dayCount_november]
      omega
    have inYear : daysBeforeYear year ≤ (unixToYmdUtc (utcSecs - 28800)).dayCount := by
      rw [← guessed]
      unfold dayCount
      omega
    unfold fallBack at fall
    omega
  · exact ⟨spring, fall⟩
  · have before := valid.dayCount_lt_year (guessed.trans_lt later)
    have march : daysBeforeYear other ≤ sundayFrom (dayCount ⟨other, 3, 8⟩) := by
      unfold sundayFrom
      rw [dayCount_march]
      omega
    unfold springForward at spring
    omega

theorem unixToPtSeconds_div_mono : Monotone fun utcSecs => unixToPtSeconds utcSecs / 86400 := by
  intro utcSecs later before
  unfold unixToPtSeconds
  dsimp only
  by_cases same : (utcSecs - 8 * 3600) / 86400 = (later - 8 * 3600) / 86400
  · -- On one day of standard time the offset is the same.
    have date : unixToYmdUtc (utcSecs - 8 * 3600) = unixToYmdUtc (later - 8 * 3600) := by
      unfold unixToYmdUtc
      rw [same]
    rw [date]
    exact Nat.div_le_div_right (Nat.sub_le_sub_right before _)
  · split <;> split <;> omega

/--
From the first full day on, the date of the counters is the civil date in Pacific Time and never
goes back: a day of change counts as its new time, which is the same date.
-/
theorem pacific_date_correct (utcSecs : Nat) (late : 28800 ≤ utcSecs) :
    (currentPtDay utcSecs).Valid ∧
      (DaylightTime utcSecs →
        (currentPtDay utcSecs).dayCount = (utcSecs - 25200) / 86400 + epochDays) ∧
      (¬ DaylightTime utcSecs →
        (currentPtDay utcSecs).dayCount = (utcSecs - 28800) / 86400 + epochDays) ∧
      ∀ later, utcSecs ≤ later → ¬ (currentPtDay later).Before (currentPtDay utcSecs) := by
  unfold currentPtDay
  obtain ⟨valid, count⟩ := unixToYmdUtc_spec (unixToPtSeconds utcSecs)
  obtain ⟨guessed, days⟩ := unixToYmdUtc_spec (utcSecs - 28800)
  have daylight := daylightTime_iff late rfl
  have dst := pacificIsDst_iff guessed
  unfold springForward fallBack at daylight
  have offset : unixToPtSeconds utcSecs = utcSecs -
      if pacificIsDst (unixToYmdUtc (utcSecs - 28800)).year (unixToYmdUtc (utcSecs - 28800)).month
        (unixToYmdUtc (utcSecs - 28800)).day then 25200 else 28800 := rfl
  refine ⟨valid, ?_, ?_, ?_⟩
  · intro now
    rw [daylight] at now
    rw [count, offset]
    split
    · rfl
    · rename_i standard
      rw [dst] at standard
      omega
  · intro standard
    rw [daylight] at standard
    rw [count, offset]
    split
    · rename_i now
      rw [dst] at now
      omega
    · rfl
  · intro later behind before
    obtain ⟨laterValid, laterCount⟩ := unixToYmdUtc_spec (unixToPtSeconds later)
    have order := laterValid.dayCount_lt before
    exact absurd (unixToPtSeconds_div_mono behind) (by dsimp only; omega)

theorem pacific_date_correct_newYear :
    28800 ≤ 1735689600 ∧ currentPtDay 1735689600 = ⟨2024, 12, 31⟩ ∧
      (currentPtDay 1735689600).Valid ∧
      ∀ later, 1735689600 ≤ later → ¬ (currentPtDay later).Before (currentPtDay 1735689600) :=
  have correct := pacific_date_correct 1735689600 (by decide)
  ⟨by decide, by decide +kernel, correct.1, correct.2.2.2⟩

end Gvpn
