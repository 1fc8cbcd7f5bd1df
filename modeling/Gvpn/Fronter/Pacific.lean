import Gvpn.Data.Calendar

/-! The date in Pacific Time, by which the daily counters are kept. -/

namespace Gvpn

def unixToYmdUtc (secs : Nat) : CivilDate :=
  let days := secs / 86400
  let z := days + 719468
  let era := z / 146097
  let doe := z - era * 146097
  let yoe := (doe - doe / 1460 + doe / 36524 - doe / 146096) / 365
  let y := yoe + era * 400
  let doy := doe - (365 * yoe + yoe / 4 - yoe / 100)
  let mp := (5 * doy + 2) / 153
  let d := doy - (153 * mp + 2) / 5 + 1
  let m := if mp < 10 then mp + 3 else mp - 9
  ⟨if m ≤ 2 then y + 1 else y, m, d⟩

def monthTable : List Nat := [0, 3, 2, 5, 0, 3, 5, 1, 4, 6, 2, 4]

def nthSundayOfMonth (year month nth : Nat) : Nat :=
  let y := if month < 3 then year - 1 else year
  let dowOf1st := (y + y / 4 - y / 100 + y / 400 + monthTable.getD (month - 1) 0 + 1) % 7
  let firstSunday := if dowOf1st = 0 then 1 else 8 - dowOf1st
  firstSunday + (nth - 1) * 7

def pacificIsDst (year month day : Nat) : Bool :=
  if month < 3 ∨ 11 < month then false
  else if 3 < month ∧ month < 11 then true
  else if month = 3 then nthSundayOfMonth year 3 2 ≤ day
  else day < nthSundayOfMonth year 11 1

def unixToPtSeconds (utcSecs : Nat) : Nat :=
  let guess := unixToYmdUtc (utcSecs - 8 * 3600)
  let offsetSecs := if pacificIsDst guess.year guess.month guess.day then 7 * 3600 else 8 * 3600
  utcSecs - offsetSecs

def currentPtDay (utcSecs : Nat) : CivilDate := unixToYmdUtc (unixToPtSeconds utcSecs)

end Gvpn
