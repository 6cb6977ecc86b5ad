import Mathlib.Tactic.IntervalCases
import FileSieve.Time.Date

/-! The calendar and its day numbers. A year is taken to start in March; a day is then the start of its year, the start
of its month and the days before it in the month. Every day has one date in the calendar and every date one day, and
the supported years are a range of days. -/

namespace FileSieve.Date

def yearStart (year : Int) : Int := 365 * year + year / 4 - year / 100 + year / 400

/-- The day of the year on which a month starts, March being month 0. -/
def monthStart (month : Int) : Int := (153 * month + 2) / 5

def epoch : Int := 719468

def yearOfCycle (day : Int) : Int := (day - day / 1460 + day / 36524 - day / 146096) / 365

theorem yearStart_succ (year : Int) :
    yearStart (year + 1) = yearStart year + if isLeap (year + 1) then 366 else 365 := by
  simp only [yearStart, isLeap, Bool.and_eq_true, Bool.or_eq_true, beq_iff_eq, bne_iff_ne]
  split <;> omega

theorem yearStart_cycle (cycles year : Int) : yearStart (400 * cycles + year) = 146097 * cycles + yearStart year := by
  unfold yearStart
  omega

theorem yearStart_mono {first second : Int} (order : first ≤ second) : yearStart first ≤ yearStart second := by
  unfold yearStart
  omega

theorem yearOfCycle_mono {first second : Int} (order : first ≤ second) : yearOfCycle first ≤ yearOfCycle second := by
  have firstCycle : first / 146096 = first / 36524 / 4 := by omega
  have secondCycle : second / 146096 = second / 36524 / 4 := by omega
  unfold yearOfCycle
  omega

theorem yearOfCycle_ends : ∀ year < 400,
    yearOfCycle (yearStart (year : Nat)) = year ∧ yearOfCycle (yearStart ((year : Nat) + 1) - 1) = year := by
  decide +kernel

/-- Since the year grows with the day, all days between them lie in it too. -/
theorem yearOfCycle_eq {year day : Int} (inside : 0 ≤ year ∧ year < 400) (starts : yearStart year ≤ day)
    (ends : day < yearStart (year + 1)) : yearOfCycle day = year := by
  obtain ⟨first, last⟩ := yearOfCycle_ends year.toNat (by omega)
  rw [Int.toNat_of_nonneg inside.1] at first last
  apply Int.le_antisymm
  · exact last ▸ yearOfCycle_mono (by omega)
  · exact first ▸ yearOfCycle_mono starts

theorem exists_year (day : Int) : ∃ year, yearStart year ≤ day ∧ day < yearStart (year + 1) := by
  have first (count : Nat) (rest : Int) (low : 0 ≤ rest) (high : rest < yearStart count) :
      ∃ year, yearStart year ≤ rest ∧ rest < yearStart (year + 1) := by
    induction count with
    | zero => exact absurd high (Int.not_lt.mpr low)
    | succ count ih =>
        by_cases before : rest < yearStart count
        · exact ih before
        · exact ⟨count, by omega, high⟩
  obtain ⟨year, starts, ends⟩ := first 400 (day % 146097) (by omega) (by unfold yearStart; omega)
  refine ⟨400 * (day / 146097) + year, ?_, ?_⟩
  · rw [yearStart_cycle]
    omega
  · rw [Int.add_assoc, yearStart_cycle]
    omega

def marchYear (date : Date) : Int := if date.month ≤ 2 then date.year - 1 else date.year

def marchMonth (date : Date) : Int := if date.month ≤ 2 then date.month + 9 else date.month - 3

def dayOfYear (date : Date) : Int := monthStart date.marchMonth + date.day - 1

def InCalendar (date : Date) : Prop :=
  1 ≤ date.month ∧ date.month ≤ 12 ∧ 1 ≤ date.day ∧ date.day ≤ monthLength date.year date.month

theorem monthLength_le (year : Int) (month : Nat) : monthLength year month ≤ 31 := by
  unfold monthLength
  split <;> split <;> decide

theorem isValid_iff {date : Date} :
    date.isValid = true ↔ minYear ≤ date.year ∧ date.year ≤ maxYear ∧ date.InCalendar := by
  simp only [isValid, InCalendar, Bool.and_eq_true, decide_eq_true_eq, and_assoc]

theorem toDay_eq (date : Date) : toDay date = yearStart date.marchYear + date.dayOfYear - epoch := by
  unfold toDay yearStart dayOfYear monthStart marchYear marchMonth epoch
  dsimp only
  split <;> omega

def ofParts (year month before : Int) : Date :=
  { year := if month < 10 then year else year + 1
    month := (if month < 10 then month + 3 else month - 9).toNat
    day := (before - monthStart month + 1).toNat }

section

variable {year month before : Int} (low : 0 ≤ month) (high : month ≤ 11)

include low high

theorem marchYear_ofParts : (ofParts year month before).marchYear = year := by
  dsimp only [marchYear, ofParts]
  split <;> omega

theorem marchMonth_ofParts : (ofParts year month before).marchMonth = month := by
  dsimp only [marchMonth, ofParts]
  split <;> omega

theorem dayOfYear_ofParts (starts : monthStart month ≤ before) : (ofParts year month before).dayOfYear = before := by
  rw [dayOfYear, marchMonth_ofParts low high]
  dsimp only [ofParts]
  omega

end

theorem ofDay_eq {year before : Int} (starts : 0 ≤ before) (ends : yearStart year + before < yearStart (year + 1)) :
    ofDay (yearStart year + before - epoch) = ofParts year ((5 * before + 2) / 153) before := by
  have cycle : year = 400 * (year / 400) + year % 400 := by omega
  have inside : 0 ≤ year % 400 ∧ year % 400 < 400 := by omega
  have start : yearStart year = 146097 * (year / 400) + yearStart (year % 400) := by rw [← yearStart_cycle, ← cycle]
  have next : yearStart (year + 1) = 146097 * (year / 400) + yearStart (year % 400 + 1) := by
    rw [← yearStart_cycle, ← Int.add_assoc, ← cycle]
  have first := yearStart_mono inside.1
  have last := yearStart_mono (show year % 400 + 1 ≤ 400 by omega)
  have low : yearStart 0 = 0 := rfl
  have high : yearStart 400 = 146097 := rfl
  have shifted : yearStart year + before - epoch + 719468 =
      146097 * (year / 400) + (yearStart (year % 400) + before) := by
    rw [start, epoch]
    omega
  have found : yearOfCycle (yearStart (year % 400) + before) = year % 400 :=
    yearOfCycle_eq inside (by omega) (by omega)
  have quotient : (146097 * (year / 400) + (yearStart (year % 400) + before)) / 146097 = year / 400 := by omega
  have remainder : (146097 * (year / 400) + (yearStart (year % 400) + before)) % 146097 =
      yearStart (year % 400) + before := by omega
  have rest : yearStart (year % 400) + before - (365 * (year % 400) + year % 400 / 4 - year % 400 / 100) = before := by
    unfold yearStart
    omega
  rw [yearOfCycle] at found
  rw [ofDay, shifted]
  simp only [quotient, remainder, found, rest, ← cycle, ofParts, monthStart]

theorem dayOfYear_bounds {date : Date} (real : date.InCalendar) :
    0 ≤ date.dayOfYear ∧ yearStart date.marchYear + date.dayOfYear < yearStart (date.marchYear + 1) ∧
    (5 * date.dayOfYear + 2) / 153 = date.marchMonth := by
  obtain ⟨year, month, day⟩ := date
  obtain ⟨monthLow, monthHigh, dayLow, dayHigh⟩ := real
  rw [yearStart_succ]
  dsimp only [dayOfYear, monthStart, marchMonth, marchYear] at monthLow monthHigh dayLow dayHigh ⊢
  interval_cases month <;> cases leap : isLeap year <;> simp [monthLength, leap] at dayHigh ⊢ <;> omega

theorem ofDay_toDay {date : Date} (real : date.InCalendar) : ofDay (toDay date) = date := by
  obtain ⟨starts, ends, month⟩ := dayOfYear_bounds real
  rw [toDay_eq, ofDay_eq starts ends, month]
  obtain ⟨year, month, day⟩ := date
  obtain ⟨monthLow, monthHigh, dayLow, dayHigh⟩ := real
  dsimp only [ofParts, dayOfYear, marchMonth, marchYear] at monthLow monthHigh ⊢
  rw [mk.injEq]
  split <;> omega

theorem exists_parts (day : Int) : ∃ year month before, ofDay day = ofParts year month before ∧
    day = yearStart year + before - epoch ∧ 0 ≤ month ∧ month ≤ 11 ∧ monthStart month ≤ before ∧
    before < monthStart (month + 1) ∧ yearStart year + before < yearStart (year + 1) := by
  obtain ⟨year, starts, ends⟩ := exists_year (day + epoch)
  have place : day = yearStart year + (day + epoch - yearStart year) - epoch := by omega
  generalize day + epoch - yearStart year = before at place
  have inside : 0 ≤ before ∧ yearStart year + before < yearStart (year + 1) := by omega
  have bound : before < 366 := by
    rw [yearStart_succ] at inside
    split at inside <;> omega
  refine ⟨year, (5 * before + 2) / 153, before, ?_, place, ?_⟩
  · rw [place, ofDay_eq inside.1 inside.2]
  · unfold monthStart
    omega

theorem toDay_ofDay (day : Int) : toDay (ofDay day) = day := by
  obtain ⟨year, month, before, date, place, low, high, starts, -, -⟩ := exists_parts day
  rw [date, toDay_eq, marchYear_ofParts low high, dayOfYear_ofParts low high starts, place]

theorem ofDay_inCalendar (day : Int) : (ofDay day).InCalendar := by
  obtain ⟨year, month, before, date, -, low, high, starts, ends, inside⟩ := exists_parts day
  rw [yearStart_succ] at inside
  rw [date]
  unfold monthStart at starts ends
  interval_cases month <;> cases leap : isLeap (year + 1) <;>
    simp [InCalendar, monthLength, monthStart, ofParts, leap] at inside ⊢ <;> omega

theorem toDay_bounds {date : Date} (real : date.InCalendar) :
    yearStart (date.year - 1) + 306 ≤ toDay date + epoch ∧ toDay date + epoch < yearStart date.year + 306 := by
  have next := yearStart_succ (date.year - 1)
  rw [Int.sub_add_cancel] at next
  obtain ⟨year, month, day⟩ := date
  obtain ⟨monthLow, monthHigh, dayLow, dayHigh⟩ := real
  rw [toDay_eq]
  dsimp only [dayOfYear, monthStart, marchMonth, marchYear] at monthLow monthHigh dayLow dayHigh next ⊢
  interval_cases month <;> cases leap : isLeap year <;> simp [monthLength, leap] at dayHigh next ⊢ <;> omega

theorem ofDay_isValid {day : Int} (low : toDay ⟨minYear, 1, 1⟩ ≤ day) (high : day ≤ toDay ⟨maxYear, 12, 31⟩) :
    (ofDay day).isValid = true := by
  have real := ofDay_inCalendar day
  obtain ⟨starts, ends⟩ := toDay_bounds real
  rw [toDay_ofDay] at starts ends
  have first : toDay ⟨minYear, 1, 1⟩ + epoch = yearStart (minYear - 1) + 306 := rfl
  have last : toDay ⟨maxYear, 12, 31⟩ + epoch = yearStart maxYear + 305 := rfl
  have notBefore : minYear ≤ (ofDay day).year := by
    by_contra before
    have := yearStart_mono (show (ofDay day).year ≤ minYear - 1 by omega)
    omega
  have notBehind : (ofDay day).year ≤ maxYear := by
    by_contra behind
    have := yearStart_mono (show maxYear ≤ (ofDay day).year - 1 by omega)
    omega
  exact isValid_iff.mpr ⟨notBefore, notBehind, real⟩

end FileSieve.Date
