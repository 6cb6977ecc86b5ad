import FileSieve.Proofs.Time.Calendar
import FileSieve.Time.Instant

namespace FileSieve.Instant

/-- The instant lies in a supported year. -/
def Supported (instant : Instant) : Prop :=
  Date.minYear ≤ instant.date.year ∧ instant.date.year ≤ Date.maxYear

instance (instant : Instant) : Decidable instant.Supported :=
  inferInstanceAs (Decidable (Date.minYear ≤ instant.date.year ∧ instant.date.year ≤ Date.maxYear))

/-- The supported instants are those of a range of seconds. -/
theorem supported_iff (instant : Instant) :
    instant.Supported ↔ minSeconds ≤ instant.seconds ∧ instant.seconds ≤ maxSeconds := by
  have first : Date.toDay ⟨Date.minYear, 1, 1⟩ + Date.epoch = Date.yearStart (Date.minYear - 1) + 306 := rfl
  have last : Date.toDay ⟨Date.maxYear, 12, 31⟩ + Date.epoch = Date.yearStart Date.maxYear + 305 := rfl
  constructor
  · rintro ⟨notBefore, notBehind⟩
    obtain ⟨starts, ends⟩ := Date.toDay_bounds (Date.ofDay_inCalendar (instant.seconds / 86400))
    rw [Date.toDay_ofDay] at starts ends
    have low := Date.yearStart_mono (Int.sub_le_sub_right notBefore 1)
    have high := Date.yearStart_mono notBehind
    rw [date] at low high
    unfold minSeconds maxSeconds
    omega
  · rintro ⟨low, high⟩
    rw [minSeconds] at low
    rw [maxSeconds] at high
    have starts : Date.toDay ⟨Date.minYear, 1, 1⟩ ≤ instant.seconds / 86400 := by omega
    have ends : instant.seconds / 86400 ≤ Date.toDay ⟨Date.maxYear, 12, 31⟩ := by omega
    obtain ⟨notBefore, notBehind, -⟩ := Date.isValid_iff.mp (Date.ofDay_isValid starts ends)
    exact ⟨notBefore, notBehind⟩

theorem isValid_date {instant : Instant} (supported : instant.Supported) : instant.date.isValid = true :=
  Date.isValid_iff.mpr ⟨supported.1, supported.2, Date.ofDay_inCalendar _⟩

theorem ofSeconds_eq (seconds : Int) : ∃ hour minute second, hour ≤ 23 ∧ minute ≤ 59 ∧ second ≤ 59 ∧
    ofSeconds seconds = ofDate (ofSeconds seconds).date hour minute second := by
  refine ⟨(seconds % 86400 / 3600).toNat, (seconds % 3600 / 60).toNat, (seconds % 60).toNat, ?_, ?_, ?_, ?_⟩
  · omega
  · omega
  · omega
  · rw [ofDate, if_neg (by omega), date, Date.toDay_ofDay, ofSeconds, mk.injEq]
    dsimp only
    omega

section

variable {calendar : Date} {hour minute second : Nat}
variable (hours : hour ≤ 23) (minutes : minute ≤ 59) (seconds : second ≤ 60)

include hours minutes seconds

theorem date_ofDate (real : calendar.InCalendar) : (ofDate calendar hour minute second).date = calendar := by
  have day : (ofDate calendar hour minute second).seconds / 86400 = calendar.toDay := by
    unfold ofDate
    split <;> dsimp only <;> omega
  rw [date, day, Date.ofDay_toDay real]

theorem timeText_ofDate : (ofDate calendar hour minute second).timeText =
    Number.padded 2 hour ++ ':' :: Number.padded 2 minute ++ ':' :: Number.padded 2 second := by
  have place : ((ofDate calendar hour minute second).seconds % 86400).toNat =
      hour * 3600 + minute * 60 + min second 59 := by
    unfold ofDate
    split <;> dsimp only <;> omega
  have leap : (ofDate calendar hour minute second).nanos / 1000000000 = second - 59 := by
    unfold ofDate
    split <;> dsimp only <;> omega
  have inHour : (hour * 3600 + minute * 60 + min second 59) / 3600 = hour := by omega
  have inMinute : (hour * 3600 + minute * 60 + min second 59) / 60 % 60 = minute := by omega
  have inSecond : (hour * 3600 + minute * 60 + min second 59) % 60 + (second - 59) = second := by omega
  simp only [timeText, place, leap, inHour, inMinute, inSecond]

end

end FileSieve.Instant
