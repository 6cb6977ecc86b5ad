import FileSieve.Proofs.Text.Number
import FileSieve.Proofs.Time.Instant
import FileSieve.Query.Modifier

/-! Relative dates. The number may be too large for 64 bits, the span of time too long and the result out of the
supported years, but for a supported reference time only the last of these decides. -/

namespace FileSieve

namespace Instant

section

variable {now : Instant} (plain : now.nanos < 1000000000)

include plain

theorem add_of_plain (seconds : Int) : now.add seconds = ⟨now.seconds + seconds, now.nanos⟩ := by
  have notLeap : now.isLeap = false := decide_eq_false (Nat.not_le.mpr plain)
  rw [add, notLeap, if_pos (.inr rfl)]

theorem earlier?_of_plain (seconds : Int) : now.earlier? seconds =
    if Supported ⟨now.seconds - seconds, now.nanos⟩ then some ⟨now.seconds - seconds, now.nanos⟩ else none := by
  simp only [earlier?, add_of_plain plain, supported_iff, Bool.and_eq_true, decide_eq_true_eq, ← Int.sub_eq_add_neg]

end

theorem span_bounds {now : Instant} {seconds : Int} (supported : now.Supported)
    (moved : Supported ⟨now.seconds - seconds, now.nanos⟩) : -16544868105599 ≤ seconds ∧ seconds ≤ 16544868105599 := by
  obtain ⟨low, high⟩ := now.supported_iff.mp supported
  obtain ⟨movedLow, movedHigh⟩ := (supported_iff _).mp moved
  have first : minSeconds = -8334601228800 := rfl
  have last : maxSeconds = 8210266876799 := rfl
  dsimp only at movedLow movedHigh
  omega

/-- For a supported instant a span that is too long leads out of the supported years too. -/
theorem span?_bind_earlier? {now : Instant} (supported : now.Supported) (plain : now.nanos < 1000000000)
    (count unit : Int) : (span? count unit).bind now.earlier? =
      if Supported ⟨now.seconds - count * unit, now.nanos⟩ then some ⟨now.seconds - count * unit, now.nanos⟩
      else none := by
  simp only [span?, Bool.and_eq_true, decide_eq_true_eq]
  split
  case isTrue => rw [Option.bind_some, earlier?_of_plain plain]
  case isFalse long =>
    rw [Option.bind_none, if_neg]
    intro moved
    obtain ⟨low, high⟩ := span_bounds supported moved
    unfold maxSpan at long
    omega

end Instant

namespace DateLiteral

/-- The number that decimal digits spell. -/
def decimal (digits : List Char) : Nat := Nat.ofDigits 10 (digits.map Number.digitValue).reverse

/-- A decimal number behind an optional sign. -/
inductive Count : List Char → Int → Prop
  | unsigned {digits : List Char} (inhabited : digits ≠ []) (all : digits.all Char.isDigit = true) :
      Count digits (decimal digits)
  | plus {digits : List Char} (inhabited : digits ≠ []) (all : digits.all Char.isDigit = true) :
      Count ('+' :: digits) (decimal digits)
  | minus {digits : List Char} (inhabited : digits ≠ []) (all : digits.all Char.isDigit = true) :
      Count ('-' :: digits) (-(decimal digits : Int))

inductive Unit : Char → Int → Prop
  | day {letter : Char} (spelled : letter = 'd' ∨ letter = 'D') : Unit letter 86400
  | hour {letter : Char} (spelled : letter = 'h' ∨ letter = 'H') : Unit letter 3600

/-- The number fits in 64 bits with its sign. -/
def Fits (count : Int) : Prop := -0x8000000000000000 ≤ count ∧ count < 0x8000000000000000

instance (count : Int) : Decidable (Fits count) :=
  inferInstanceAs (Decidable (-0x8000000000000000 ≤ count ∧ count < 0x8000000000000000))

theorem signed64?_of_count {amount : List Char} {count : Int} (spelled : Count amount count) :
    Number.signed64? amount = if Fits count then some count else none := by
  have read {digits : List Char} (inhabited : digits ≠ []) (all : digits.all Char.isDigit = true) :
      Number.natural? digits = some (decimal digits) := by
    rw [decimal, ← Number.ofDigits_eq]
    exact if_pos ⟨inhabited, all⟩
  have bounded (value : Int) : (some value).filter (fun n => -0x8000000000000000 ≤ n && n < 0x8000000000000000) =
      if Fits value then some value else none := by
    rw [Option.filter_some]
    exact if_congr (by rw [Bool.and_eq_true, decide_eq_true_eq, decide_eq_true_eq, Fits]) rfl rfl
  cases spelled with
  | plus inhabited all | minus inhabited all =>
      rw [Number.signed64?, read inhabited all, ← bounded]
      simp
  | unsigned inhabited all =>
      obtain ⟨first, others, rfl⟩ := List.exists_cons_of_ne_nil inhabited
      have digit : first.isDigit = true := List.all_eq_true.mp all first List.mem_cons_self
      rw [Number.signed64?, read inhabited all, ← bounded]
      · simp
      all_goals
        rintro rest ⟨⟩
        cases digit

theorem parse?_unit {letter : Char} {unit : Int} (spelled : Unit letter unit) (amount : List Char) (now : Instant) :
    parse? (amount ++ [letter]) now = relative? amount unit now := by
  cases spelled with
  | day letters | hour letters =>
      rcases letters with rfl | rfl
      all_goals
        rw [parse?, List.getLast?_concat, List.dropLast_concat]
        rfl

/-- Either sign asks for the test of the instant that the literal is read as. -/
def Accepted (literal : List Char) (now found : Instant) : Prop :=
  parse? literal now = some found ∧ ∀ field,
    Modifier.dateTest field ('+' :: literal) now = .ok (.date field .after found) ∧
    Modifier.dateTest field ('-' :: literal) now = .ok (.date field .before found)

/-- The error names the literal without the sign in front of it. -/
def Refused (literal : List Char) (now : Instant) : Prop :=
  parse? literal now = none ∧ ∀ field,
    Modifier.dateTest field ('+' :: literal) now = .error (.invalidDate (String.ofList literal)) ∧
    Modifier.dateTest field ('-' :: literal) now = .error (.invalidDate (String.ofList literal))

theorem accepted {literal : List Char} {now found : Instant} (read : parse? literal now = some found) :
    Accepted literal now found := by
  refine ⟨read, fun field => ?_⟩
  simp only [Modifier.dateTest, read, and_self]

theorem refused {literal : List Char} {now : Instant} (read : parse? literal now = none) : Refused literal now := by
  refine ⟨read, fun field => ?_⟩
  simp only [Modifier.dateTest, read, and_self]

section

variable {now : Instant} (supported : now.Supported)

include supported

theorem fits_of_supported {count unit : Int} {letter : Char} (letters : Unit letter unit)
    (moved : Instant.Supported ⟨now.seconds - count * unit, now.nanos⟩) : Fits count := by
  obtain ⟨low, high⟩ := Instant.span_bounds supported moved
  unfold Fits
  cases letters with
  | day | hour => omega

variable (plain : now.nanos < 1000000000)

include plain

/-- A number that leads to a supported instant fits, so the supported years decide alone. -/
theorem parse?_relative {amount : List Char} {count unit : Int} {letter : Char} (spelled : Count amount count)
    (letters : Unit letter unit) : parse? (amount ++ [letter]) now =
      if Instant.Supported ⟨now.seconds - count * unit, now.nanos⟩ then some ⟨now.seconds - count * unit, now.nanos⟩
      else none := by
  rw [parse?_unit letters, relative?, signed64?_of_count spelled]
  split
  case isTrue => exact Instant.span?_bind_earlier? supported plain count unit
  case isFalse large =>
    rw [if_neg]
    · rfl
    · intro moved
      exact large (fits_of_supported supported letters moved)

/-- A number of days or hours is counted back from the reference time exactly, if it fits and leads to a supported
instant, and refused otherwise. A number of days is the same as 24 times as many hours. -/
theorem relative_exact :
    (∀ amount count letter unit, Count amount count → Unit letter unit →
      let before : Instant := ⟨now.seconds - count * unit, now.nanos⟩
      (Fits count ∧ before.Supported → Accepted (amount ++ [letter]) now before) ∧
      (¬ (Fits count ∧ before.Supported) → Refused (amount ++ [letter]) now)) ∧
    (∀ days hours count dayLetter hourLetter, Count days count → Count hours (24 * count) →
      Unit dayLetter 86400 → Unit hourLetter 3600 →
      (∃ found, Accepted (days ++ [dayLetter]) now found ∧ Accepted (hours ++ [hourLetter]) now found) ∨
      (Refused (days ++ [dayLetter]) now ∧ Refused (hours ++ [hourLetter]) now)) := by
  constructor
  · intro amount count letter unit spelled letters before
    have read := parse?_relative supported plain spelled letters
    constructor
    · rintro ⟨-, moved⟩
      rw [if_pos moved] at read
      exact accepted read
    · intro outside
      rw [if_neg fun moved => outside ⟨fits_of_supported supported letters moved, moved⟩] at read
      exact refused read
  · intro days hours count dayLetter hourLetter inDays inHours day hour
    have same : 24 * count * 3600 = count * 86400 := by omega
    have daysRead := parse?_relative supported plain inDays day
    have hoursRead := parse?_relative supported plain inHours hour
    rw [same] at hoursRead
    split at daysRead
    case isTrue moved =>
      rw [if_pos moved] at hoursRead
      exact .inl ⟨_, accepted daysRead, accepted hoursRead⟩
    case isFalse outside =>
      rw [if_neg outside] at hoursRead
      exact .inr ⟨refused daysRead, refused hoursRead⟩

end

theorem relative_exact_march :
    (Instant.Supported ⟨1709294400, 500⟩ ∧ 500 < 1000000000) ∧
    Accepted "-07D".toList ⟨1709294400, 500⟩ ⟨1709899200, 500⟩ ∧
    Refused "9223372036854775808h".toList ⟨1709294400, 500⟩ ∧
    ∃ found, Accepted "7d".toList ⟨1709294400, 500⟩ found ∧ Accepted "+168H".toList ⟨1709294400, 500⟩ found := by
  have supported : Instant.Supported ⟨1709294400, 500⟩ := by decide
  obtain ⟨counted, same⟩ := relative_exact supported (by decide)
  have ahead : Count ['-', '0', '7'] (-7) := @Count.minus ['0', '7'] (by decide) (by decide)
  have large : Count "9223372036854775808".toList 9223372036854775808 :=
    @Count.unsigned "9223372036854775808".toList (by decide) (by decide)
  have days : Count ['7'] 7 := @Count.unsigned ['7'] (by decide) (by decide)
  have hours : Count ['+', '1', '6', '8'] (24 * 7) := @Count.plus ['1', '6', '8'] (by decide) (by decide)
  refine ⟨⟨supported, by decide⟩, ?_, ?_, ?_⟩
  · exact (counted _ _ 'D' _ ahead (.day (.inr rfl))).1 (by decide)
  · exact (counted _ _ 'h' _ large (.hour (.inl rfl))).2 (by decide)
  · rcases same _ _ _ 'd' 'H' days hours (.day (.inl rfl)) (.hour (.inr rfl)) with both | neither
    · exact both
    · exact absurd neither.1.1 (by decide)

end DateLiteral
end FileSieve
