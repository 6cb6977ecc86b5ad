import FileSieve.Criteria.Leaf
import FileSieve.Proofs.Text.Ascii
import FileSieve.Proofs.Text.Number
import FileSieve.Proofs.Time.Instant
import FileSieve.Time.Literal

namespace FileSieve

namespace DateLiteral

/-- The digits of a number do not go on. -/
def Stops (rest : List Char) : Prop := ∀ c ∈ rest.head?, c.isDigit = false

theorem stops_nil : Stops [] := nofun

theorem stops_cons {c : Char} (mark : c.isDigit = false) (rest : List Char) : Stops (c :: rest) := by
  rintro _ ⟨⟩
  exact mark

theorem digits?_append {run rest : List Char} (inhabited : run ≠ []) (digits : ∀ c ∈ run, c.isDigit = true)
    (stops : Stops rest) {width : Option Nat} (fits : ∀ most ∈ width, run.length ≤ most) :
    digits? width (run ++ rest) = some (Number.ofDigits run, rest) := by
  have none : rest.takeWhile Char.isDigit = [] := by
    cases rest with
    | nil => rfl
    | cons c rest => rw [List.takeWhile_cons, stops c rfl, if_neg Bool.false_ne_true]
  have taken : (run ++ rest).takeWhile Char.isDigit = run := by
    rw [List.takeWhile_append_of_pos digits, none, List.append_nil]
  rw [digits?.eq_def, taken]
  cases width with
  | none => simp [inhabited]
  | some most => simp [inhabited, List.take_of_length_le (fits most rfl)]

theorem expect?_cons (c : Char) (rest : List Char) : expect? c (c :: rest) = some rest := if_pos rfl

theorem isBlank_of_isDigit {c : Char} (digit : c.isDigit = true) : isBlank c = false := by
  revert digit
  by_cases ascii : c.toNat < 0x80
  · apply Ascii.of_codes c ascii
    decide
  · exact fun digit => absurd (Ascii.of_isDigit c digit) ascii

theorem dropBlanks_padded (width n : Nat) (rest : List Char) :
    dropBlanks (Number.padded width n ++ rest) = Number.padded width n ++ rest := by
  obtain ⟨first, others, split, digit⟩ := Number.exists_padded width n
  rw [split, List.cons_append, dropBlanks, List.dropWhile_cons, isBlank_of_isDigit digit, if_neg Bool.false_ne_true]

section

variable {rest : List Char} (stops : Stops rest)

include stops

theorem digits?_padded {bound : Option Nat} {width n : Nat}
    (fits : ∀ most ∈ bound, (Number.padded width n).length ≤ most) :
    digits? bound (Number.padded width n ++ rest) = some (n, rest) := by
  rw [digits?_append (Number.padded_ne_nil width n) (Number.digits_padded width n) stops fits, Number.ofDigits_padded]

theorem number?_padded {n : Nat} (small : n < 100) : number? (Number.padded 2 n ++ rest) = some (n, rest) := by
  rw [number?, dropBlanks_padded]
  apply digits?_padded stops
  rintro most ⟨⟩
  exact (Number.length_padded (by decide) small).le

theorem year?_yearText (year : Int) : year? (Instant.yearText year ++ rest) = some (year, rest) := by
  have unbounded (n : Nat) : digits? none (Number.padded 4 n ++ rest) = some (n, rest) := digits?_padded stops nofun
  rw [Instant.yearText]
  -- A year without a sign has four digits; any other shows its sign and is as long as it is.
  split
  case isTrue plain =>
    have whole := dropBlanks_padded 4 year.toNat rest
    have short : digits? (some 4) (Number.padded 4 year.toNat ++ rest) = some (year.toNat, rest) := by
      apply digits?_padded stops
      rintro most ⟨⟩
      exact (Number.length_padded (by decide) (by omega)).le
    obtain ⟨first, others, split, digit⟩ := Number.exists_padded 4 year.toNat
    rw [split, List.cons_append] at whole short ⊢
    rw [year?, whole]
    split
    case h_1 _ _ minus => exact absurd digit ((List.cons.inj minus).1 ▸ by decide)
    case h_2 _ _ plus => exact absurd digit ((List.cons.inj plus).1 ▸ by decide)
    case h_3 =>
      rw [short]
      show some ((year.toNat : Int), rest) = _
      rw [Int.toNat_of_nonneg plain.1]
  case isFalse signed =>
    split
    case isTrue negative =>
      show (digits? none (Number.padded 4 year.natAbs ++ rest)).map _ = _
      rw [unbounded]
      show some (-(year.natAbs : Int), rest) = _
      rw [Int.ofNat_natAbs_of_nonpos negative.le, Int.neg_neg]
    case isFalse positive =>
      show (digits? none (Number.padded 4 year.natAbs ++ rest)).map _ = _
      rw [unbounded]
      show some ((year.natAbs : Int), rest) = _
      rw [Int.natAbs_of_nonneg (Int.not_lt.mp positive)]

theorem date?_dateText {instant : Instant} (valid : instant.date.isValid = true) :
    date? (instant.dateText ++ rest) = some (instant.date, rest) := by
  obtain ⟨-, -, -, months, -, days⟩ := Date.isValid_iff.mp valid
  have longest := Date.monthLength_le instant.date.year instant.date.month
  have day : number? (Number.padded 2 instant.date.day ++ rest) = some (instant.date.day, rest) :=
    number?_padded stops (by omega)
  have month (behind : List Char) : number? (Number.padded 2 instant.date.month ++ '-' :: behind) =
      some (instant.date.month, '-' :: behind) := number?_padded (stops_cons rfl behind) (by omega)
  have text : instant.dateText ++ rest = Instant.yearText instant.date.year ++ '-' ::
      (Number.padded 2 instant.date.month ++ '-' :: (Number.padded 2 instant.date.day ++ rest)) := by
    simp [Instant.dateText]
  rw [date?, text, year?_yearText (stops_cons rfl _)]
  simp [expect?_cons, month, day, valid]

end

/-- Instants that a supported date and a time of day name. -/
inductive Named : Instant → Prop
  | of {date : Date} {hour minute second : Nat} (valid : date.isValid = true) (hours : hour ≤ 23) (minutes : minute ≤ 59)
      (seconds : second ≤ 60) : Named (Instant.ofDate date hour minute second)

theorem named_ofSeconds {seconds : Int} (supported : (Instant.ofSeconds seconds).Supported) :
    Named (Instant.ofSeconds seconds) := by
  obtain ⟨hour, minute, second, hours, minutes, inMinute, whole⟩ := Instant.ofSeconds_eq seconds
  rw [whole]
  exact .of (Instant.isValid_date supported) hours minutes (by omega)

theorem isValid_of_date? {text rest : List Char} {date : Date} (read : date? text = some (date, rest)) :
    date.isValid = true := by
  simp only [date?, Option.bind_eq_bind, Option.bind_eq_some_iff] at read
  obtain ⟨year, -, -, -, month, -, -, -, day, -, made⟩ := read
  split at made
  case isTrue valid =>
    cases made
    exact valid
  case isFalse => cases made

theorem named_of_dateTime? {withSeconds : Bool} {text : List Char} {found : Instant}
    (read : dateTime? withSeconds text = some found) : Named found := by
  cases withSeconds
  all_goals
    simp only [dateTime?, Option.bind_eq_bind, Option.bind_eq_some_iff, if_true, Bool.false_eq_true, if_false] at read
    obtain ⟨date, dateRead, -, -, hour, -, -, -, minute, -, second, -, made⟩ := read
    split at made
    case isTrue parts =>
      cases made
      exact .of (isValid_of_date? dateRead) parts.2.1 parts.2.2.1 parts.2.2.2
    case isFalse => cases made

theorem named_of_absolute? {text : List Char} {found : Instant} (read : absolute? text = some found) : Named found := by
  rw [absolute?] at read
  split at read
  · rcases Option.or_eq_some_iff.mp read with withSeconds | ⟨-, withoutSeconds⟩
    · exact named_of_dateTime? withSeconds
    · exact named_of_dateTime? withoutSeconds
  · simp only [Option.bind_eq_bind, Option.bind_eq_some_iff] at read
    obtain ⟨date, dateRead, made⟩ := read
    split at made
    · cases made
      exact .of (isValid_of_date? dateRead) (by decide) (by decide) (by decide)
    · cases made

/-- The text does not end in the letter of a unit. -/
def IsAbsolute (text : List Char) : Prop := ∀ c ∈ text.getLast?, c ∉ ['d', 'D', 'h', 'H']

theorem parse?_eq_absolute? {text : List Char} (absolute : IsAbsolute text) (now : Instant) :
    parse? text now = absolute? text := by
  have other {c unit : Char} (last : c ∈ text.getLast?)
      (letters : unit ∈ ['d', 'D', 'h', 'H'] ∧ unit.toUpper ∈ ['d', 'D', 'h', 'H']) : c.toLower ≠ unit := by
    rintro rfl
    rcases Ascii.eq_toLower_or c with small | capital
    · exact absolute c last (small ▸ letters.1)
    · exact absolute c last (capital ▸ letters.2)
  rw [parse?]
  split
  case h_1 eq =>
    obtain ⟨c, last, lowered⟩ := Option.map_eq_some_iff.mp eq
    exact absurd lowered (other last (by decide))
  case h_2 eq =>
    obtain ⟨c, last, lowered⟩ := Option.map_eq_some_iff.mp eq
    exact absurd lowered (other last (by decide))
  case h_3 => rfl

section

variable {date : Date} {hour minute second : Nat}
variable (hours : hour ≤ 23) (minutes : minute ≤ 59) (seconds : second ≤ 60)

include hours minutes seconds

theorem dateTime?_text (valid : date.isValid = true) :
    dateTime? true ((Instant.ofDate date hour minute second).text 'T') =
      some (Instant.ofDate date hour minute second) := by
  obtain ⟨-, -, real⟩ := Date.isValid_iff.mp valid
  have same := Instant.date_ofDate hours minutes seconds real
  have dateRead (rest : List Char) : date? ((Instant.ofDate date hour minute second).dateText ++ 'T' :: rest) =
      some (date, 'T' :: rest) := by
    have read := date?_dateText (stops_cons (c := 'T') rfl rest) (same.symm ▸ valid)
    rwa [same] at read
  have hourRead (rest : List Char) : number? (Number.padded 2 hour ++ ':' :: rest) = some (hour, ':' :: rest) :=
    number?_padded (stops_cons rfl rest) (by omega)
  have minuteRead (rest : List Char) : number? (Number.padded 2 minute ++ ':' :: rest) = some (minute, ':' :: rest) :=
    number?_padded (stops_cons rfl rest) (by omega)
  have secondRead : number? (Number.padded 2 second) = some (second, []) := by
    have read := number?_padded stops_nil (show second < 100 by omega)
    rwa [List.append_nil] at read
  rw [dateTime?, Instant.text, dateRead, Instant.timeText_ofDate hours minutes seconds]
  simp [expect?_cons, hourRead, minuteRead, secondRead, seconds?, hours, minutes, seconds]

theorem isDigit_of_getLast?_text {c : Char}
    (last : c ∈ ((Instant.ofDate date hour minute second).text 'T').getLast?) : c.isDigit = true := by
  have ending : (Instant.ofDate date hour minute second).text 'T' =
      ((Instant.ofDate date hour minute second).dateText ++ 'T' :: Number.padded 2 hour ++ ':' ::
        Number.padded 2 minute ++ [':']) ++ Number.padded 2 second := by
    simp [Instant.text, Instant.timeText_ofDate hours minutes seconds]
  rw [ending, List.getLast?_append, List.getLast?_eq_some_getLast (Number.padded_ne_nil 2 second),
    Option.some_or] at last
  cases last
  exact Number.digits_padded 2 second _ (List.getLast_mem _)

end

theorem parse?_text {instant : Instant} (named : Named instant) (now : Instant) :
    parse? (instant.text 'T') now = some instant := by
  obtain ⟨valid, hours, minutes, seconds⟩ := named
  rename_i date hour minute second
  have whole := dateTime?_text hours minutes seconds valid
  have marked : ((Instant.ofDate date hour minute second).text 'T').contains 'T' = true := by simp [Instant.text]
  rw [parse?_eq_absolute?, absolute?, if_pos marked, whole, Option.some_or]
  intro c last letter
  have digit := isDigit_of_getLast?_text hours minutes seconds last
  simp only [List.mem_cons, List.not_mem_nil, or_false] at letter
  rcases letter with rfl | rfl | rfl | rfl <;> cases digit

/-- A date test shows its time so that the text in front of the final `Z` is read as that time. -/
def ShownReads (reference now : Instant) : Prop :=
  ∀ (field : DateField) (comparison : DateComparison), ∃ shown : List Char,
    (Leaf.date field comparison reference).describe =
      (field.label ++ comparison.label).toList ++ '(' :: shown ++ ['Z', ')'] ∧
    parse? shown now = some reference

theorem shownReads {instant : Instant} (named : Named instant) (now : Instant) : ShownReads instant now := by
  intro field comparison
  refine ⟨instant.text 'T', ?_, parse?_text named now⟩
  simp [Leaf.describe, Leaf.parenthesized]

/-- Whole seconds of the supported years are read back from the text that is shown for them, and so is whatever an
absolute date is read as. -/
theorem text_read_back (now later : Instant) :
    (∀ seconds, (Instant.ofSeconds seconds).Supported → ShownReads (Instant.ofSeconds seconds) later) ∧
    (∀ text found, IsAbsolute text → parse? text now = some found → ShownReads found later) := by
  constructor
  · intro seconds supported
    exact shownReads (named_ofSeconds supported) later
  · intro text found absolute read
    rw [parse?_eq_absolute? absolute] at read
    exact shownReads (named_of_absolute? read) later

theorem text_read_back_ends :
    (Instant.ofSeconds Instant.minSeconds).Supported ∧
    IsAbsolute "+02016-12- 31T23:59:60".toList ∧
    parse? "+02016-12- 31T23:59:60".toList ⟨0, 0⟩ = some ⟨1483228799, 1000000000⟩ ∧
    (Leaf.date .modified .before (Instant.ofSeconds Instant.minSeconds)).describe =
      "ModifiedBefore(-262143-01-01T00:00:00Z)".toList ∧
    ShownReads (Instant.ofSeconds Instant.minSeconds) ⟨1700000000, 0⟩ ∧
    ShownReads ⟨1483228799, 1000000000⟩ ⟨1700000000, 0⟩ := by
  have supported : (Instant.ofSeconds Instant.minSeconds).Supported := by decide +kernel
  have absolute : IsAbsolute "+02016-12- 31T23:59:60".toList := by
    rintro _ ⟨⟩
    decide
  have read : parse? "+02016-12- 31T23:59:60".toList ⟨0, 0⟩ = some ⟨1483228799, 1000000000⟩ := by decide +kernel
  obtain ⟨whole, literal⟩ := text_read_back ⟨0, 0⟩ ⟨1700000000, 0⟩
  exact ⟨supported, absolute, read, by decide +kernel, whole _ supported, literal _ _ absolute read⟩

end DateLiteral
end FileSieve
