import FileSieve.Proofs.Text.Ascii
import FileSieve.Proofs.Text.Number
import FileSieve.Query.Modifier

namespace FileSieve

namespace SizeLiteral

inductive Sign : List Char → SizeComparison → Prop
  | greater : Sign ['+'] .greater
  | less : Sign ['-'] .less
  | equal : Sign ['='] .equal
  | absent : Sign [] .equal

inductive Unit : List Char → Nat → Prop
  | absent : Unit [] 0
  | kilo (letter : Char) (spelled : letter = 'K' ∨ letter = 'k') : Unit [letter] 1
  | mega (letter : Char) (spelled : letter = 'M' ∨ letter = 'm') : Unit [letter] 2
  | giga (letter : Char) (spelled : letter = 'G' ∨ letter = 'g') : Unit [letter] 3
  | tera (letter : Char) (spelled : letter = 'T' ∨ letter = 't') : Unit [letter] 4

inductive Denotes : List Char → SizeComparison → Nat → Prop
  | literal {sign digits unit : List Char} {comparison : SizeComparison} {exponent : Nat}
      (signed : Sign sign comparison) (inhabited : digits ≠ []) (decimal : digits.all Char.isDigit = true)
      (scaled : Unit unit exponent) :
      Denotes (sign ++ digits ++ unit) comparison
        (Nat.ofDigits 10 (digits.map Number.digitValue).reverse * 1024 ^ exponent)

/-- What follows the sign begins with a digit, so an absent sign is not taken for another one. -/
theorem comparison_append {sign others : List Char} {found : SizeComparison} {first : Char}
    (signed : Sign sign found) (digit : first.isDigit = true) :
    comparison (sign ++ first :: others) = (found, first :: others) := by
  cases signed with
  | greater | less | equal => rfl
  | absent =>
      rw [List.nil_append, comparison]
      all_goals
        rintro rest ⟨⟩
        cases digit

theorem exists_sign (text : List Char) :
    ∃ sign, text = sign ++ (comparison text).2 ∧ Sign sign (comparison text).1 := by
  rw [comparison.eq_def]
  split
  · exact ⟨_, rfl, .greater⟩
  · exact ⟨_, rfl, .less⟩
  · exact ⟨_, rfl, .equal⟩
  · exact ⟨[], rfl, .absent⟩

theorem unit?_of_unit {unit : List Char} {exponent : Nat} (scaled : Unit unit exponent) :
    unit? unit = some (1024 ^ exponent) := by
  cases scaled with
  | absent => rfl
  | kilo letter spelled | mega letter spelled | giga letter spelled | tera letter spelled =>
      rcases spelled with rfl | rfl <;> rfl

theorem unit_of_unit? {unit : List Char} {factor : Nat} (read : unit? unit = some factor) :
    ∃ exponent, Unit unit exponent ∧ factor = 1024 ^ exponent := by
  have single {capital : Char} (raised : unit.map Char.toUpper = [capital]) :
      ∃ letter, unit = [letter] ∧ (letter = capital ∨ letter = capital.toLower) := by
    obtain ⟨letter, rfl, rfl⟩ := List.map_eq_singleton_iff.mp raised
    exact ⟨letter, rfl, Ascii.eq_toUpper_or letter⟩
  rw [unit?] at read
  split at read
  case h_1 raised =>
    cases read
    rw [List.map_eq_nil_iff.mp raised]
    exact ⟨0, .absent, rfl⟩
  case h_2 raised =>
    cases read
    obtain ⟨letter, rfl, spelled⟩ := single raised
    exact ⟨1, .kilo letter spelled, rfl⟩
  case h_3 raised =>
    cases read
    obtain ⟨letter, rfl, spelled⟩ := single raised
    exact ⟨2, .mega letter spelled, rfl⟩
  case h_4 raised =>
    cases read
    obtain ⟨letter, rfl, spelled⟩ := single raised
    exact ⟨3, .giga letter spelled, rfl⟩
  case h_5 raised =>
    cases read
    obtain ⟨letter, rfl, spelled⟩ := single raised
    exact ⟨4, .tera letter spelled, rfl⟩
  case h_6 => cases read

theorem takeWhile_unit {unit : List Char} {exponent : Nat} (scaled : Unit unit exponent) :
    unit.takeWhile Char.isDigit = [] ∧ unit.dropWhile Char.isDigit = unit := by
  cases scaled with
  | absent => exact ⟨rfl, rfl⟩
  | kilo letter spelled | mega letter spelled | giga letter spelled | tera letter spelled =>
      rcases spelled with rfl | rfl <;> exact ⟨rfl, rfl⟩

theorem parse?_literal {sign digits unit : List Char} {found : SizeComparison} {exponent : Nat}
    (signed : Sign sign found) (inhabited : digits ≠ []) (decimal : digits.all Char.isDigit = true)
    (scaled : Unit unit exponent) :
    parse? (sign ++ digits ++ unit) =
      if Number.ofDigits digits * 1024 ^ exponent < UInt64.size then
        some (found, Number.ofDigits digits * 1024 ^ exponent)
      else none := by
  obtain ⟨first, others, rfl⟩ := List.exists_cons_of_ne_nil inhabited
  have digit : first.isDigit = true := List.all_eq_true.mp decimal first List.mem_cons_self
  have whole := List.all_eq_true.mp decimal
  obtain ⟨none, rest⟩ := takeWhile_unit scaled
  have count : Number.natural? (first :: others) = some (Number.ofDigits (first :: others)) :=
    if_pos ⟨inhabited, decimal⟩
  have after : comparison (sign ++ first :: others ++ unit) = (found, first :: others ++ unit) := by
    rw [List.append_assoc]
    exact comparison_append signed digit
  rw [parse?, after]
  simp only [List.takeWhile_append_of_pos whole, List.dropWhile_append_of_pos whole, none, rest, List.append_nil, count,
    unit?_of_unit scaled, Option.bind_eq_bind, Option.bind_some]

/-- A text is read exactly if it is a literal whose size fits in 64 bits, and then as what it stands for. -/
theorem parse?_eq_some_iff (text : List Char) (found : SizeComparison) (bytes : Nat) :
    parse? text = some (found, bytes) ↔ Denotes text found bytes ∧ bytes < 2 ^ 64 := by
  have limit : UInt64.size = 2 ^ 64 := rfl
  constructor
  · intro read
    simp only [parse?, Option.bind_eq_bind, Option.bind_eq_some_iff] at read
    obtain ⟨count, counted, factor, scaled, fits⟩ := read
    obtain ⟨sign, whole, signed⟩ := exists_sign text
    obtain ⟨inhabited, decimal, rfl⟩ := Number.natural?_eq_some counted
    obtain ⟨exponent, unit, rfl⟩ := unit_of_unit? scaled
    split at fits
    case isFalse => cases fits
    case isTrue below =>
      cases fits
      have literal := Denotes.literal signed inhabited decimal unit
      rw [List.append_assoc, List.takeWhile_append_dropWhile, ← whole, ← Number.ofDigits_eq] at literal
      exact ⟨literal, limit ▸ below⟩
  · rintro ⟨⟨signed, inhabited, decimal, scaled⟩, fits⟩
    rw [← Number.ofDigits_eq] at fits ⊢
    rw [parse?_literal signed inhabited decimal scaled, limit, if_pos fits]

/-- The least number of terabytes that is too large. -/
example : parse? "16777216T".toList = none := by decide

end SizeLiteral

end FileSieve
