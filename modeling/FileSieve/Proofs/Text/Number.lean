import Mathlib.Data.List.Induction
import Mathlib.Data.Nat.Digits.Defs
import FileSieve.Text.Basic

namespace FileSieve.Number

theorem ofDigits_eq (digits : List Char) :
    ofDigits digits = Nat.ofDigits 10 (digits.map digitValue).reverse := by
  induction digits using List.reverseRecOn with
  | nil => rfl
  | append_singleton front last ih =>
      rw [ofDigits] at ih
      rw [ofDigits, List.foldl_append, List.foldl_cons, List.foldl_nil, ih, List.map_append, List.map_singleton,
        List.reverse_append, List.reverse_singleton, List.singleton_append, Nat.ofDigits_cons]
      exact Nat.add_comm _ _

theorem natural?_eq_some {text : List Char} {count : Nat} (read : natural? text = some count) :
    text ≠ [] ∧ text.all Char.isDigit = true ∧ count = ofDigits text := by
  rw [natural?] at read
  split at read
  case isTrue digits =>
    cases read
    exact ⟨digits.1, digits.2, rfl⟩
  case isFalse => cases read

theorem digits_toDigits (n : Nat) : ∀ c ∈ Nat.toDigits 10 n, c.isDigit = true :=
  fun _ member => Nat.isDigit_of_mem_toDigits (by decide) (by decide) member

theorem ofDigits_toDigits (n : Nat) : ofDigits (Nat.toDigits 10 n) = n :=
  Nat.ofDigitChars_toDigits (by decide) (by decide)

theorem natural?_toDigits (n : Nat) : natural? (Nat.toDigits 10 n) = some n := by
  rw [natural?, if_pos ⟨Nat.toDigits_ne_nil, List.all_eq_true.mpr (digits_toDigits n)⟩, ofDigits_toDigits]

section

variable (width n : Nat)

theorem padded_ne_nil : padded width n ≠ [] := List.append_ne_nil_of_right_ne_nil _ Nat.toDigits_ne_nil

theorem digits_padded : ∀ c ∈ padded width n, c.isDigit = true := by
  intro c member
  rcases List.mem_append.mp member with zero | digit
  · rw [List.eq_of_mem_replicate zero]
    rfl
  · exact digits_toDigits n c digit

theorem exists_padded : ∃ first others, padded width n = first :: others ∧ first.isDigit = true := by
  obtain ⟨first, others, split⟩ := List.exists_cons_of_ne_nil (padded_ne_nil width n)
  exact ⟨first, others, split, digits_padded width n first (split ▸ List.mem_cons_self)⟩

theorem ofDigits_padded : ofDigits (padded width n) = n := by
  show Nat.ofDigitChars 10 (List.replicate _ '0' ++ Nat.toDigits 10 n) 0 = n
  rw [Nat.ofDigitChars_append, Nat.ofDigitChars_replicate_zero, Nat.mul_zero]
  exact ofDigits_toDigits n

variable {width n}

theorem length_padded (positive : 0 < width) (fits : n < 10 ^ width) : (padded width n).length = width := by
  have short := (Nat.length_toDigits_le_iff (by decide) positive).mpr fits
  rw [padded, List.length_append, List.length_replicate]
  exact Nat.sub_add_cancel short

end

end FileSieve.Number
