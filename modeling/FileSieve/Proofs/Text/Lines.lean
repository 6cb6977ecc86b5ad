import Mathlib.Tactic.SplitIfs
import FileSieve.Text.Basic
import FileSieve.Unicode.Property
import FileSieve.Time.Instant

namespace FileSieve

theorem closed_eq_intercalate {α : Type} (mark : α) (lines : List (List α)) :
    lines.flatMap (· ++ [mark]) = [mark].intercalate (lines ++ [[]]) := by
  induction lines with
  | nil => rfl
  | cons line lines ih =>
      have inhabited : lines ++ [[]] ≠ [] := List.append_ne_nil_of_right_ne_nil _ (List.cons_ne_nil _ _)
      rw [List.flatMap_cons, ih, List.cons_append, List.intercalate_cons_of_ne_nil inhabited]

theorem closed_injective {mark : Char} {first second : List (List Char)} (plain : ∀ line ∈ first, mark ∉ line)
    (plainToo : ∀ line ∈ second, mark ∉ line)
    (same : first.flatMap (· ++ [mark]) = second.flatMap (· ++ [mark])) : first = second := by
  have split {lines : List (List Char)} (plain : ∀ line ∈ lines, mark ∉ line) :
      (lines.flatMap (· ++ [mark])).splitOn mark = lines ++ [[]] := by
    rw [closed_eq_intercalate]
    apply List.splitOn_intercalate
    · simpa [or_imp, forall_and] using plain
    · simp
  have closed : first ++ [[]] = second ++ [[]] := by rw [← split plain, ← split plainToo, same]
  exact List.append_cancel_right closed

theorem lineFeed_toDigits (base n : Nat) (bounded : 1 < base ∧ base ≤ 16) : '\n' ∉ Nat.toDigits base n := by
  have digit : ∀ value < 16, Nat.digitChar value ≠ '\n' := by decide
  induction n using Nat.strongRecOn with
  | ind n ih =>
  rw [Nat.toDigits_eq_if bounded.1]
  split
  · rename_i small
    exact fun same => digit n (by omega) (List.mem_singleton.mp same).symm
  · have last := Nat.mod_lt n (by omega : 0 < base)
    have front := ih (n / base) (Nat.div_lt_self (by omega) bounded.1)
    rw [List.mem_append, List.mem_singleton, not_or]
    exact ⟨front, (digit _ (by omega)).symm⟩

theorem lineFeed_encode (bytes : Bytes) : '\n' ∉ Hex.encode bytes := by
  have digit : ∀ value < 16, Hex.digit value ≠ '\n' := by decide
  rw [Hex.encode, List.mem_flatMap]
  rintro ⟨byte, _, member⟩
  have bound := byte.toNat_lt
  simp only [List.mem_cons, List.not_mem_nil, or_false] at member
  rcases member with high | low
  · exact digit _ (by omega) high.symm
  · exact digit _ (by omega) low.symm

theorem lineFeed_quote (text : List Char) : '\n' ∉ Quoted.quote text := by
  have code (n : Nat) : '\n' ∉ Nat.toDigits 16 n := lineFeed_toDigits 16 n (by decide)
  have escaped (c : Char) : '\n' ∉ Quoted.escape c := by
    by_cases feed : c = '\n'
    · rw [feed]
      decide
    · rw [Quoted.escape]
      split_ifs <;> simp [code, Ne.symm feed]
  simp [Quoted.quote, escaped]

theorem lineFeed_text (reference : Instant) : '\n' ∉ reference.text 'T' := by
  have digits (width n : Nat) : '\n' ∉ Number.padded width n := by
    simp [Number.padded, lineFeed_toDigits 10 n (by decide)]
  have year (year : Int) : '\n' ∉ Instant.yearText year := by
    rw [Instant.yearText]
    split_ifs <;> simp [digits]
  simp [Instant.text, Instant.dateText, Instant.timeText, digits, year]

theorem lineFeed_intercalate {pieces : List (List Char)} (plain : ∀ piece ∈ pieces, '\n' ∉ piece) :
    '\n' ∉ [','].intercalate pieces := by
  induction pieces with
  | nil => exact List.not_mem_nil
  | cons piece pieces ih =>
      obtain ⟨first, rest⟩ := List.forall_mem_cons.mp plain
      cases pieces with
      | nil => rwa [List.intercalate_singleton]
      | cons next pieces =>
          rw [List.intercalate_cons_cons]
          simp [first, ih rest]

end FileSieve
