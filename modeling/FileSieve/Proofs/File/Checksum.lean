import FileSieve.Proofs.File.Image
import Mathlib.Algebra.BigOperators.Intervals

/-! The checksum of an image is its length and the remainder of an exact sum. The words of the data are added up with
every carry brought back to the low end, which keeps the remainder by 65535 and tells zero from its multiples. One
byte more or less is no multiple of 65535, so a change of one byte that is summed changes the checksum. -/

namespace FileSieve

open Finset

namespace Bytes

def word (data : Bytes) (offset : Nat) : Nat :=
  (data.getD offset 0).toNat + 0x100 * (data.getD (offset + 1) 0).toNat

theorem word_le (data : Bytes) (offset : Nat) : data.word offset ≤ 0xFFFF := by
  have low := (data.getD offset 0).toNat_lt
  have high := (data.getD (offset + 1) 0).toNat_lt
  rw [word]
  omega

theorem word_behind (low high : UInt8) (rest : Bytes) (offset : Nat) :
    word (low :: high :: rest) (offset + 2) = rest.word offset := rfl

end Bytes

namespace Image

/-- The number up to 65535 that leaves the same remainder by 65535, where zero stands for zero alone. -/
def residue (total : Nat) : Nat := if total = 0 then 0 else (total - 1) % 0xFFFF + 1

theorem residue_le (total : Nat) : residue total ≤ 0xFFFF := by
  rw [residue]
  split <;> omega

theorem foldCarry_residue (total word : Nat) (small : word ≤ 0xFFFF) :
    foldCarry (residue total + word) = residue (total + word) := by
  simp only [foldCarry, residue]
  split <;> split <;> omega

/-- The even offsets in data of a length, but for those of the two words of the field. -/
def wordOffsets (length field : Nat) : Finset Nat :=
  {offset ∈ range length | offset % 2 = 0 ∧ offset ≠ field ∧ offset ≠ field + 2}

/-- The exact sum of the words. -/
def wordTotal (data : Bytes) (field : Nat) : Nat := ∑ offset ∈ wordOffsets data.length field, data.word offset

def addend (field start : Nat) (data : Bytes) (offset : Nat) : Nat :=
  if offset % 2 = 0 ∧ start + offset ≠ field ∧ start + offset ≠ field + 2 then data.word offset else 0

theorem wordTotal_eq_sum (data : Bytes) (field : Nat) :
    wordTotal data field = ∑ offset ∈ range data.length, addend field 0 data offset := by
  simp only [wordTotal, wordOffsets, sum_filter, addend, Nat.zero_add]

theorem addend_behind (field start : Nat) (low high : UInt8) (rest : Bytes) (offset : Nat) :
    addend field start (low :: high :: rest) (offset + 2) = addend field (start + 2) rest offset := by
  have parity : (offset + 2) % 2 = offset % 2 := Nat.add_mod_right offset 2
  have place : start + (offset + 2) = start + 2 + offset := by omega
  rw [addend, addend, Bytes.word_behind, parity, place]

theorem addend_start (field start : Nat) (data : Bytes) :
    addend field start data 0 = if start = field ∨ start = field + 2 then 0 else data.word 0 := by
  by_cases skipped : start = field ∨ start = field + 2
  · rw [if_pos skipped]
    exact if_neg fun added => by omega
  · rw [if_neg skipped]
    exact if_pos (by omega)

theorem sum_addend_cons (field start : Nat) (low high : UInt8) (rest : Bytes) :
    ∑ offset ∈ range (low :: high :: rest).length, addend field start (low :: high :: rest) offset =
      (if start = field ∨ start = field + 2 then 0 else low.toNat + 0x100 * high.toNat) +
        ∑ offset ∈ range rest.length, addend field (start + 2) rest offset := by
  have odd : addend field start (low :: high :: rest) 1 = 0 := if_neg (by omega)
  rw [List.length_cons, List.length_cons, sum_range_succ', sum_range_succ', addend_start, Nat.zero_add, odd]
  simp only [addend_behind]
  exact Nat.add_comm _ _

theorem sum_addend_last (field start : Nat) (low : UInt8) :
    ∑ offset ∈ range [low].length, addend field start [low] offset =
      if start = field ∨ start = field + 2 then 0 else low.toNat := by
  rw [List.length_singleton, sum_range_one, addend_start]
  rfl

theorem wordSum_residue (field start sum total : Nat) (data : Bytes) (ran : sum = residue total) :
    wordSum field start sum data =
      residue (total + ∑ offset ∈ range data.length, addend field start data offset) := by
  fun_induction wordSum field start sum data generalizing total with
  | case1 start sum => exact ran
  | case2 start sum low skipped =>
      rw [sum_addend_last, if_pos skipped]
      exact ran
  | case3 start sum low added =>
      have word : low.toNat ≤ 0xFFFF := by
        have byte := low.toNat_lt
        omega
      rw [sum_addend_last, if_neg added, ran, foldCarry_residue total _ word]
  | case4 start sum low high rest skipped ih =>
      rw [sum_addend_cons, if_pos skipped, Nat.zero_add]
      exact ih total ran
  | case5 start sum low high rest added ih =>
      have word : low.toNat + 0x100 * high.toNat ≤ 0xFFFF := Bytes.word_le (low :: high :: rest) 0
      have folded : foldCarry (sum + (low.toNat + 0x100 * high.toNat)) =
          residue (total + (low.toNat + 0x100 * high.toNat)) := by
        rw [ran, foldCarry_residue total _ word]
      rw [sum_addend_cons, if_neg added, ih _ folded, Nat.add_assoc]

theorem wordSum_eq_residue (data : Bytes) (field : Nat) :
    wordSum field 0 0 data = residue (wordTotal data field) := by
  rw [wordSum_residue field 0 0 0 data rfl, wordTotal_eq_sum, Nat.zero_add]

theorem checksumOf?_eq_residue (data : Bytes) (field : Nat) :
    checksumOf? data field = if data = [] ∨ field + 2 < UInt64.size then
      some ((residue (wordTotal data field) + data.length) % UInt32.size) else none := by
  have folded := foldCarry_residue (wordTotal data field) 0 (by decide)
  rw [Nat.add_zero, Nat.add_zero] at folded
  rw [checksumOf?, wordSum_eq_residue, folded]

def fits? (number : Nat) : Option Nat := if number < UInt64.size then some number else none

def checkedFold? (sum : Nat) : Option Nat := do
  let sum ← fits? sum
  fits? (foldCarry sum)

/-- Whether a word belongs to the field. The second offset is computed only if the first is another one. -/
def inField? (field offset : Nat) : Option Bool :=
  if offset = field then some true else (fits? (field + 2)).map fun second => offset = second

/-- The word sum with every offset and every sum in 64 bits, without a result as soon as one does not fit. -/
def checkedSum? (field offset sum : Nat) : Bytes → Option Nat
  | [] => some sum
  | [low] => do
    let skipped ← inField? field offset
    let _ ← fits? (offset + 2)
    if skipped then return sum else checkedFold? (sum + low.toNat)
  | low :: high :: rest => do
    let skipped ← inField? field offset
    let next ← fits? (offset + 2)
    if skipped then checkedSum? field next sum rest
    else
      let sum ← checkedFold? (sum + (low.toNat + 0x100 * high.toNat))
      checkedSum? field next sum rest

def checkedChecksum? (data : Bytes) (field : Nat) : Option Nat := do
  let sum ← checkedFold? (← checkedSum? field 0 0 data)
  return (sum + data.length) % UInt32.size

theorem fits?_eq {number : Nat} (small : number < UInt64.size) : fits? number = some number := if_pos small

theorem foldCarry_le (sum : Nat) (small : sum ≤ 0x1FFFE) : foldCarry sum ≤ 0xFFFF := by
  rw [foldCarry]
  omega

theorem checkedFold?_eq (sum : Nat) (small : sum ≤ 0x1FFFE) : checkedFold? sum = some (foldCarry sum) := by
  have folded := foldCarry_le sum small
  have wide : 0x1FFFE < UInt64.size := by decide
  rw [checkedFold?, fits?_eq (by omega)]
  exact fits?_eq (by omega)

theorem inField?_eq {field : Nat} (small : field + 2 < UInt64.size) (offset : Nat) :
    inField? field offset = some (decide (offset = field ∨ offset = field + 2)) := by
  rw [inField?, fits?_eq small]
  split
  · rename_i first
    rw [decide_eq_true (.inl first)]
  · rename_i other
    simp only [Option.map_some, other, false_or]

theorem checkedSum?_eq {field : Nat} (small : field + 2 < UInt64.size) (offset sum : Nat) (data : Bytes)
    (folded : sum ≤ 0xFFFF) (short : offset + data.length + 1 < UInt64.size) :
    checkedSum? field offset sum data = some (wordSum field offset sum data) := by
  fun_induction wordSum field offset sum data with
  | case1 offset sum => rfl
  | case2 offset sum low skipped =>
      rw [List.length_singleton] at short
      simp [checkedSum?, inField?_eq small, fits?_eq short, skipped]
  | case3 offset sum low added =>
      have byte := low.toNat_lt
      rw [List.length_singleton] at short
      simp [checkedSum?, inField?_eq small, fits?_eq short, added, checkedFold?_eq (sum + low.toNat) (by omega)]
  | case4 offset sum low high rest skipped ih =>
      rw [List.length_cons, List.length_cons] at short
      have next : offset + 2 < UInt64.size := by omega
      simp [checkedSum?, inField?_eq small, fits?_eq next, skipped, ih folded (by omega)]
  | case5 offset sum low high rest added ih =>
      have word : low.toNat + 0x100 * high.toNat ≤ 0xFFFF := Bytes.word_le (low :: high :: rest) 0
      have raised : sum + (low.toNat + 0x100 * high.toNat) ≤ 0x1FFFE := by omega
      rw [List.length_cons, List.length_cons] at short
      have next : offset + 2 < UInt64.size := by omega
      simp [checkedSum?, inField?_eq small, fits?_eq next, added, checkedFold?_eq _ raised,
        ih (foldCarry_le _ raised) (by omega)]

theorem checkedSum?_overflow {data : Bytes} {field : Nat} (large : ¬ field + 2 < UInt64.size) (inhabited : data ≠ []) :
    checkedSum? field 0 0 data = none := by
  have apart : 0 ≠ field := by
    rintro rfl
    exact large (by decide)
  have none : inField? field 0 = none := by
    rw [inField?, if_neg apart, fits?, if_neg large]
    rfl
  -- The first word does not begin at the field, so the end of the field is computed.
  match data with
  | [] => contradiction
  | [low] => simp [checkedSum?, none]
  | low :: high :: rest => simp [checkedSum?, none]

theorem checkedChecksum?_eq {data : Bytes} (short : data.length + 1 < UInt64.size) (field : Nat) :
    checkedChecksum? data field = checksumOf? data field := by
  by_cases small : field + 2 < UInt64.size
  · have sum : wordSum field 0 0 data ≤ 0x1FFFE := by
      have bound := residue_le (wordTotal data field)
      rw [wordSum_eq_residue]
      omega
    have ran := checkedSum?_eq small 0 0 data (by decide) (by omega)
    simp [checkedChecksum?, ran, checkedFold?_eq _ sum, checksumOf?_eq small]
  · by_cases empty : data = []
    · rw [empty]
      rfl
    · rw [checkedChecksum?, checkedSum?_overflow small empty, checksumOf?, if_neg (by simp [empty, small])]
      rfl

/-- The checksum is the residue of the exact sum plus the length, wherever both words of the field have an offset of 64
bits or there is no word at all. It is missing nowhere else, and no other number on the way overflows. -/
theorem checksum_eq_residue_of_words (data : Bytes) (field : Nat) :
    (checksumOf? data field = if data = [] ∨ field + 2 < 2 ^ 64 then
        some (((if wordTotal data field = 0 then 0 else (wordTotal data field - 1) % 65535 + 1) + data.length) % 2 ^ 32)
      else none) ∧
      (data.length + 1 < 2 ^ 64 → checkedChecksum? data field = checksumOf? data field) :=
  ⟨checksumOf?_eq_residue data field, fun short => checkedChecksum?_eq short field⟩

theorem checksum_eq_residue_of_words_odd :
    checksumOf? [1, 2, 3] 0x40 =
        some (((if wordTotal [1, 2, 3] 0x40 = 0 then 0 else (wordTotal [1, 2, 3] 0x40 - 1) % 65535 + 1) + 3) %
          2 ^ 32) ∧
      checkedChecksum? [1, 2, 3] 0x40 = checksumOf? [1, 2, 3] 0x40 := by
  obtain ⟨sum, checked⟩ := checksum_eq_residue_of_words [1, 2, 3] 0x40
  rw [if_pos (.inr (by decide))] at sum
  exact ⟨sum, checked (by decide)⟩

/-- Of a field at the last even offset the second word has none, and there is no checksum. -/
theorem checksum_missing :
    ¬ ∀ (data : Bytes) (field : Nat), data.length < 2 ^ 63 → field < 2 ^ 64 → field % 2 = 0 →
      checksumOf? data field =
          some (((if wordTotal data field = 0 then 0 else (wordTotal data field - 1) % 65535 + 1) + data.length) %
            2 ^ 32) ∧
        checkedChecksum? data field = checksumOf? data field := by
  intro summed
  have whole := (summed [1, 0] 0xFFFFFFFFFFFFFFFE (by decide) (by decide) (by decide)).1
  cases whole

theorem residue_mod (total : Nat) : residue total % 0xFFFF = total % 0xFFFF := by
  rw [residue]
  split <;> omega

section

variable {data : Bytes} {place : Nat} (inside : place < data.length)

include inside

theorem word_set_mod_iff (byte : UInt8) {offset : Nat} (within : place = offset ∨ place = offset + 1) :
    Bytes.word (data.set place byte) offset % 0xFFFF = data.word offset % 0xFFFF ↔ byte = data[place] := by
  have small := byte.toNat_lt
  have old := data[place].toNat_lt
  rw [← UInt8.toNat_inj]
  rcases within with rfl | rfl
  · have high := (data.getD (place + 1) 0).toNat_lt
    simp only [Bytes.word, List.getD_eq_getElem?_getD, List.getElem?_set_self inside,
      List.getElem?_set_ne (Nat.ne_add_one place), List.getElem?_eq_getElem inside, Option.getD_some] at high ⊢
    omega
  · have low := (data.getD offset 0).toNat_lt
    simp only [Bytes.word, List.getD_eq_getElem?_getD, List.getElem?_set_self inside,
      List.getElem?_set_ne (Nat.succ_ne_self offset), List.getElem?_eq_getElem inside, Option.getD_some] at low ⊢
    omega

theorem wordTotal_set (byte : UInt8) {field offset : Nat} (within : place = offset ∨ place = offset + 1)
    (even : offset % 2 = 0) (apart : place < field ∨ field + 4 ≤ place) :
    wordTotal (data.set place byte) field + data.word offset =
      wordTotal data field + Bytes.word (data.set place byte) offset := by
  have member : offset ∈ wordOffsets data.length field := by
    rw [wordOffsets, mem_filter, mem_range]
    omega
  have others : ∑ other ∈ (wordOffsets data.length field).erase offset, Bytes.word (data.set place byte) other =
      ∑ other ∈ (wordOffsets data.length field).erase offset, data.word other := by
    apply sum_congr rfl
    intro other chosen
    obtain ⟨different, chosen⟩ := mem_erase.mp chosen
    have parity := (mem_filter.mp chosen).2.1
    have low : place ≠ other := by omega
    have high : place ≠ other + 1 := by omega
    simp only [Bytes.word, List.getD_eq_getElem?_getD, List.getElem?_set_ne low, List.getElem?_set_ne high]
  rw [wordTotal, wordTotal, List.length_set, ← add_sum_erase _ _ member, ← add_sum_erase _ _ member, others]
  omega

theorem checksumOf?_set_iff (byte : UInt8) {field : Nat} (small : field + 2 < UInt64.size)
    (apart : place < field ∨ field + 4 ≤ place) :
    checksumOf? (data.set place byte) field = checksumOf? data field ↔ byte = data[place] := by
  constructor
  · intro same
    have within : place = place - place % 2 ∨ place = place - place % 2 + 1 := by omega
    have total := wordTotal_set inside byte within (by omega) apart
    have residues : residue (wordTotal (data.set place byte) field) = residue (wordTotal data field) := by
      have new := residue_le (wordTotal (data.set place byte) field)
      have old := residue_le (wordTotal data field)
      rw [checksumOf?_eq_residue, checksumOf?_eq_residue, if_pos (.inr small), if_pos (.inr small), Option.some.injEq,
        List.length_set] at same
      simp only [UInt32.size] at same
      omega
    have remainders : wordTotal (data.set place byte) field % 0xFFFF = wordTotal data field % 0xFFFF := by
      rw [← residue_mod, residues, residue_mod]
    apply (word_set_mod_iff inside byte within).mp
    omega
  · rintro rfl
    rw [List.set_getElem_self]

end

/-- The checksum of an image that matches no longer does when one byte outside of the field is changed. -/
theorem changed_byte_detected (data : Bytes) (image : Image) (parsed : read? data = some image)
    (matched : image.checksumMatches data = true) (place : Nat) (inside : place < data.length)
    (apart : place < image.checksumOffset ∨ image.checksumOffset + 4 ≤ place) (byte : UInt8)
    (changed : byte ≠ data[place]) : image.checksumMatches (data.set place byte) = false := by
  rw [checksumMatches, beq_iff_eq] at matched
  rw [checksumMatches, beq_eq_false_iff_ne, ← matched]
  intro same
  exact changed ((checksumOf?_set_iff inside byte (offset_small parsed) apart).mp same)

theorem changed_byte_detected_before_field :
    read? ((headerOnly 0x40).overwrite 152 (Bytes.ofNumber 4 41350)) = some ⟨0, 0, 0, false, 41350, 152, false⟩ ∧
      checksumMatches ⟨0, 0, 0, false, 41350, 152, false⟩
          ((headerOnly 0x40).overwrite 152 (Bytes.ofNumber 4 41350)) = true ∧
        checksumMatches ⟨0, 0, 0, false, 41350, 152, false⟩
          (((headerOnly 0x40).overwrite 152 (Bytes.ofNumber 4 41350)).set 151 0xFF) = false := by
  have parsed : read? ((headerOnly 0x40).overwrite 152 (Bytes.ofNumber 4 41350)) =
      some ⟨0, 0, 0, false, 41350, 152, false⟩ := by decide +kernel
  have matched : checksumMatches ⟨0, 0, 0, false, 41350, 152, false⟩
      ((headerOnly 0x40).overwrite 152 (Bytes.ofNumber 4 41350)) = true := by decide +kernel
  refine ⟨parsed, matched, ?_⟩
  exact changed_byte_detected _ _ parsed matched 151 (by decide +kernel) (by decide) 0xFF (by decide +kernel)

end Image
end FileSieve
