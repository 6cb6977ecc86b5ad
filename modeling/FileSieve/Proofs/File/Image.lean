import FileSieve.File.Image
import Mathlib.Algebra.Group.Nat.Defs
import Mathlib.Data.Option.Basic

/-! The checksum field of an image. Nothing else of the header lies where the field does, so storing a number there
leaves the image what it was but for its checksum. The field is left out of the sum where it begins at an even offset,
since the sum goes by 16-bit words: there the sum can be stored and is found to match. -/

namespace FileSieve

namespace Bytes

def ofNumber : Nat → Nat → Bytes
  | 0, _ => []
  | width + 1, number => UInt8.ofNat number :: ofNumber width (number / 256)

theorem length_ofNumber (width number : Nat) : (ofNumber width number).length = width := by
  induction width generalizing number with
  | zero => rfl
  | succ width ih => rw [ofNumber, List.length_cons, ih]

theorem littleEndian_ofNumber (width number : Nat) (fits : number < 256 ^ width) :
    littleEndian (ofNumber width number) = number := by
  induction width generalizing number with
  | zero =>
      have none : number = 0 := by simpa using fits
      rw [none]
      rfl
  | succ width ih =>
      have rest : number / 256 < 256 ^ width := by
        apply Nat.div_lt_of_lt_mul
        rwa [Nat.mul_comm, ← Nat.pow_succ]
      calc
        littleEndian (ofNumber (width + 1) number) =
            (UInt8.ofNat number).toNat + 256 * littleEndian (ofNumber width (number / 256)) := rfl
        _ = number % 256 + 256 * (number / 256) := by rw [ih _ rest, UInt8.toNat_ofNat']
        _ = number := Nat.mod_add_div number 256

/-- The data with a field in place of what stood at the offset. -/
def overwrite (data : Bytes) (offset : Nat) (field : Bytes) : Bytes :=
  data.take offset ++ (field ++ data.drop (offset + field.length))

theorem exists_overwritten (data field : Bytes) (offset : Nat) (inside : offset + field.length ≤ data.length) :
    ∃ front old back, data = front ++ (old ++ back) ∧ front.length = offset ∧ old.length = field.length ∧
      overwrite data offset field = front ++ (field ++ back) := by
  refine ⟨data.take offset, (data.drop offset).take field.length, data.drop (offset + field.length), ?_, ?_, ?_, rfl⟩
  · rw [← List.drop_drop, List.take_append_drop, List.take_append_drop]
  · rw [List.length_take]
    omega
  · rw [List.length_take, List.length_drop]
    omega

theorem number?_inside {data : Bytes} {offset width number : Nat} (some_width : 0 < width)
    (found : data.number? offset width = some number) : offset + width ≤ data.length := by
  rw [number?] at found
  split at found
  · rename_i whole
    rw [List.length_take, List.length_drop] at whole
    omega
  · cases found

theorem littleEndian_lt (bytes : Bytes) : littleEndian bytes < 256 ^ bytes.length := by
  induction bytes with
  | nil => decide
  | cons byte bytes ih =>
      have low := byte.toNat_lt
      have split : littleEndian (byte :: bytes) = byte.toNat + 256 * littleEndian bytes := rfl
      rw [split, List.length_cons, Nat.pow_succ]
      omega

theorem number?_lt {data : Bytes} {offset width number : Nat} (found : data.number? offset width = some number) :
    number < 256 ^ width := by
  rw [number?] at found
  split at found
  · rename_i whole
    cases found
    have bound := littleEndian_lt ((data.drop offset).take width)
    rwa [whole] at bound
  · cases found

theorem take_drop_append_front (front back : Bytes) {offset width : Nat} (inside : offset + width ≤ front.length) :
    ((front ++ back).drop offset).take width = (front.drop offset).take width := by
  rw [List.drop_append_of_le_length (by omega), List.take_append_of_le_length]
  rw [List.length_drop]
  omega

theorem drop_append_behind (front back : Bytes) {offset : Nat} (behind : front.length ≤ offset) :
    (front ++ back).drop offset = back.drop (offset - front.length) := by
  rw [List.drop_append, List.drop_eq_nil_of_le behind, List.nil_append]

section

variable {data field : Bytes} {offset : Nat} (inside : offset + field.length ≤ data.length)

include inside

theorem take_drop_overwrite {start width : Nat}
    (apart : start + width ≤ offset ∨ offset + field.length ≤ start) :
    ((data.overwrite offset field).drop start).take width = (data.drop start).take width := by
  obtain ⟨front, old, back, whole, ahead, long, stored⟩ := exists_overwritten data field offset inside
  rw [stored, whole]
  cases apart with
  | inl before =>
      rw [take_drop_append_front front _ (by omega), take_drop_append_front front _ (by omega)]
  | inr behind =>
      rw [drop_append_behind front _ (by omega), drop_append_behind front _ (by omega),
        drop_append_behind field _ (by omega), drop_append_behind old _ (by omega), long]

theorem number?_overwrite {start width : Nat} (apart : start + width ≤ offset ∨ offset + field.length ≤ start) :
    (data.overwrite offset field).number? start width = data.number? start width := by
  rw [number?, number?, take_drop_overwrite inside apart]

theorem number?_overwritten :
    (data.overwrite offset field).number? offset field.length = some (littleEndian field) := by
  obtain ⟨front, old, back, whole, rfl, long, stored⟩ := exists_overwritten data field offset inside
  rw [number?, stored, List.drop_left, List.take_left, if_pos rfl]

theorem length_overwrite : (data.overwrite offset field).length = data.length := by
  obtain ⟨front, old, back, whole, ahead, long, stored⟩ := exists_overwritten data field offset inside
  rw [stored, whole]
  simp only [List.length_append, long]

end

end Bytes

namespace Image

structure IsAt (image : Image) (data : Bytes) (header : Nat) : Prop where
  begins : data.take 2 = [0x4D, 0x5A]
  pointer : data.number? 0x3C 4 = some header
  signature : (data.drop header).take 4 = [0x50, 0x45, 0, 0]
  machine : data.number? (header + 4) 2 = some image.machine
  timestamp : data.number? (header + 8) 4 = some image.timestamp
  optionalSize : ∃ size, data.number? (header + 20) 2 = some size ∧ 2 ≤ size
  characteristics : data.number? (header + 22) 2 = some image.characteristics
  magic : ∃ magic, data.number? (header + 24) 2 = some magic ∧ wideMagic? magic = some image.is64Bit
  checksumOffset : image.checksumOffset = header + 88
  checksum : data.number? (header + 88) 4 = some image.checksum
  managed : image.hasClrHeader = clrHeader data (if image.is64Bit then header + 132 else header + 116)

theorem read?_eq_some_iff (data : Bytes) (image : Image) :
    read? data = some image ↔ ∃ header, image.IsAt data header := by
  simp only [read?, Option.bind_eq_bind, Option.bind_eq_some_iff, Option.guard_eq_some']
  constructor
  · intro parsed
    obtain ⟨_, begins, header, pointer, _, signature, _, machine, _, timestamp, size, optionalSize, _,
      characteristics, _, large, magic, given, _, wide, _, checksum, whole⟩ := parsed
    cases whole
    exact ⟨header, begins, pointer, signature, machine, timestamp, ⟨size, optionalSize, large⟩, characteristics,
      ⟨magic, given, wide⟩, rfl, checksum, rfl⟩
  · intro located
    obtain ⟨header, read⟩ := located
    obtain ⟨size, optionalSize, large⟩ := read.optionalSize
    obtain ⟨magic, given, wide⟩ := read.magic
    refine ⟨(), read.begins, header, read.pointer, (), read.signature, _, read.machine, _, read.timestamp, size,
      optionalSize, _, read.characteristics, (), large, magic, given, _, wide, _, read.checksum, ?_⟩
    have field := read.checksumOffset
    have clr := read.managed
    cases image
    dsimp only at field clr
    rw [clr, field]
    rfl

variable {data field : Bytes} {image : Image} {header : Nat}

theorem IsAt.inside (read : image.IsAt data header) : header + 88 + 4 ≤ data.length :=
  Bytes.number?_inside (by decide) read.checksum

/-- The pointer to the header has four bytes, so the field is far from the end of all offsets. -/
theorem offset_small (parsed : read? data = some image) : image.checksumOffset + 2 < UInt64.size := by
  obtain ⟨header, read⟩ := (read?_eq_some_iff data image).mp parsed
  have pointer := Bytes.number?_lt read.pointer
  rw [read.checksumOffset]
  simp only [UInt64.size]
  omega

theorem IsAt.overwrite (read : image.IsAt data header) (four : field.length = 4) :
    IsAt { image with checksum := Bytes.littleEndian field } (data.overwrite (header + 88) field) header := by
  have inside : header + 88 + field.length ≤ data.length := by
    rw [four]
    exact read.inside
  -- The field takes the four bytes from offset 88 of the header on; no other field touches them.
  have window (start width : Nat) (apart : start + width ≤ header + 88 ∨ header + 92 ≤ start) :
      ((data.overwrite (header + 88) field).drop start).take width = (data.drop start).take width := by
    apply Bytes.take_drop_overwrite inside
    omega
  have same (start width : Nat) (apart : start + width ≤ header + 88 ∨ header + 92 ≤ start) :
      (data.overwrite (header + 88) field).number? start width = data.number? start width := by
    apply Bytes.number?_overwrite inside
    omega
  have directories (count : Nat) (behind : header + 92 ≤ count) :
      clrHeader (data.overwrite (header + 88) field) count = clrHeader data count := by
    rw [clrHeader, clrHeader, same _ _ (.inr behind), same _ _ (.inr (by omega))]
  constructor
  case begins => exact (window 0 2 (.inl (by omega))).trans read.begins
  case pointer => rw [same _ _ (.inl (by omega)), read.pointer]
  case signature => rw [window _ _ (.inl (by omega)), read.signature]
  case machine => rw [same _ _ (.inl (by omega)), read.machine]
  case timestamp => rw [same _ _ (.inl (by omega)), read.timestamp]
  case optionalSize =>
    rw [same _ _ (.inl (by omega))]
    exact read.optionalSize
  case characteristics => rw [same _ _ (.inl (by omega)), read.characteristics]
  case magic =>
    rw [same _ _ (.inl (by omega))]
    exact read.magic
  case checksumOffset => exact read.checksumOffset
  case checksum =>
    have found := Bytes.number?_overwritten inside
    rwa [four] at found
  case managed =>
    rw [directories _ (by split <;> omega)]
    exact read.managed

theorem read?_overwrite (parsed : read? data = some image) (four : field.length = 4) :
    read? (data.overwrite image.checksumOffset field) =
      some { image with checksum := Bytes.littleEndian field } := by
  obtain ⟨header, read⟩ := (read?_eq_some_iff data image).mp parsed
  have stored := read.overwrite four
  rw [← read.checksumOffset] at stored
  exact (read?_eq_some_iff _ _).mpr ⟨header, stored⟩

theorem wordSum_append (field offset sum : Nat) (front back : Bytes) (even : front.length % 2 = 0) :
    wordSum field offset sum (front ++ back) =
      wordSum field (offset + front.length) (wordSum field offset sum front) back := by
  fun_induction wordSum field offset sum front with
  | case1 offset sum => rfl
  | case2 offset sum low skipped => cases even
  | case3 offset sum low added => cases even
  | case4 offset sum low high rest skipped ih =>
      rw [List.length_cons, List.length_cons] at even
      rw [List.cons_append, List.cons_append, wordSum, if_pos skipped, ih (by omega), List.length_cons,
        List.length_cons]
      congr 1
      omega
  | case5 offset sum low high rest added ih =>
      rw [List.length_cons, List.length_cons] at even
      rw [List.cons_append, List.cons_append, wordSum, if_neg added, ih (by omega), List.length_cons,
        List.length_cons]
      congr 1
      omega

theorem wordSum_field (offset sum : Nat) (field back : Bytes) (four : field.length = 4) :
    wordSum offset offset sum (field ++ back) = wordSum offset (offset + 4) sum back := by
  match field, four with
  | [a, b, c, d], _ => simp [wordSum]

theorem wordSum_overwrite {offset : Nat} (inside : offset + field.length ≤ data.length) (four : field.length = 4)
    (even : offset % 2 = 0) : wordSum offset 0 0 (data.overwrite offset field) = wordSum offset 0 0 data := by
  obtain ⟨front, old, back, whole, rfl, long, stored⟩ := Bytes.exists_overwritten data field offset inside
  rw [stored, whole, wordSum_append _ _ _ front _ even, wordSum_append _ _ _ front _ even, Nat.zero_add,
    wordSum_field _ _ field back four, wordSum_field _ _ old back (long.trans four)]

theorem checksumOf?_eq {offset : Nat} (small : offset + 2 < UInt64.size) (data : Bytes) :
    checksumOf? data offset = some ((foldCarry (wordSum offset 0 0 data) + data.length) % UInt32.size) :=
  if_pos (.inr small)

theorem checksumOf?_overwrite {offset : Nat} (inside : offset + field.length ≤ data.length)
    (small : offset + 2 < UInt64.size) (four : field.length = 4) (even : offset % 2 = 0) :
    checksumOf? (data.overwrite offset field) offset = checksumOf? data offset := by
  rw [checksumOf?_eq small, checksumOf?_eq small, wordSum_overwrite inside four even, Bytes.length_overwrite inside]

/-- The data with its own checksum in the field. -/
def store? (data : Bytes) (offset : Nat) : Option Bytes :=
  (checksumOf? data offset).map fun sum => data.overwrite offset (Bytes.ofNumber 4 sum)

/-- An image has a checksum. With it stored the image is read as before, and where the field begins at an even offset
the checksum matches. -/
theorem stored_checksum_matches (data : Bytes) (image : Image) (parsed : read? data = some image) :
    ∃ stored again, store? data image.checksumOffset = some stored ∧ read? stored = some again ∧
      again.checksumOffset = image.checksumOffset ∧
        (image.checksumOffset % 2 = 0 → again.checksumMatches stored = true) := by
  obtain ⟨header, read⟩ := (read?_eq_some_iff data image).mp parsed
  have sum := checksumOf?_eq (offset_small parsed) data
  have small : (foldCarry (wordSum image.checksumOffset 0 0 data) + data.length) % UInt32.size < 256 ^ 4 :=
    Nat.mod_lt _ (by decide)
  have four := Bytes.length_ofNumber 4
    ((foldCarry (wordSum image.checksumOffset 0 0 data) + data.length) % UInt32.size)
  refine ⟨_, _, by rw [store?, sum, Option.map_some], read?_overwrite parsed four, rfl, ?_⟩
  intro even
  have inside : image.checksumOffset + 4 ≤ data.length := by
    rw [read.checksumOffset]
    exact read.inside
  rw [← four] at inside
  rw [checksumMatches, beq_iff_eq, checksumOf?_overwrite inside (offset_small parsed) four even, sum,
    Bytes.littleEndian_ofNumber _ _ small]

def headerOnly (header : Nat) : Bytes :=
  let blank : Bytes := List.replicate (header + 92) 0
  let pointed := (blank.overwrite 0 [0x4D, 0x5A]).overwrite 0x3C (Bytes.ofNumber 4 header)
  let signed := pointed.overwrite header [0x50, 0x45, 0, 0]
  (signed.overwrite (header + 20) [2, 0]).overwrite (header + 24) [0x0B, 0x01]

theorem stored_checksum_matches_even :
    read? (headerOnly 0x40) = some ⟨0, 0, 0, false, 0, 152, false⟩ ∧
      ∃ stored again, store? (headerOnly 0x40) 152 = some stored ∧ read? stored = some again ∧
        again.checksumMatches stored = true := by
  have parsed : read? (headerOnly 0x40) = some ⟨0, 0, 0, false, 0, 152, false⟩ := by decide
  obtain ⟨stored, again, kept, reread, _, agrees⟩ := stored_checksum_matches _ _ parsed
  exact ⟨parsed, stored, again, kept, reread, agrees (by decide)⟩

/-- One byte further on the field straddles the words of the sum, and storing the sum changes it. -/
theorem stored_checksum_differs :
    ¬ ∀ (data : Bytes) (image : Image), read? data = some image →
      ∃ stored again, store? data image.checksumOffset = some stored ∧ read? stored = some again ∧
        again.checksumOffset = image.checksumOffset ∧ again.checksumMatches stored = true := by
  intro agrees
  have parsed : read? (headerOnly 0x41) = some ⟨0, 0, 0, false, 0, 153, false⟩ := by decide
  have kept : store? (headerOnly 0x41) 153 = some ((headerOnly 0x41).overwrite 153 (Bytes.ofNumber 4 47217)) := by
    decide +kernel
  have reread : read? ((headerOnly 0x41).overwrite 153 (Bytes.ofNumber 4 47217)) =
      some ⟨0, 0, 0, false, 47217, 153, false⟩ := by
    decide +kernel
  obtain ⟨stored, again, storedHere, found, _, matched⟩ := agrees _ _ parsed
  cases kept.symm.trans storedHere
  cases reread.symm.trans found
  revert matched
  decide +kernel

end Image

end FileSieve
