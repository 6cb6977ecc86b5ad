import FileSieve.Proofs.File.Image

/-! The optional header that an image declares. The data says where it begins and how many bytes it has. Its fields are
read at fixed places from there on, wherever the data has them: only for the magic is the declared size looked at. So
the declared header is enough to read the image just where all that is read of it lies inside. -/

namespace FileSieve

namespace Bytes

variable {data : Bytes} {stop : Nat}

theorem take_drop_take (offset width : Nat) (inside : offset + width ≤ stop) :
    ((data.take stop).drop offset).take width = (data.drop offset).take width := by
  rw [List.drop_take, List.take_take, Nat.min_eq_left (by omega)]

theorem number?_take_iff {offset width number : Nat} (some_width : 0 < width) :
    number? (data.take stop) offset width = some number ↔
      offset + width ≤ stop ∧ data.number? offset width = some number := by
  have same (inside : offset + width ≤ stop) :
      number? (data.take stop) offset width = data.number? offset width := by
    rw [number?, number?, take_drop_take _ _ inside]
  constructor
  · intro found
    have inside := number?_inside some_width found
    rw [List.length_take] at inside
    have before : offset + width ≤ stop := by omega
    exact ⟨before, same before ▸ found⟩
  · rintro ⟨inside, found⟩
    rw [same inside, found]

end Bytes

namespace Image

/-- The data says that its optional header begins at `start` and has `size` bytes. -/
def Declares (data : Bytes) (start size : Nat) : Prop :=
  ∃ header, data.number? 0x3C 4 = some header ∧ data.number? (header + 20) 2 = some size ∧ start = header + 24

def countOffset (image : Image) (start : Nat) : Nat := if image.is64Bit then start + 108 else start + 92

def addressOffset (image : Image) (start : Nat) : Nat := image.countOffset start + 4 + 8 * clrDirectory

/-- What is read of the optional header lies inside of it: the magic, the checksum and, if the image is found to be
managed, the count of the directories and the address in the entry that says so. -/
structure Contained (image : Image) (start size : Nat) : Prop where
  magic : start + 2 ≤ start + size
  checksum : start ≤ image.checksumOffset ∧ image.checksumOffset + 4 ≤ start + size
  count : image.hasClrHeader = true →
    start ≤ image.countOffset start ∧ image.countOffset start + 4 ≤ start + size
  address : image.hasClrHeader = true →
    start ≤ image.addressOffset start ∧ image.addressOffset start + 4 ≤ start + size

theorem clrHeader_iff (data : Bytes) (count : Nat) :
    clrHeader data count = true ↔ ∃ directories address, data.number? count 4 = some directories ∧
      data.number? (count + 4 + 8 * clrDirectory) 4 = some address ∧ clrDirectory < directories ∧ address ≠ 0 := by
  rw [clrHeader]
  cases data.number? count 4 with
  | none => simp
  | some directories =>
      cases data.number? (count + 4 + 8 * clrDirectory) 4 with
      | none => simp
      | some address => simp

theorem clrHeader_take_iff (data : Bytes) (stop count : Nat) :
    clrHeader (data.take stop) count = true ↔
      count + 4 + 8 * clrDirectory + 4 ≤ stop ∧ clrHeader data count = true := by
  simp only [clrHeader_iff, Bytes.number?_take_iff (Nat.zero_lt_succ 3)]
  constructor
  · rintro ⟨directories, address, ⟨_, counted⟩, ⟨inside, found⟩, managed⟩
    exact ⟨inside, directories, address, counted, found, managed⟩
  · rintro ⟨inside, directories, address, counted, found, managed⟩
    exact ⟨directories, address, ⟨by omega, counted⟩, ⟨inside, found⟩, managed⟩

variable {data : Bytes} {image : Image} {header : Nat}

theorem IsAt.take_iff (read : image.IsAt data header) (stop : Nat) :
    image.IsAt (data.take stop) header ↔ header + 92 ≤ stop ∧
      (image.hasClrHeader = true → image.addressOffset (header + 24) + 4 ≤ stop) := by
  have managed := read.managed
  constructor
  · intro front
    refine ⟨((Bytes.number?_take_iff (Nat.zero_lt_succ 3)).mp front.checksum).1, ?_⟩
    intro clr
    have found := front.managed
    rw [clr, eq_comm, clrHeader_take_iff] at found
    exact found.1
  · rintro ⟨covered, directory⟩
    -- The checksum field ends last among the fixed fields, so a cut behind it keeps them all.
    have same (offset width : Nat) (some_width : 0 < width) (inside : offset + width ≤ header + 92) (number : Nat)
        (found : data.number? offset width = some number) :
        Bytes.number? (data.take stop) offset width = some number :=
      (Bytes.number?_take_iff some_width).mpr ⟨by omega, found⟩
    obtain ⟨size, optionalSize, large⟩ := read.optionalSize
    obtain ⟨magic, given, wide⟩ := read.magic
    constructor
    case begins => exact (Bytes.take_drop_take 0 2 (by omega)).trans read.begins
    case pointer => exact same _ _ (by decide) (by omega) _ read.pointer
    case signature => exact (Bytes.take_drop_take header 4 (by omega)).trans read.signature
    case machine => exact same _ _ (by decide) (by omega) _ read.machine
    case timestamp => exact same _ _ (by decide) (by omega) _ read.timestamp
    case optionalSize => exact ⟨size, same _ _ (by decide) (by omega) _ optionalSize, large⟩
    case characteristics => exact same _ _ (by decide) (by omega) _ read.characteristics
    case magic => exact ⟨magic, same _ _ (by decide) (by omega) _ given, wide⟩
    case checksumOffset => exact read.checksumOffset
    case checksum => exact same _ _ (by decide) (by omega) _ read.checksum
    case managed =>
      rw [Bool.eq_iff_iff, clrHeader_take_iff, ← managed]
      exact ⟨fun clr => ⟨directory clr, clr⟩, And.right⟩

theorem IsAt.contained_iff (read : image.IsAt data header) (size : Nat) :
    image.Contained (header + 24) size ↔ header + 92 ≤ header + 24 + size ∧
      (image.hasClrHeader = true → image.addressOffset (header + 24) + 4 ≤ header + 24 + size) := by
  have field := read.checksumOffset
  have count : header + 24 ≤ image.countOffset (header + 24) := by
    rw [countOffset]
    split <;> omega
  constructor
  · intro contained
    have checksum := contained.checksum.2
    exact ⟨by omega, fun clr => (contained.address clr).2⟩
  · rintro ⟨checksum, directory⟩
    constructor
    case magic => omega
    case checksum => omega
    case count =>
      intro clr
      have address := directory clr
      rw [addressOffset] at address
      omega
    case address =>
      intro clr
      refine ⟨?_, directory clr⟩
      rw [addressOffset]
      omega

/-- An image is read of data whose declared optional header has the magic, and no more is asked of the size. The
declared header is enough to read the same image if and only if it has all that is read of it. -/
theorem declared_suffices_iff (data : Bytes) (start size : Nat) (declared : Declares data start size) :
    (size < 2 → read? data = none) ∧
      ∀ image, read? data = some image →
        start + 2 ≤ start + size ∧ (read? (data.take (start + size)) = some image ↔ image.Contained start size) := by
  obtain ⟨header, pointer, declaredSize, rfl⟩ := declared
  have located (image : Image) (parsed : read? data = some image) : image.IsAt data header ∧ 2 ≤ size := by
    obtain ⟨place, read⟩ := (read?_eq_some_iff data image).mp parsed
    obtain rfl := Option.some.inj (read.pointer.symm.trans pointer)
    obtain ⟨found, optionalSize, large⟩ := read.optionalSize
    obtain rfl := Option.some.inj (optionalSize.symm.trans declaredSize)
    exact ⟨read, large⟩
  constructor
  · intro small
    apply Option.eq_none_iff_forall_ne_some.mpr
    intro image parsed
    have large := (located image parsed).2
    omega
  · intro image parsed
    obtain ⟨read, large⟩ := located image parsed
    refine ⟨by omega, ?_⟩
    rw [read.contained_iff size, ← read.take_iff, read?_eq_some_iff]
    constructor
    · rintro ⟨place, front⟩
      have found := ((Bytes.number?_take_iff (Nat.zero_lt_succ 3)).mp front.pointer).2
      obtain rfl := Option.some.inj (found.symm.trans pointer)
      exact front
    · exact fun front => ⟨header, front⟩

theorem declared_suffices_iff_least :
    let data := (headerOnly 0x40).overwrite 84 [68, 0] ++ [1, 2, 3]
    Declares data 88 68 ∧ read? data = some ⟨0, 0, 0, false, 0, 152, false⟩ ∧
      read? (data.take (88 + 68)) = some ⟨0, 0, 0, false, 0, 152, false⟩ := by
  have declared : Declares ((headerOnly 0x40).overwrite 84 [68, 0] ++ [1, 2, 3]) 88 68 :=
    ⟨0x40, by decide, by decide, rfl⟩
  have parsed : read? ((headerOnly 0x40).overwrite 84 [68, 0] ++ [1, 2, 3]) =
      some ⟨0, 0, 0, false, 0, 152, false⟩ := by decide
  refine ⟨declared, parsed, ?_⟩
  apply (((declared_suffices_iff _ _ _ declared).2 _ parsed).2).mpr
  exact ⟨by decide, by decide, nofun, nofun⟩

/-- The checksum of a header that declares two bytes is read from behind it. -/
theorem checksum_behind_declared :
    ¬ ∀ (data : Bytes) (image : Image) (start size : Nat), read? data = some image → Declares data start size →
      image.Contained start size := by
  intro contained
  have parsed : read? (headerOnly 0x40) = some ⟨0, 0, 0, false, 0, 152, false⟩ := by decide
  have declared : Declares (headerOnly 0x40) 88 2 := ⟨0x40, by decide, by decide, rfl⟩
  have checksum := (contained _ _ _ _ parsed declared).checksum.2
  revert checksum
  decide

end Image

end FileSieve
