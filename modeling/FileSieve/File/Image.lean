import FileSieve.Bytes

/-! Portable Executable images: the header fields that criteria ask for, and the image checksum. All
offsets are taken from the data, so every field may turn out to lie behind its end. -/

namespace FileSieve

structure Image where
  machine : Nat
  timestamp : Nat
  characteristics : Nat
  is64Bit : Bool
  checksum : Nat
  checksumOffset : Nat
  hasClrHeader : Bool
  deriving DecidableEq, Repr

namespace Image

def clrDirectory : Nat := 14

def wideMagic? (magic : Nat) : Option Bool :=
  if magic = 0x10B then some false else if magic = 0x20B then some true else none

/-- The directory table begins 4 bytes behind its count. -/
def clrHeader (data : Bytes) (countOffset : Nat) : Bool :=
  let count := (data.number? countOffset 4).getD 0
  let address := (data.number? (countOffset + 4 + 8 * clrDirectory) 4).getD 0
  clrDirectory < count && address != 0

def read? (data : Bytes) : Option Image := do
  guard (data.take 2 = [0x4D, 0x5A])
  let header ← data.number? 0x3C 4
  guard ((data.drop header).take 4 = [0x50, 0x45, 0, 0])
  let coff := header + 4
  let machine ← data.number? coff 2
  let timestamp ← data.number? (coff + 4) 4
  let optionalSize ← data.number? (coff + 16) 2
  let characteristics ← data.number? (coff + 18) 2
  let optional := coff + 20
  guard (2 ≤ optionalSize)
  let is64Bit ← wideMagic? (← data.number? optional 2)
  let checksumOffset := optional + 64
  let checksum ← data.number? checksumOffset 4
  return {
    machine, timestamp, characteristics, is64Bit, checksum, checksumOffset
    hasClrHeader := clrHeader data (if is64Bit then optional + 108 else optional + 92) }

def isDll (image : Image) : Bool := image.characteristics &&& 0x2000 != 0

def foldCarry (sum : Nat) : Nat := sum % 0x10000 + sum / 0x10000

/-- Adds the 16-bit words from `offset` on, except the two of the checksum field at `field`; every
carry is added back at the low end. -/
def wordSum (field : Nat) (offset sum : Nat) : Bytes → Nat
  | [] => sum
  | [low] => if offset = field ∨ offset = field + 2 then sum else foldCarry (sum + low.toNat)
  | low :: high :: rest =>
    if offset = field ∨ offset = field + 2 then wordSum field (offset + 2) sum rest
    else wordSum field (offset + 2) (foldCarry (sum + (low.toNat + 0x100 * high.toNat))) rest

/-- The word sum plus the length, as a 32-bit number. Each word is compared with the second word of the field, and
where that has no offset of 64 bits the program stops: there is no checksum then, but for data without a word. -/
def checksumOf? (data : Bytes) (field : Nat) : Option Nat :=
  if data = [] ∨ field + 2 < UInt64.size then
    some ((foldCarry (wordSum field 0 0 data) + data.length) % UInt32.size)
  else none

def checksumMatches (image : Image) (data : Bytes) : Bool :=
  checksumOf? data image.checksumOffset == some image.checksum

end Image
end FileSieve
