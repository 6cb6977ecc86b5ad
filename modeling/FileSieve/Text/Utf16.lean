import FileSieve.Bytes

namespace FileSieve.Utf16

def byteOrderMark : Bytes := [0xFF, 0xFE]

def unitBytes (unit : Nat) : Bytes := [UInt8.ofNat unit, UInt8.ofNat (unit / 0x100)]

def units (c : Char) : List Nat :=
  if c.toNat < 0x10000 then [c.toNat]
  else [0xD800 + (c.toNat - 0x10000) / 0x400, 0xDC00 + (c.toNat - 0x10000) % 0x400]

def encode (text : List Char) : Bytes := (text.flatMap units).flatMap unitBytes

def units? : Bytes → Option (List Nat)
  | [] => some []
  | [_] => none
  | low :: high :: rest => (units? rest).map ((low.toNat + 0x100 * high.toNat) :: ·)

/-- A surrogate stands only in a pair of a high and a low one. -/
def characters? : List Nat → Option (List Char)
  | [] => some []
  | unit :: rest =>
    if unit < 0xD800 || 0xE000 ≤ unit then (characters? rest).map (Char.ofNat unit :: ·)
    else match rest with
      | [] => none
      | low :: afterPair =>
        if unit < 0xDC00 && 0xDC00 ≤ low && low < 0xE000 then
          (characters? afterPair).map
            (Char.ofNat (0x10000 + (unit - 0xD800) * 0x400 + (low - 0xDC00)) :: ·)
        else none

def decode? (bytes : Bytes) : Option (List Char) := (units? bytes).bind characters?

end FileSieve.Utf16
