namespace FileSieve

abbrev Bytes := List UInt8

namespace Bytes

def littleEndian (bytes : Bytes) : Nat := bytes.foldr (fun byte high => byte.toNat + 256 * high) 0

/-- The number in the `width` bytes from `offset` on, lowest byte first, if they are all there. -/
def number? (data : Bytes) (offset width : Nat) : Option Nat :=
  let field := (data.drop offset).take width
  if field.length = width then some (littleEndian field) else none

def holds (needle : Bytes) : Bytes → Bool
  | [] => needle.isEmpty
  | byte :: rest => needle.isPrefixOf (byte :: rest) || holds needle rest

def split (separator : UInt8) : Bytes → List Bytes
  | [] => [[]]
  | byte :: rest =>
    if byte = separator then [] :: split separator rest
    else match split separator rest with
      | [] => [[byte]]
      | piece :: pieces => (byte :: piece) :: pieces

def join (separator : UInt8) : List Bytes → Bytes
  | [] => []
  | [piece] => piece
  | piece :: pieces => piece ++ separator :: join separator pieces

def lowerByte (byte : UInt8) : UInt8 :=
  if 0x41 ≤ byte && byte ≤ 0x5A then byte + 0x20 else byte

end Bytes
end FileSieve
