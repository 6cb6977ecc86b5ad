import FileSieve.Bytes

namespace FileSieve.Utf8

def encode (text : List Char) : Bytes := text.flatMap String.utf8EncodeChar

/-- Bytes that a character takes up after this lead; nothing for a byte that can not lead. -/
def following? (lead : UInt8) : Option Nat :=
  if lead < 0x80 then some 0
  else if 0xC2 ≤ lead && lead ≤ 0xDF then some 1
  else if 0xE0 ≤ lead && lead ≤ 0xEF then some 2
  else if 0xF0 ≤ lead && lead ≤ 0xF4 then some 3
  else none

def isTail (byte : UInt8) : Bool := 0x80 ≤ byte && byte ≤ 0xBF

/-- The second byte is restricted where overlong forms, surrogates and codes above U+10FFFF begin. -/
def isSecond (lead second : UInt8) : Bool :=
  if lead == 0xE0 then 0xA0 ≤ second && second ≤ 0xBF
  else if lead == 0xED then 0x80 ≤ second && second ≤ 0x9F
  else if lead == 0xF0 then 0x90 ≤ second && second ≤ 0xBF
  else if lead == 0xF4 then 0x80 ≤ second && second ≤ 0x8F
  else isTail second

def tailBits (byte : UInt8) : Nat := byte.toNat % 0x40

/-- Characters in order, with `none` for every ill-formed part. -/
def decode : Bytes → List (Option Char)
  | [] => []
  | a :: afterA =>
    match following? a with
    | none => none :: decode afterA
    | some 0 => some (Char.ofNat a.toNat) :: decode afterA
    | some following =>
      match afterA with
      | [] => [none]
      | b :: afterB =>
        if !isSecond a b then none :: decode (b :: afterB)
        else if following = 1 then
          some (Char.ofNat (a.toNat % 0x20 * 0x40 + tailBits b)) :: decode afterB
        else match afterB with
          | [] => [none]
          | c :: afterC =>
            if !isTail c then none :: decode (c :: afterC)
            else if following = 2 then
              some (Char.ofNat ((a.toNat % 0x10 * 0x40 + tailBits b) * 0x40 + tailBits c)) ::
                decode afterC
            else match afterC with
              | [] => [none]
              | d :: afterD =>
                if !isTail d then none :: decode (d :: afterD)
                else
                  some (Char.ofNat (((a.toNat % 0x08 * 0x40 + tailBits b) * 0x40 + tailBits c) *
                    0x40 + tailBits d)) :: decode afterD

def decodeLossy (bytes : Bytes) : List Char := (decode bytes).map (·.getD '\uFFFD')

def decode? (bytes : Bytes) : Option (List Char) := (decode bytes).mapM id

end FileSieve.Utf8
