import FileSieve.Bytes

namespace FileSieve.Digest

def bytesOf (count n : Nat) : Bytes := (List.range count).map fun i => UInt8.ofNat (n >>> (8 * i))

theorem length_bytesOf (count n : Nat) : (bytesOf count n).length = count := by
  rw [bytesOf, List.length_map, List.length_range]

/-- A one bit, then zeros up to the place of the bit count that ends the last block. -/
def padding (block count length : Nat) : Bytes :=
  0x80 :: List.replicate ((2 * block - 1 - count - length % block) % block) 0

def chunksOf (size : Nat) (bytes : Bytes) : List Bytes :=
  if _last : size = 0 ∨ bytes.drop size = [] then [bytes]
  else bytes.take size :: chunksOf size (bytes.drop size)
termination_by bytes.length
decreasing_by
  have longer : ¬bytes.length ≤ size := fun within => _last (.inr (List.drop_eq_nil_iff.mpr within))
  simp only [List.length_drop]
  omega

def rotl32 (x n : UInt32) : UInt32 := (x <<< n) ||| (x >>> (32 - n))

def rotr32 (x n : UInt32) : UInt32 := (x >>> n) ||| (x <<< (32 - n))

def rotr64 (x n : UInt64) : UInt64 := (x >>> n) ||| (x <<< (64 - n))

end FileSieve.Digest
