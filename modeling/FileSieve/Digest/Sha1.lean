import FileSieve.Digest.Message

namespace FileSieve.Digest.Sha1

structure State where
  a : UInt32
  b : UInt32
  c : UInt32
  d : UInt32
  e : UInt32

def initial : State := ⟨0x67452301, 0xEFCDAB89, 0x98BADCFE, 0x10325476, 0xC3D2E1F0⟩

def wordOf (bytes : Bytes) : UInt32 := UInt32.ofNat (Bytes.littleEndian bytes.reverse)

def schedule (block : Bytes) : Array UInt32 :=
  (List.range 64).foldl (fun words i =>
    let t := i + 16
    words.push (rotl32 (words.getD (t - 3) 0 ^^^ words.getD (t - 8) 0 ^^^
      words.getD (t - 14) 0 ^^^ words.getD (t - 16) 0) 1))
    ((chunksOf 4 block).map wordOf).toArray

def step (words : Array UInt32) (s : State) (i : Nat) : State :=
  let (mixed, constant) :=
    if i < 20 then ((s.b &&& s.c) ||| (~~~s.b &&& s.d), 0x5A827999)
    else if i < 40 then (s.b ^^^ s.c ^^^ s.d, 0x6ED9EBA1)
    else if i < 60 then ((s.b &&& s.c) ||| (s.b &&& s.d) ||| (s.c &&& s.d), 0x8F1BBCDC)
    else (s.b ^^^ s.c ^^^ s.d, (0xCA62C1D6 : UInt32))
  ⟨rotl32 s.a 5 + mixed + s.e + constant + words.getD i 0, s.a, rotl32 s.b 30, s.c, s.d⟩

def absorb (s : State) (block : Bytes) : State :=
  let t := (List.range 80).foldl (step (schedule block)) s
  ⟨s.a + t.a, s.b + t.b, s.c + t.c, s.d + t.d, s.e + t.e⟩

def hash (message : Bytes) : Bytes :=
  let padded := message ++ padding 64 8 message.length ++ (bytesOf 8 (8 * message.length)).reverse
  let s := (chunksOf 64 padded).foldl absorb initial
  [s.a, s.b, s.c, s.d, s.e].flatMap fun word => (bytesOf 4 word.toNat).reverse

end FileSieve.Digest.Sha1
