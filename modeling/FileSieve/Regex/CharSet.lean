import FileSieve.Unicode.Folding

namespace FileSieve.Regex

inductive CharSet where
  | ranges (ranges : Unicode.Ranges)
  | union (left right : CharSet)
  | intersection (left right : CharSet)
  | difference (left right : CharSet)
  | symmetricDifference (left right : CharSet)
  | complement (set : CharSet)
  | anyCase (set : CharSet)
  | anyAsciiCase (set : CharSet)
  deriving Repr

namespace CharSet

def asciiVariants (code : Nat) : List Nat :=
  if 0x41 ≤ code ∧ code ≤ 0x5A then [code, code + 0x20]
  else if 0x61 ≤ code ∧ code ≤ 0x7A then [code, code - 0x20]
  else [code]

def contains : CharSet → Nat → Bool
  | ranges set, code => set.contains code
  | union left right, code => left.contains code || right.contains code
  | intersection left right, code => left.contains code && right.contains code
  | difference left right, code => left.contains code && !right.contains code
  | symmetricDifference left right, code => left.contains code != right.contains code
  | complement set, code => !set.contains code
  | anyCase set, code => (Unicode.caseVariants code).any set.contains
  | anyAsciiCase set, code => (asciiVariants code).any set.contains

def rangeCount : CharSet → Nat
  | ranges set => set.length
  | union left right | intersection left right | difference left right
  | symmetricDifference left right => left.rangeCount + right.rangeCount
  | complement set => set.rangeCount + 1
  | anyCase set | anyAsciiCase set => 2 * set.rangeCount

def none : CharSet := ranges []

def single (code : Nat) : CharSet := ranges [(code, code)]

def ofChars (chars : List Char) : CharSet := ranges (chars.map fun c => (c.toNat, c.toNat))

end CharSet
end FileSieve.Regex
