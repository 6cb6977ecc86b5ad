namespace FileSieve.Unicode

abbrev Ranges := List (Nat × Nat)

namespace Ranges

def contains (ranges : Ranges) (code : Nat) : Bool :=
  ranges.any fun (first, last) => first ≤ code && code ≤ last

def hexDigit (c : Char) : Nat :=
  if c.isDigit then c.toNat - '0'.toNat else c.toNat - 'A'.toNat + 10

def close (first bound : Option Nat) : Ranges :=
  match bound with
  | some last => [(first.getD last, last)]
  | none => []

def ofChars (first bound : Option Nat) : List Char → Ranges
  | [] => close first bound
  | c :: rest =>
    if c = '-' then ofChars bound none rest
    else if c.isWhitespace then close first bound ++ ofChars none none rest
    else ofChars first (some (16 * bound.getD 0 + hexDigit c)) rest

def ofText (text : String) : Ranges := ofChars none none text.toList

end Ranges
end FileSieve.Unicode
