import FileSieve.Regex.CharSet

/-! Regular expressions and where they match. Only whether a match exists is asked for, so groups and
greed do not matter, and an expression takes a set of positions to the set of positions where its
matches from them end. -/

namespace FileSieve

inductive Regex.Place where
  | textStart
  | textEnd
  | lineStart (carriageReturn : Bool)
  | lineEnd (carriageReturn : Bool)
  | wordBoundary (unicode : Bool)
  | noWordBoundary (unicode : Bool)
  | wordStart (unicode : Bool)
  | wordEnd (unicode : Bool)
  | noWordBefore (unicode : Bool)
  | noWordAfter (unicode : Bool)
  deriving DecidableEq, Repr

inductive Regex where
  | empty
  | oneOf (set : Regex.CharSet)
  | anchor (place : Regex.Place)
  | sequence (first second : Regex)
  | either (left right : Regex)
  | repeated (inner : Regex) (least : Nat) (most : Option Nat)
  deriving Repr

namespace Regex

namespace Place

def isAsciiWord (c : Char) : Bool := c.isAlphanum || c == '_'

def isWord (unicode : Bool) (c : Option Char) : Bool :=
  c.any (if unicode then Unicode.isWordChar else isAsciiWord)

def lies (before after : Option Char) : Place → Bool
  | textStart => before.isNone
  | textEnd => after.isNone
  | lineStart false => before.isNone || before == some '\n'
  | lineStart true =>
    before.isNone || before == some '\n' || (before == some '\r' && after != some '\n')
  | lineEnd false => after.isNone || after == some '\n'
  | lineEnd true =>
    after.isNone || after == some '\r' || (after == some '\n' && before != some '\r')
  | wordBoundary unicode => isWord unicode before != isWord unicode after
  | noWordBoundary unicode => isWord unicode before == isWord unicode after
  | wordStart unicode => !isWord unicode before && isWord unicode after
  | wordEnd unicode => isWord unicode before && !isWord unicode after
  | noWordBefore unicode => !isWord unicode before
  | noWordAfter unicode => !isWord unicode after

end Place

def charBefore (text : Array Char) (position : Nat) : Option Char :=
  if position = 0 then none else text[position - 1]?

def merge (left right : List Nat) : List Nat := left ++ right.filter (!left.contains ·)

def rounds (advance : List Nat → List Nat) : Nat → List Nat → List Nat
  | 0, positions => positions
  | count + 1, positions =>
    if positions.isEmpty then [] else rounds advance count (advance positions)

/-- Up to `count` further rounds, until none of them reaches a new position. -/
def closure (advance : List Nat → List Nat) : Nat → List Nat → List Nat
  | 0, positions => positions
  | count + 1, positions =>
    let reached := merge positions (advance positions)
    if reached.length = positions.length then positions else closure advance count reached

def ends (text : Array Char) : Regex → List Nat → List Nat
  | empty, positions => positions
  | oneOf set, positions =>
    (positions.filter fun position => text[position]?.any (set.contains ·.toNat)).map (· + 1)
  | anchor place, positions =>
    positions.filter fun position => place.lies (charBefore text position) text[position]?
  | sequence first second, positions => ends text second (ends text first positions)
  | either left right, positions => merge (ends text left positions) (ends text right positions)
  | repeated inner least most, positions =>
    let further := match most with
      | some most => min (most - least) (text.size + 1)
      | none => text.size + 1
    closure (ends text inner) further (rounds (ends text inner) least positions)

def «matches» (regex : Regex) (text : List Char) : Bool :=
  !(ends text.toArray regex (List.range (text.length + 1))).isEmpty

/-- Bytes that the compiled expression takes up, about. -/
def compiledSize : Regex → Nat
  | empty => 32
  | anchor _ => 32
  | oneOf set => if set.rangeCount = 1 then 32 else 64 + 8 * set.rangeCount
  | sequence first second | either first second => first.compiledSize + second.compiledSize
  | repeated inner least most =>
    let copies := match most with
      | some most => max least most
      | none => least + 1
    (inner.compiledSize + if most = some least then 0 else 32) * copies

end Regex
end FileSieve
