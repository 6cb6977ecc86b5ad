import FileSieve.Criteria.Pattern

/-! Globs as they are written. Besides wildcards there are sets of characters in brackets and alternatives in braces; a
backslash is a character like any other. A pattern has wildcards only, so what would begin or end a set or alternatives
is written as a set of its own. -/

namespace FileSieve

inductive GlobToken where
  | literal (c : Char)
  | one
  | many
  | leading
  | middle
  | trailing
  | oneOf (negated : Bool) (ranges : List (Char × Char))
  | alternatives (branches : List (List GlobToken))
  deriving Repr

inductive GlobError where
  | unclosedSet
  | invalidRange (first last : Char)
  | unopenedAlternatives
  | unclosedAlternatives
  deriving DecidableEq, Repr

namespace GlobSyntax

/-- A set of which not all is read: its ranges, last one first, and whether a dash continues the last one. -/
structure OpenSet where
  negated : Bool
  ranges : List (Char × Char)
  continued : Bool
  deriving Repr

namespace OpenSet

def empty : OpenSet := ⟨false, [], false⟩

/-- What comes first in a set may negate it, and a dash behind a character continues it to a range. -/
def step (set : OpenSet) (c : Char) : Except GlobError OpenSet :=
  match set.ranges with
  | [] =>
    if !set.negated && (c = '!' || c = '^') then .ok { set with negated := true }
    else .ok { set with ranges := [(c, c)] }
  | (first, last) :: ranges =>
    if set.continued then
      if c < first then .error (.invalidRange first c)
      else .ok { set with ranges := (first, c) :: ranges, continued := false }
    else if c = '-' then .ok { set with continued := true }
    else .ok { set with ranges := (c, c) :: (first, last) :: ranges }

def token (set : OpenSet) : GlobToken :=
  .oneOf set.negated (if set.continued then ('-', '-') :: set.ranges else set.ranges).reverse

end OpenSet

structure OpenAlternatives where
  before : List GlobToken
  branches : List (List GlobToken)
  deriving Repr

/-- What is read of a glob: open alternatives, innermost first, the tokens of the last branch, last one first, and
whether a separator came last. -/
structure Reading where
  opened : List OpenAlternatives
  tokens : List GlobToken
  behindSeparator : Bool
  deriving Repr

namespace Reading

def empty : Reading := ⟨[], [], false⟩

def push (reading : Reading) (token : GlobToken) : Reading :=
  { reading with tokens := token :: reading.tokens, behindSeparator := false }

def literal (reading : Reading) (c : Char) : Reading :=
  { reading with tokens := .literal c :: reading.tokens, behindSeparator := c = '/' }

def merged (last token : GlobToken) : GlobToken :=
  match last with
  | .leading => .leading
  | .trailing => .trailing
  | _ => token

/-- Double stars that are a component of their own take up the separator in front of them, and the one behind. -/
def doubleStar? (reading : Reading) (next : Option Char) : Option Reading :=
  match reading.tokens with
  | [] => if next = none ∨ next = some '/' then some ⟨reading.opened, [.leading], true⟩ else none
  | last :: before =>
    if !reading.behindSeparator then none
    else if next = some '/' then some ⟨reading.opened, merged last .middle :: before, true⟩
    else if next = none ∨ (reading.opened ≠ [] ∧ (next = some ',' ∨ next = some '\x7d')) then
      some ⟨reading.opened, merged last .trailing :: before, false⟩
    else none

def openBrace (reading : Reading) : Reading := ⟨⟨reading.tokens, []⟩ :: reading.opened, [], false⟩

def comma (reading : Reading) : Reading :=
  match reading.opened with
  | [] => reading.literal ','
  | innermost :: outer =>
    ⟨{ innermost with branches := reading.tokens.reverse :: innermost.branches } :: outer, [], false⟩

def closeBrace (reading : Reading) : Except GlobError Reading :=
  match reading.opened with
  | [] => .error .unopenedAlternatives
  | innermost :: outer =>
    let branches := (reading.tokens.reverse :: innermost.branches).reverse
    .ok ⟨outer, .alternatives branches :: innermost.before, false⟩

def step (reading : Reading) (c : Char) : Except GlobError Reading :=
  match c with
  | '*' => .ok (reading.push .many)
  | '?' => .ok (reading.push .one)
  | '\x7b' => .ok reading.openBrace
  | ',' => .ok reading.comma
  | '\x7d' => reading.closeBrace
  | c => .ok (reading.literal c)

def finish (reading : Reading) : Except GlobError (List GlobToken) :=
  match reading.opened, reading.tokens with
  | [], [.leading] => .ok [.many]
  | [], tokens => .ok tokens.reverse
  | _ :: _, _ => .error .unclosedAlternatives

end Reading

mutual

def read (reading : Reading) : List Char → Except GlobError (List GlobToken)
  | [] => reading.finish
  | '*' :: '*' :: rest =>
    match reading.doubleStar? rest.head?, rest with
    | none, rest => read ((reading.push .many).push .many) rest
    | some starred, '/' :: rest => read starred rest
    | some starred, rest => read starred rest
  | c :: rest =>
    if c = '[' then readSet reading .empty rest
    else match reading.step c with
      | .error failure => .error failure
      | .ok reading => read reading rest

def readSet (reading : Reading) (set : OpenSet) : List Char → Except GlobError (List GlobToken)
  | [] => .error .unclosedSet
  | c :: rest =>
    if c = ']' && !set.ranges.isEmpty then read (reading.push set.token) rest
    else match set.step c with
      | .error failure => .error failure
      | .ok set => readSet reading set rest

end

def parse (text : List Char) : Except GlobError (List GlobToken) := read .empty text

def isBracket (c : Char) : Bool := c = '[' || c = ']' || c = '\x7b' || c = '\x7d'

def escape (text : List Char) : List Char := text.flatMap fun c => if isBracket c then ['[', c, ']'] else [c]

end GlobSyntax

/-! What tokens match, byte by byte and up to the case of ASCII letters. -/

namespace GlobToken

/-- A range spells its ends byte by byte, so that a set stands for single bytes only. -/
def byteRanges (range : Char × Char) : List (UInt8 × UInt8) :=
  let single (byte : UInt8) := (byte, byte)
  let first := String.utf8EncodeChar range.1
  if range.1 = range.2 then first.map single
  else match first.reverse, String.utf8EncodeChar range.2 with
    | lower :: before, upper :: behind => before.reverse.map single ++ (lower, upper) :: behind.map single
    | _, _ => []

def otherCase (byte : UInt8) : UInt8 :=
  if 0x61 ≤ byte && byte ≤ 0x7A then byte - 0x20 else Bytes.lowerByte byte

def holds (ranges : List (Char × Char)) (byte : UInt8) : Bool :=
  (ranges.flatMap byteRanges).any fun (lower, upper) =>
    (lower ≤ byte && byte ≤ upper) || (lower ≤ otherCase byte && otherCase byte ≤ upper)

mutual

def isVoid : GlobToken → Bool
  | .alternatives branches => allVoid branches
  | _ => false

def areVoid : List GlobToken → Bool
  | [] => true
  | token :: tokens => token.isVoid && areVoid tokens

def allVoid : List (List GlobToken) → Bool
  | [] => true
  | branch :: branches => areVoid branch && allVoid branches

end

mutual

def starts (test : Bytes → Bool) : GlobToken → Bytes → Bool
  | .literal c =>
    (String.utf8EncodeChar c).foldr (fun byte => Glob.afterByte (Bytes.lowerByte · == Bytes.lowerByte byte)) test
  | .one => Glob.startedBy test .one
  | .many => Glob.startedBy test .many
  | .leading => Glob.startedBy test .leading
  | .middle => Glob.startedBy test .middle
  | .trailing => Glob.startedBy test .trailing
  | .oneOf negated ranges => Glob.afterByte (fun byte => negated != holds ranges byte) test
  | .alternatives branches => if allVoid branches then test else startsSome test branches

def startsAll (test : Bytes → Bool) : List GlobToken → Bytes → Bool
  | [] => test
  | token :: tokens => token.starts (startsAll test tokens)

/-- Branches that spell nothing do not count beside others. -/
def startsSome (test : Bytes → Bool) : List (List GlobToken) → Bytes → Bool
  | [] => fun _ => false
  | branch :: branches => fun text =>
    (!areVoid branch && startsAll test branch text) || startsSome test branches text

end

def accept (tokens : List GlobToken) (text : Bytes) : Bool := startsAll List.isEmpty tokens text

end GlobToken

/-- A pattern by the glob that its text is spelled as. -/
structure CompiledPattern where
  tokens : List GlobToken
  wholePath : Bool
  deriving Repr

namespace PathPattern

def target (text : String) (base : Path) : List Char :=
  let normalized := PathText.normalize text.toList
  if normalized.contains '/' then PathText.absolute base normalized else normalized

theorem ofText_glob (text : String) (base : Path) :
    (ofText text base).glob = Glob.ofBytes (Utf8.encode (target text base)) := rfl

def compile? (text : String) (base : Path) : Except GlobError CompiledPattern :=
  match GlobSyntax.parse (GlobSyntax.escape (target text base)) with
  | .error failure => .error failure
  | .ok tokens => .ok ⟨tokens, (PathText.normalize text.toList).contains '/'⟩

def candidate? (wholePath : Bool) (path : Path) : Option Bytes :=
  if wholePath then some (Utf8.encode (PathText.ofPath path))
  else path.fileName?.map fun name => Utf8.encode (Utf8.decodeLossy name)

end PathPattern

def CompiledPattern.matches (pattern : CompiledPattern) (path : Path) : Bool :=
  (PathPattern.candidate? pattern.wholePath path).any (GlobToken.accept pattern.tokens)

end FileSieve
