import FileSieve.Regex.Basic
import FileSieve.Regex.Names
import FileSieve.Text.Basic

/-! Reading regular expressions. Flags may be set for the rest of a group or for a group of its own;
letter case is ignored from the start. Without the `u` flag classes hold ASCII only, and what could
match a part of a character is refused, as are look-around, back-references, expressions nested too
deep and those that would take too much room when compiled. -/

namespace FileSieve.Regex

structure Flags where
  ignoreCase : Bool
  multiLine : Bool
  dotNewline : Bool
  unicode : Bool
  verbose : Bool
  carriageReturn : Bool
  deriving DecidableEq, Repr

namespace Parser

def maxDepth : Nat := 250

def maxCompiledSize : Nat := 10 * 1024 * 1024

def dropSpace (comment : Bool) : List Char → List Char
  | [] => []
  | c :: rest =>
    if comment then dropSpace (c != '\n') rest
    else if isBlank c then dropSpace false rest
    else if c = '#' then dropSpace true rest
    else c :: rest

def Flags.skip (flags : Flags) (text : List Char) : List Char :=
  if flags.verbose then dropSpace false text else text

/-- A single character as written; one written with two hexadecimal digits can mean a byte. -/
structure Literal where
  code : Nat
  isByte : Bool
  deriving DecidableEq, Repr

inductive Primitive where
  | literal (literal : Literal)
  | dot
  | place (place : Place)
  | short (kind : ShortClass) (negated : Bool)
  | property (set : CharSet) (negated : Bool)
  deriving Repr

def isScalar (code : Nat) : Bool := code < 0xD800 || (0xE000 ≤ code && code < 0x110000)

def hexLiteral? (digits : List Char) (isByte : Bool) : Option Literal :=
  if digits = [] then none
  else
    let code? := digits.foldlM (fun n c => (Hex.value? c).map (16 * n + ·)) 0
    (code?.filter isScalar).map fun code => ⟨code, isByte⟩

def fixedHex? (flags : Flags) : Nat → List Char → Option (List Char × List Char)
  | 0, text => some ([], text)
  | count + 1, text =>
    match text with
    | [] => none
    | c :: rest =>
      if (Hex.value? c).isSome then
        (fixedHex? flags count (Flags.skip flags rest)).map fun (digits, rest) => (c :: digits, rest)
      else none

def braced? (verbose : Bool) : List Char → Option (List Char × List Char)
  | [] => none
  | c :: rest =>
    if c = '\x7d' then some ([], rest)
    else if verbose && isBlank c then braced? verbose rest
    else (braced? verbose rest).map fun (name, rest) => (c :: name, rest)

def hex? (flags : Flags) (kind : Char) (text : List Char) : Option (Literal × List Char) := do
  match Flags.skip flags text with
  | '\x7b' :: rest =>
    let (digits, rest) ← braced? flags.verbose rest
    return (← hexLiteral? digits false, Flags.skip flags rest)
  | text =>
    let width := if kind = 'x' then 2 else if kind = 'u' then 4 else 8
    let (digits, rest) ← fixedHex? flags width text
    return (← hexLiteral? digits (kind == 'x'), rest)

def splitOnce (separator : List Char) : List Char → Option (List Char × List Char)
  | [] => none
  | c :: rest =>
    if separator.isPrefixOf (c :: rest) then some ([], (c :: rest).drop separator.length)
    else (splitOnce separator rest).map fun (before, after) => (c :: before, after)

def propertyClass? (name : List Char) : Option (CharSet × Bool) :=
  match splitOnce ['!', '='] name, splitOnce [':'] name, splitOnce ['='] name with
  | some (property, value), _, _ => (Property.valued? property value).map (·, true)
  | none, some (property, value), _ => (Property.valued? property value).map (·, false)
  | none, none, some (property, value) => (Property.valued? property value).map (·, false)
  | none, none, none => (Property.class? name).map (·, false)

def property? (flags : Flags) (negated : Bool) (text : List Char) :
    Option (Primitive × List Char) := do
  match Flags.skip flags text with
  | [] => none
  | '\x7b' :: rest =>
    let (name, rest) ← braced? flags.verbose rest
    let (set, unequal) ← propertyClass? name
    return (.property set (negated != unequal), rest)
  | c :: rest =>
    guard (c != '\\')
    let (set, _) ← propertyClass? [c]
    return (.property set negated, Flags.skip flags rest)

/-- Braces behind `\b` name a special boundary, unless they can only count a repetition. -/
def boundary? (flags : Flags) (text : List Char) : Option (Place × List Char) :=
  let plain := some (Place.wordBoundary flags.unicode, text)
  match text with
  | '\x7b' :: rest =>
    match Flags.skip flags rest with
    | [] => none
    | c :: body =>
      if !(c.isAlpha || c == '-') then plain
      else match braced? flags.verbose (c :: body) with
        | none => none
        | some (name, rest) =>
          match String.ofList name with
          | "start" => some (.wordStart flags.unicode, rest)
          | "end" => some (.wordEnd flags.unicode, rest)
          | "start-half" => some (.noWordBefore flags.unicode, rest)
          | "end-half" => some (.noWordAfter flags.unicode, rest)
          | _ => none
  | _ => plain

def plainLiteral (c : Char) : Primitive := .literal ⟨c.toNat, false⟩

/-- What follows a backslash. Any ASCII character but letters and digits may be escaped. -/
def escape? (flags : Flags) : List Char → Option (Primitive × List Char)
  | [] => none
  | c :: rest =>
    match c with
    | 'x' | 'u' | 'U' => (hex? flags c rest).map fun (literal, rest) => (.literal literal, rest)
    | 'p' => property? flags false rest
    | 'P' => property? flags true rest
    | 'd' => some (.short .digit false, rest)
    | 'D' => some (.short .digit true, rest)
    | 's' => some (.short .blank false, rest)
    | 'S' => some (.short .blank true, rest)
    | 'w' => some (.short .word false, rest)
    | 'W' => some (.short .word true, rest)
    | 'a' => some (plainLiteral '\x07', rest)
    | 'f' => some (plainLiteral '\x0c', rest)
    | 't' => some (plainLiteral '\t', rest)
    | 'n' => some (plainLiteral '\n', rest)
    | 'r' => some (plainLiteral '\r', rest)
    | 'v' => some (plainLiteral '\x0b', rest)
    | 'A' => some (.place .textStart, rest)
    | 'z' => some (.place .textEnd, rest)
    | 'b' => (boundary? flags rest).map fun (place, rest) => (.place place, rest)
    | 'B' => some (.place (.noWordBoundary flags.unicode), rest)
    | '<' => some (.place (.wordStart flags.unicode), rest)
    | '>' => some (.place (.wordEnd flags.unicode), rest)
    | _ => if c.toNat < 0x80 && !c.isAlphanum then some (plainLiteral c, rest) else none

def foldSet (flags : Flags) (set : CharSet) : CharSet :=
  if !flags.ignoreCase then set else if flags.unicode then .anyCase set else .anyAsciiCase set

def negateIf (negated : Bool) (set : CharSet) : CharSet := if negated then .complement set else set

def isAscii (set : CharSet) : Bool := (List.range 128).all fun i => !set.contains (128 + i)

def shortSet? (flags : Flags) (kind : ShortClass) (negated : Bool) : Option CharSet :=
  if flags.unicode then some (negateIf negated (.ranges kind.unicodeRanges))
  else if negated then none
  else some (.ranges kind.asciiRanges)

def propertySet? (flags : Flags) (set : CharSet) (negated : Bool) : Option CharSet :=
  if flags.unicode then some (negateIf negated (foldSet flags set)) else none

def classCode? (flags : Flags) (literal : Literal) : Option Nat :=
  if flags.unicode ∨ literal.isByte ∨ literal.code < 0x80 then some literal.code else none

inductive Operator where
  | intersection
  | difference
  | symmetricDifference
  deriving DecidableEq, Repr

/-- Each operand is closed under case before the operation. -/
def operate (flags : Flags) (operator : Operator) (left right : CharSet) : CharSet :=
  let left := foldSet flags left
  let right := foldSet flags right
  match operator with
  | .intersection => .intersection left right
  | .difference => .difference left right
  | .symmetricDifference => .symmetricDifference left right

structure OpenClass where
  negated : Bool
  items : CharSet
  pending : Option (CharSet × Operator)
  deriving Repr

def OpenClass.add (current : OpenClass) (set : CharSet) : OpenClass :=
  { current with items := .union current.items set }

def OpenClass.value (flags : Flags) (current : OpenClass) : CharSet :=
  match current.pending with
  | none => current.items
  | some (left, operator) => operate flags operator left current.items

def OpenClass.operator (flags : Flags) (current : OpenClass) (operator : Operator) : OpenClass :=
  { current with items := .none, pending := some (current.value flags, operator) }

def OpenClass.close (flags : Flags) (current : OpenClass) : CharSet :=
  negateIf current.negated (foldSet flags (current.value flags))

def leadingHyphens (flags : Flags) : List Char → Nat × List Char
  | [] => (0, [])
  | c :: rest =>
    if c = '-' then
      let (count, rest) := leadingHyphens flags rest
      (count + 1, rest)
    else if flags.verbose && isBlank c then leadingHyphens flags rest
    else (0, c :: rest)

/-- What comes after an opening bracket. Hyphens at the start and a bracket that would close an empty
class are literal. -/
def openClass (flags : Flags) (text : List Char) : OpenClass × List Char :=
  let text := Flags.skip flags text
  let (negated, text) := match text with
    | '^' :: rest => (true, Flags.skip flags rest)
    | text => (false, text)
  let (hyphens, text) := leadingHyphens flags text
  let items := if hyphens = 0 then CharSet.none else .single '-'.toNat
  match hyphens, text with
  | 0, ']' :: rest => (⟨negated, .single ']'.toNat, none⟩, Flags.skip flags rest)
  | _, text => (⟨negated, items, none⟩, text)

def bracketedName? (flags : Flags) (text : List Char) : Option (CharSet × List Char) := do
  let rest ← match text with
    | ':' :: rest => some rest
    | _ => none
  let (negated, rest) := match rest with
    | '^' :: rest => (true, rest)
    | rest => (false, rest)
  let (name, rest) ← splitOnce [':', ']'] rest
  guard (!name.contains ':')
  let (_, ranges) ← bracketedNames.find? (·.1.toList == name)
  return (negateIf negated (foldSet flags (.ranges ranges)), rest)

def classItem? (flags : Flags) : List Char → Option (Primitive × List Char)
  | [] => none
  | '\\' :: rest => escape? flags rest
  | c :: rest => some (plainLiteral c, rest)

def itemSet? (flags : Flags) : Primitive → Option CharSet
  | .literal literal => (classCode? flags literal).map .single
  | .short kind negated => shortSet? flags kind negated
  | .property set negated => propertySet? flags set negated
  | .dot | .place _ => none

def itemCode? (flags : Flags) : Primitive → Option Nat
  | .literal literal => classCode? flags literal
  | _ => none

/-- A single item or a range of literals. A hyphen in front of a bracket or another hyphen makes no
range. -/
def classRange? (flags : Flags) (text : List Char) : Option (CharSet × List Char) := do
  let (first, rest) ← classItem? flags text
  let rest := Flags.skip flags rest
  match rest with
  | [] => none
  | '-' :: behind =>
    let behind := Flags.skip flags behind
    match behind with
    | [] => none
    | ']' :: _ | '-' :: _ => return (← itemSet? flags first, rest)
    | behind =>
      let (last, rest) ← classItem? flags behind
      let low ← itemCode? flags first
      let high ← itemCode? flags last
      guard (low ≤ high)
      return (.ranges [(low, high)], rest)
  | rest => return (← itemSet? flags first, rest)

def readClass? (flags : Flags) (current : OpenClass) (outer : List OpenClass) (text : List Char) :
    Option (CharSet × Nat × List Char) :=
  let text' := Flags.skip flags text
  let next? : Option (OpenClass × List OpenClass × List Char) :=
    match text' with
    | '[' :: rest =>
      match bracketedName? flags rest with
      | some (set, rest) => some (current.add set, outer, rest)
      | none =>
        let (inner, rest) := openClass flags rest
        some (inner, current :: outer, rest)
    | ']' :: rest =>
      match outer with
      | [] => none
      | parent :: outer => some (parent.add (current.close flags), outer, rest)
    | '&' :: '&' :: rest => some (current.operator flags .intersection, outer, rest)
    | '-' :: '-' :: rest => some (current.operator flags .difference, outer, rest)
    | '~' :: '~' :: rest => some (current.operator flags .symmetricDifference, outer, rest)
    | text => (classRange? flags text).map fun (set, rest) => (current.add set, outer, rest)
  match outer, text' with
  | [], ']' :: rest => some (current.close flags, 0, rest)
  | _, _ =>
    match next? with
    | none => none
    | some (current, outer, rest) =>
      if rest.length < text.length then
        (readClass? flags current outer rest).map fun (set, depth, rest) =>
          (set, max depth outer.length, rest)
      else none
termination_by text.length

/-- A part of the expression that has been read. Flag settings are parts that can not be repeated. -/
structure Part where
  regex : Regex
  depth : Nat
  repeatable : Bool
  deriving Repr

structure Group where
  alternatives : List Part
  parts : List Part
  restored : Flags
  deriving Repr

structure State where
  rest : List Char
  flags : Flags
  group : Group
  outer : List Group
  names : List (List Char)
  deriving Repr

def joinParts (parts : List Part) : Part :=
  match parts.reverse with
  | [] => ⟨.empty, 0, true⟩
  | [part] => part
  | part :: more =>
    { regex := more.foldl (fun regex part => .sequence regex part.regex) part.regex
      depth := (part :: more).foldl (fun depth part => max depth part.depth) 0 + 1
      repeatable := true }

def Group.close (group : Group) : Part :=
  match (joinParts group.parts :: group.alternatives).reverse with
  | [] => ⟨.empty, 0, true⟩
  | [part] => part
  | part :: more =>
    { regex := more.foldl (fun regex part => .either regex part.regex) part.regex
      depth := (part :: more).foldl (fun depth part => max depth part.depth) 0 + 1
      repeatable := true }

def State.add (state : State) (part : Part) (rest : List Char) : State :=
  { state with rest, group := { state.group with parts := part :: state.group.parts } }

def literalRegex? (flags : Flags) (literal : Literal) : Option Regex :=
  if flags.unicode then
    let variants := if flags.ignoreCase then Unicode.caseVariants literal.code else [literal.code]
    some (.oneOf (.ranges (variants.map fun code => (code, code))))
  else if literal.isByte ∧ 0x80 ≤ literal.code then none
  else
    let variants := if flags.ignoreCase then CharSet.asciiVariants literal.code else [literal.code]
    some (.oneOf (.ranges (variants.map fun code => (code, code))))

def dotRegex? (flags : Flags) : Option Regex :=
  if !flags.unicode then none
  else if flags.dotNewline then some (.oneOf (.complement .none))
  else if flags.carriageReturn then some (.oneOf (.complement (.ofChars ['\r', '\n'])))
  else some (.oneOf (.complement (.ofChars ['\n'])))

def primitiveRegex? (flags : Flags) : Primitive → Option Regex
  | .literal literal => literalRegex? flags literal
  | .dot => dotRegex? flags
  | .place place => some (.anchor place)
  | .short kind negated => (shortSet? flags kind negated).map .oneOf
  | .property set negated => (propertySet? flags set negated).map .oneOf

inductive FlagItem where
  | negation
  | flag (letter : Char)
  deriving DecidableEq, Repr

/-- Flag letters up to the colon or parenthesis behind them. No item comes twice, and the negation
does not come last. -/
def flagItems? (items : List FlagItem) : List Char → Option (List FlagItem × Char × List Char)
  | [] => none
  | c :: rest =>
    if c = ':' ∨ c = ')' then
      if items.getLast? = some .negation then none else some (items, c, rest)
    else
      let item := if c = '-' then FlagItem.negation else .flag c
      if items.contains item ∨ !("-imsUuRx".toList.contains c) then none
      else flagItems? (items ++ [item]) rest

def Flags.set (flags : Flags) (letter : Char) (value : Bool) : Flags :=
  match letter with
  | 'i' => { flags with ignoreCase := value }
  | 'm' => { flags with multiLine := value }
  | 's' => { flags with dotNewline := value }
  | 'u' => { flags with unicode := value }
  | 'x' => { flags with verbose := value }
  | 'R' => { flags with carriageReturn := value }
  | _ => flags

def applyFlags (flags : Flags) (value : Bool) : List FlagItem → Flags
  | [] => flags
  | .negation :: rest => applyFlags flags false rest
  | .flag letter :: rest => applyFlags (Flags.set flags letter value) value rest

/-- A group name starts with a letter or an underscore and goes on with those, digits, dots and
brackets. -/
def isNameStart (c : Char) : Bool := c == '_' || Unicode.isAlphabetic c

def isNameChar (c : Char) : Bool :=
  isNameStart c || c == '.' || c == '[' || c == ']' ||
    [.decimalNumber, .letterNumber, .otherNumber].contains (Unicode.Category.ofChar c)

def groupName? (names : List (List Char)) (text : List Char) : Option (List Char × List Char) := do
  let (name, rest) ← splitOnce ['>'] text
  let first ← name.head?
  guard (isNameStart first && name.all isNameChar && !names.contains name)
  return (name, rest)

def State.openGroup (state : State) (flags : Flags) (rest : List Char) : State :=
  { state with
    rest, flags
    group := ⟨[], [], state.flags⟩
    outer := state.group :: state.outer }

def isLookAround (text : List Char) : Bool :=
  [['?', '='], ['?', '!'], ['?', '<', '='], ['?', '<', '!']].any (·.isPrefixOf text)

def State.parenthesis? (state : State) (text : List Char) : Option State := do
  let text := Flags.skip state.flags text
  guard (!isLookAround text)
  match text with
  | '?' :: 'P' :: '<' :: rest | '?' :: '<' :: rest =>
    let (name, rest) ← groupName? state.names rest
    return { state.openGroup state.flags rest with names := name :: state.names }
  | '?' :: rest =>
    let (items, ending, rest) ← flagItems? [] rest
    let flags := applyFlags state.flags true items
    if ending = ')' then
      guard (items ≠ [])
      return { state.add ⟨.empty, 0, false⟩ rest with flags }
    else return state.openGroup flags rest
  | rest => return state.openGroup state.flags rest

def State.closeGroup? (state : State) (rest : List Char) : Option State :=
  match state.outer with
  | [] => none
  | group :: outer =>
    let part := state.group.close
    let closed : Part := ⟨part.regex, part.depth + 1, true⟩
    some { state with
      rest, outer
      flags := state.group.restored
      group := { group with parts := closed :: group.parts } }

def State.alternative (state : State) (rest : List Char) : State :=
  { state with
    rest
    group := { state.group with
      alternatives := joinParts state.group.parts :: state.group.alternatives
      parts := [] } }

def State.repeat? (state : State) (least : Nat) (most : Option Nat) (rest : List Char) :
    Option State :=
  match state.group.parts with
  | [] => none
  | part :: parts =>
    if !part.repeatable then none
    else
      let rest := match rest with
        | '?' :: rest => rest
        | rest => rest
      let repeated : Part := ⟨.repeated part.regex least most, part.depth + 1, true⟩
      some { state with rest, group := { state.group with parts := repeated :: parts } }

def count? (flags : Flags) (text : List Char) : Option (Nat × List Char) :=
  let text := dropBlanks text
  let digits := text.takeWhile fun c => c.isDigit || (flags.verbose && isBlank c)
  let rest := dropBlanks (text.drop digits.length)
  ((Number.natural? (digits.filter Char.isDigit)).filter (· < UInt32.size)).map (·, rest)

def State.counted? (state : State) (text : List Char) : Option State := do
  let (least, rest) ← count? state.flags (Flags.skip state.flags text)
  match rest with
  | ',' :: rest =>
    match Flags.skip state.flags rest with
    | '\x7d' :: rest => state.repeat? least none (Flags.skip state.flags rest)
    | rest =>
      let (most, rest) ← count? state.flags rest
      guard (least ≤ most)
      match rest with
      | '\x7d' :: rest => state.repeat? least (some most) (Flags.skip state.flags rest)
      | _ => none
  | '\x7d' :: rest => state.repeat? least (some least) (Flags.skip state.flags rest)
  | _ => none

def State.bracket? (state : State) (text : List Char) : Option State := do
  let (opened, rest) := openClass state.flags text
  let (set, depth, rest) ← readClass? state.flags opened [] rest
  guard (state.flags.unicode || isAscii set)
  return state.add ⟨.oneOf set, depth + 1, true⟩ rest

def State.primitive? (state : State) (text : List Char) : Option State := do
  let (primitive, rest) ← match text with
    | [] => none
    | '\\' :: rest => escape? state.flags rest
    | '.' :: rest => some (.dot, rest)
    | '^' :: rest =>
      let place := if state.flags.multiLine then .lineStart state.flags.carriageReturn else .textStart
      some (.place place, rest)
    | '$' :: rest =>
      let place := if state.flags.multiLine then .lineEnd state.flags.carriageReturn else .textEnd
      some (.place place, rest)
    | c :: rest => some (plainLiteral c, rest)
  return state.add ⟨← primitiveRegex? state.flags primitive, 0, true⟩ rest

def State.next? (state : State) (text : List Char) : Option State :=
  match text with
  | '(' :: rest => state.parenthesis? rest
  | ')' :: rest => state.closeGroup? rest
  | '|' :: rest => some (state.alternative rest)
  | '[' :: rest => state.bracket? rest
  | '?' :: rest => state.repeat? 0 (some 1) rest
  | '*' :: rest => state.repeat? 0 none rest
  | '+' :: rest => state.repeat? 1 none rest
  | '\x7b' :: rest => state.counted? rest
  | text => state.primitive? text

def read? (state : State) : Option Part :=
  match Flags.skip state.flags state.rest with
  | [] => if state.outer.isEmpty then some state.group.close else none
  | text =>
    match state.next? text with
    | none => none
    | some next => if next.rest.length < state.rest.length then read? next else none
termination_by state.rest.length

def initialFlags : Flags :=
  { ignoreCase := true, multiLine := false, dotNewline := false
    unicode := true, verbose := false, carriageReturn := false }

end Parser

def ofChars? (text : List Char) : Option Regex := do
  let part ← Parser.read? ⟨text, Parser.initialFlags, ⟨[], [], Parser.initialFlags⟩, [], []⟩
  guard (part.depth ≤ Parser.maxDepth && part.regex.compiledSize ≤ Parser.maxCompiledSize)
  return part.regex

end FileSieve.Regex
