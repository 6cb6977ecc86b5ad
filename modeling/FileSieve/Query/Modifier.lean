import FileSieve.Criteria.Basic
import FileSieve.Query.Error
import FileSieve.Query.Options
import FileSieve.Time.Literal

namespace FileSieve

namespace SizeLiteral

def comparison : List Char → SizeComparison × List Char
  | '+' :: rest => (.greater, rest)
  | '-' :: rest => (.less, rest)
  | '=' :: rest => (.equal, rest)
  | text => (.equal, text)

def unit? (text : List Char) : Option Nat :=
  match text.map Char.toUpper with
  | [] => some 1
  | ['K'] => some 1024
  | ['M'] => some (1024 * 1024)
  | ['G'] => some (1024 * 1024 * 1024)
  | ['T'] => some (1024 * 1024 * 1024 * 1024)
  | _ => none

/-- Sizes that do not fit in 64 bits are refused. -/
def parse? (text : List Char) : Option (SizeComparison × Nat) := do
  let (comparison, rest) := comparison text
  let count ← Number.natural? (rest.takeWhile Char.isDigit)
  let unit ← unit? (rest.dropWhile Char.isDigit)
  if count * unit < UInt64.size then some (comparison, count * unit) else none

end SizeLiteral

inductive Effect where
  | criteria (items : List Criterion)
  | options (options : ScanOptions)
  | loadline (name : Option String)
  deriving Repr

namespace Modifier

def leaf (test : Leaf) : Effect := .criteria [.leaf test]

def typeTests : List Char → Except ParseError (List Criterion)
  | [] => .ok []
  | letter :: rest =>
    match AttributeTest.ofLetter? letter with
    | none => .error (.invalidTypeLetter letter)
    | some test => (typeTests rest).map (.leaf (.type test) :: ·)

def dateTest (field : DateField) (text : List Char) (now : Instant) : Except ParseError Leaf :=
  let compare (comparison : DateComparison) (literal : List Char) : Except ParseError Leaf :=
    match DateLiteral.parse? literal now with
    | some reference => .ok (.date field comparison reference)
    | none => .error (.invalidDate (String.ofList literal))
  match text with
  | '+' :: literal => compare .after literal
  | '-' :: literal => compare .before literal
  | text => .error (.invalidDate (String.ofList text))

def short (lexeme : String) (payload : Option String) (now : Instant) (options : ScanOptions) :
    Except ParseError Effect :=
  match lexeme.toList.drop 1 with
  | [] => .error (.invalidModifier lexeme)
  | letter :: inline =>
    let argument := if inline = [] then (payload.getD "").toList else inline
    match letter.toLower with
    | 't' =>
      if argument = [] then .error (.missingArgument lexeme)
      else (typeTests argument).map .criteria
    | 's' =>
      match SizeLiteral.parse? argument with
      | some (comparison, bytes) => .ok (leaf (.size comparison bytes))
      | none => .error (.invalidSize (String.ofList argument))
    | 'c' => (dateTest .created argument now).map leaf
    | 'm' => (dateTest .modified argument now).map leaf
    | 'a' => (dateTest .accessed argument now).map leaf
    | 'p' => (dateTest .header argument now).map leaf
    | 'n' =>
      if argument = [] then .ok (.options { options with recursive := false })
      else .error (.invalidModifier lexeme)
    | _ => .error (.invalidModifier lexeme)

def splitItems : List Char → List (List Char)
  | [] => [[]]
  | c :: rest =>
    if c = ',' then [] :: splitItems rest
    else match splitItems rest with
      | [] => [[c]]
      | item :: items => (c :: item) :: items

def digestItem (algorithm : Algorithm) (item : List Char) : Except ParseError Bytes :=
  match (Hex.decode? item).filter (·.length = algorithm.digestLength) with
  | some digest => .ok digest
  | none => .error (.invalidHash (String.ofList item))

/-- Digests between commas; blanks around them and empty items do not count. -/
def digestList (algorithm : Algorithm) (text : List Char) : Except ParseError (List Bytes) :=
  match (splitItems text).map trimBlanks |>.filter (· ≠ []) with
  | [] => .error (.invalidHash (String.ofList text))
  | items => items.mapM (digestItem algorithm)

def hexNeedle? (text : List Char) : Option Bytes :=
  (Hex.decode? (text.filter (!isBlank ·))).filter (· ≠ [])

def sortOrder? (text : List Char) : Option SortOrder :=
  match text with
  | '-' :: name => (SortKey.ofName? name).map (⟨·, true⟩)
  | name => (SortKey.ofName? name).map (⟨·, false⟩)

def number (lexeme : String) (text : List Char) : Except ParseError Nat :=
  match Number.unsigned64? (trimBlanks text) with
  | some n => .ok n
  | none => .error (.invalidNumber lexeme (String.ofList text))

def orElse {α : Type} (error : ParseError) : Option α → Except ParseError α
  | some value => .ok value
  | none => .error error

def withPayload (lexeme name : String) (text : List Char) (options : ScanOptions) :
    Except ParseError Effect :=
  let whole := String.ofList text
  match name with
  | "contains" => .ok (leaf (.content (Utf8.encode text) false))
  | "hex" => (orElse (.invalidHex whole) (hexNeedle? text)).map fun needle => leaf (.content needle true)
  | "regex" =>
    (orElse (.invalidRegex whole) (Regex.ofChars? text)).map fun regex => leaf (.regex ⟨whole, regex⟩)
  | "skip" => .ok (leaf (.skip (SkipDirectory.ofText whole options.base)))
  | "root" =>
    .ok (.options { options with roots := options.roots ++ [options.base.join (Path.ofString whole)] })
  | "sort" =>
    (orElse (.invalidOption lexeme whole) (sortOrder? text)).map fun order =>
      .options { options with order := some order }
  | "limit" => (number lexeme text).map fun limit => .options { options with limit := some limit }
  | "timeout" =>
    (number lexeme text).map fun timeout => .options { options with timeout := some timeout }
  | "format" => .ok (.options { options with format := .template whole })
  | "encoding" =>
    (orElse (.invalidOption lexeme whole) (Encoding.ofName? text)).map fun encoding =>
      .options { options with encoding }
  | name =>
    match Algorithm.ofName? name.toList with
    | some algorithm =>
      (digestList algorithm text).map fun digests => leaf (.digest algorithm digests)
    | none => .error (.invalidModifier lexeme)

def needsPayload (name : String) : Bool :=
  ["contains", "hex", "regex", "skip", "root", "sort", "limit", "timeout", "format",
    "encoding"].contains name || (Algorithm.ofName? name.toList).isSome

def long (lexeme name : String) (payload : Option String) (options : ScanOptions) :
    Except ParseError Effect :=
  match name with
  | "loadline" => .ok (.loadline payload)
  | "long" => .ok (.options { options with format := .long })
  | "norecurse" => .ok (.options { options with recursive := false })
  | "debug" => .ok (.options { options with debug := true })
  | "progress" => .ok (.options { options with progress := true })
  | name =>
    if needsPayload name then
      match (payload.getD "").toList with
      | [] => .error (.missingArgument lexeme)
      | text => withPayload lexeme name text options
    else .error (.invalidModifier lexeme)

def interpret (lexeme : String) (payload : Option String) (now : Instant) (options : ScanOptions) :
    Except ParseError Effect :=
  match lexeme.toList with
  | '-' :: '-' :: name => long lexeme (String.ofList (name.map Char.toLower)) payload options
  | _ => short lexeme payload now options

end Modifier
end FileSieve
