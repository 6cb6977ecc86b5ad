import FileSieve.Query.Parser
import FileSieve.Query.Scanner

/-! Command lines read by place. A text is cut where its reader found something, bytes and tokens are taken by their
number, and a loadline is spliced in at the cursor; nothing comes out where one of these is out of range. -/

namespace FileSieve.Sliced

def isLetter (byte : UInt8) : Bool := (0x41 ≤ byte && byte ≤ 0x5A) || (0x61 ≤ byte && byte ≤ 0x7A)

def isAbsolute? (text : List Char) : Ranged Bool := do
  let bytes := Utf8.encode text
  if text.head? = some '/' then return true
  else if bytes.length < 2 then return false
  else if isLetter (← bytes[0]?) then return (← bytes[1]?) == 0x3A
  else return false

def absolute? (base : Path) (text : List Char) : Ranged (List Char) := do
  if ← isAbsolute? text then return text
  else return PathText.dropFinalSeparators (PathText.ofPath base) ++ '/' :: PathText.dropCurrent text

def literalRoot? (target : List Char) : Ranged (Option (List Char)) := do
  let stop := (Slice.find? PathPattern.isWildcard target).getD (Slice.size target)
  match Slice.findLast? '/' (← Slice.upTo? target stop) with
  | none => return none
  | some slash => return some (← Slice.upTo? target (slash + 1))

def pattern? (text : String) (base : Path) : Ranged PathPattern := do
  let normalized := PathText.normalize text.toList
  let wholePath := normalized.contains '/'
  let target ← if wholePath then absolute? base normalized else some normalized
  let root ← if wholePath then literalRoot? target else some none
  return { text, wholePath, glob := Glob.ofBytes (Utf8.encode target), root, pruning := true }

def skipDirectory? (text : String) (base : Path) : Ranged SkipDirectory := do
  let normalized := PathText.normalize text.toList
  if normalized.contains '/' then
    let target ← absolute? base normalized
    return { text, rule := .directory (PathText.closed (Unicode.lowercase target)) }
  else return { text, rule := .name (Unicode.lowercase normalized) }

def comparison? (text : List Char) : Ranged (SizeComparison × List Char) :=
  match text.head? with
  | some '+' => (Slice.from? text 1).map (.greater, ·)
  | some '-' => (Slice.from? text 1).map (.less, ·)
  | some '=' => (Slice.from? text 1).map (.equal, ·)
  | _ => some (.equal, text)

def size? (text : List Char) : Ranged (Option (SizeComparison × Nat)) := do
  let (comparison, rest) ← comparison? text
  let stop := (Slice.find? (!·.isDigit) rest).getD (Slice.size rest)
  let digits ← Slice.upTo? rest stop
  let suffix ← Slice.from? rest stop
  return do
    let count ← Number.natural? digits
    let unit ← SizeLiteral.unit? suffix
    if count * unit < UInt64.size then some (comparison, count * unit) else none

def dateTest? (field : DateField) (text : List Char) (now : Instant) : Ranged (Except ParseError Leaf) := do
  let compare (comparison : DateComparison) (literal : List Char) : Except ParseError Leaf :=
    match DateLiteral.parse? literal now with
    | some reference => .ok (.date field comparison reference)
    | none => .error (.invalidDate (String.ofList literal))
  match text.head? with
  | some '+' => return compare .after (← Slice.from? text 1)
  | some '-' => return compare .before (← Slice.from? text 1)
  | _ => return .error (.invalidDate (String.ofList text))

/-- Two bytes a piece; the last piece may be short. -/
def pairs : Bytes → List Bytes
  | [] => []
  | [single] => [[single]]
  | high :: low :: rest => [high, low] :: pairs rest

def hexValue? (byte : UInt8) : Option Nat := Hex.value? (Char.ofNat byte.toNat)

def hexPair? (pair : Bytes) : Ranged (Option UInt8) := do
  let high ← pair[0]?
  let low ← pair[1]?
  return do return UInt8.ofNat (16 * (← hexValue? high) + (← hexValue? low))

def hex? (text : List Char) : Ranged (Option Bytes) := do
  let bytes := Utf8.encode text
  if bytes.length % 2 ≠ 0 || !bytes.all fun byte => (hexValue? byte).isSome then return none
  else return (← (pairs bytes).mapM hexPair?).mapM id

def digestItem? (algorithm : Algorithm) (item : List Char) : Ranged (Except ParseError Bytes) := do
  match (← hex? item).filter (·.length = algorithm.digestLength) with
  | some digest => return .ok digest
  | none => return .error (.invalidHash (String.ofList item))

def digestList? (algorithm : Algorithm) (text : List Char) : Ranged (Except ParseError (List Bytes)) := do
  match (Modifier.splitItems text).map trimBlanks |>.filter (· ≠ []) with
  | [] => return .error (.invalidHash (String.ofList text))
  | items => return (← items.mapM (digestItem? algorithm)).mapM id

def hexNeedle? (text : List Char) : Ranged (Option Bytes) := do
  return (← hex? (text.filter (!isBlank ·))).filter (· ≠ [])

def short? (lexeme : String) (payload : Option String) (now : Instant) (options : ScanOptions) :
    Ranged (Except ParseError Effect) := do
  match ← Slice.from? lexeme.toList 1 with
  | [] => return .error (.invalidModifier lexeme)
  | letter :: inline =>
    let argument := if inline = [] then (payload.getD "").toList else inline
    match letter.toLower with
    | 't' =>
      if argument = [] then return .error (.missingArgument lexeme)
      else return (Modifier.typeTests argument).map .criteria
    | 's' =>
      match ← size? argument with
      | some (comparison, bytes) => return .ok (Modifier.leaf (.size comparison bytes))
      | none => return .error (.invalidSize (String.ofList argument))
    | 'c' => return (← dateTest? .created argument now).map Modifier.leaf
    | 'm' => return (← dateTest? .modified argument now).map Modifier.leaf
    | 'a' => return (← dateTest? .accessed argument now).map Modifier.leaf
    | 'p' => return (← dateTest? .header argument now).map Modifier.leaf
    | 'n' =>
      if argument = [] then return .ok (.options { options with recursive := false })
      else return .error (.invalidModifier lexeme)
    | _ => return .error (.invalidModifier lexeme)

/-- Long modifiers whose payload is cut or taken apart; the others only compare theirs or keep it. -/
def withPayload? (lexeme name : String) (text : List Char) (options : ScanOptions) :
    Ranged (Except ParseError Effect) := do
  let whole := String.ofList text
  match name with
  | "hex" =>
    return (Modifier.orElse (.invalidHex whole) (← hexNeedle? text)).map fun needle =>
      Modifier.leaf (.content needle true)
  | "skip" => return .ok (Modifier.leaf (.skip (← skipDirectory? whole options.base)))
  | name =>
    match Algorithm.ofName? name.toList with
    | some algorithm =>
      return (← digestList? algorithm text).map fun digests => Modifier.leaf (.digest algorithm digests)
    | none => return Modifier.withPayload lexeme name text options

def long? (lexeme name : String) (payload : Option String) (options : ScanOptions) :
    Ranged (Except ParseError Effect) :=
  if Modifier.needsPayload name then
    match (payload.getD "").toList with
    | [] => some (.error (.missingArgument lexeme))
    | text => withPayload? lexeme name text options
  else some (Modifier.long lexeme name payload options)

def interpret? (lexeme : String) (payload : Option String) (now : Instant) (options : ScanOptions) :
    Ranged (Except ParseError Effect) :=
  match lexeme.toList with
  | '-' :: '-' :: name => long? lexeme (String.ofList (name.map Char.toLower)) payload options
  | _ => short? lexeme payload now options

def peek (tokens : List Token) (cursor : Nat) : Token := tokens[cursor]?.getD .finish

theorem lt_length_of_peek {tokens : List Token} {cursor : Nat} {token : Token} (found : peek tokens cursor = token)
    (more : token ≠ .finish) : cursor < tokens.length := by
  refine Nat.lt_of_not_le fun outside => more ?_
  rw [← found, peek, List.getElem?_eq_none outside, Option.getD_none]

def loadlineName (tokens : List Token) (cursor : Nat) (lexeme : String) :
    Option String → Except ParseError (String × Nat)
  | some name => if name.isEmpty then .error (.missingArgument lexeme) else .ok (name, cursor)
  | none =>
    match peek tokens cursor with
    | .pattern name => if name.isEmpty then .error (.missingArgument lexeme) else .ok (name, cursor + 1)
    | _ => .error (.missingArgument lexeme)

def loadlineTokens? (source : LoadlineSource) (name : String) : Ranged (Except ParseError (List Token)) := do
  match source name with
  | .error message => return .error (.loadline name message)
  | .ok line => return (← Scanner.tokenizeFragment? line).mapError .lex

def splice? (tokens : List Token) (cursor : Nat) (line : List Token) : Ranged (List Token) :=
  if tokens.length < cursor then none else some (tokens.take cursor ++ (line ++ tokens.drop cursor))

section

variable (source : LoadlineSource) (now : Instant)

def read? (tokens : List Token) (cursor splices : Nat) (opened : Opened) (options : ScanOptions) :
    Ranged (Except ParseError (Criterion × ScanOptions)) := do
  match _found : peek tokens cursor with
  | .finish => return opened.finish.map (·, options)
  | .keyword kind spelling =>
    match opened.keyword spelling kind with
    | .error error => return .error error
    | .ok opened => read? tokens (cursor + 1) splices opened options
  | .pattern text =>
    let pattern ← pattern? text options.base
    read? tokens (cursor + 1) splices (opened.add [.leaf (.wildcard pattern)]) options
  | .modifier lexeme payload =>
    match ← interpret? lexeme payload now options with
    | .error error => return .error error
    | .ok (.criteria items) => read? tokens (cursor + 1) splices (opened.add items) options
    | .ok (.options options) => read? tokens (cursor + 1) splices opened options
    | .ok (.loadline name) =>
      match loadlineName tokens (cursor + 1) lexeme name, splices with
      | .error error, _ => return .error error
      | .ok _, 0 => return .error .loadlineDepth
      | .ok (name, cursor), splices + 1 =>
        match ← loadlineTokens? source name with
        | .error error => return .error error
        | .ok line => do
          let tokens ← splice? tokens cursor line
          read? tokens cursor splices opened options
termination_by (splices, tokens.length - cursor)
decreasing_by
  -- A loadline uses up a splice; every other token is behind the cursor afterwards.
  all_goals
    first
    | exact Prod.Lex.left _ _ (Nat.lt_succ_self _)
    | exact Prod.Lex.right _ (Nat.sub_succ_lt_self _ _ (lt_length_of_peek _found (by simp)))

def parse? (options : ScanOptions) (commandLine : String) :
    Ranged (Except ParseError (Criterion × ScanOptions)) := do
  match ← Scanner.tokenizeFragment? commandLine with
  | .error error => return .error (.lex error)
  | .ok tokens => read? source now (tokens ++ [.finish]) 0 maxSplices (.whole Chain.empty []) options

end

end FileSieve.Sliced
