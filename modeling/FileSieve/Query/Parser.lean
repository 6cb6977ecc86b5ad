import FileSieve.Query.Loadline
import FileSieve.Query.Modifier

/-! The parser. Atoms in a row form a group; XOR binds tightest, then OR, then AND, and each operator
puts its newest operand first. A negation, a consequence and an alternative take as many atoms as
follow. The parser reads one token at a time into what is still open, and a loadline's tokens take
the place of the tokens that ask for it. -/

namespace FileSieve

structure Pending where
  left : Criterion
  operators : Nat
  deriving Repr

/-- Left operands that wait for the atoms being read, one at most for each operator. -/
structure Chain where
  all : Option Pending
  any : Option Pending
  xor : Option Pending
  deriving Repr

namespace Chain

def empty : Chain := ⟨none, none, none⟩

def operators (pending : Option Pending) : Nat := (pending.map Pending.operators).getD 0

def depth (chain : Chain) : Nat :=
  operators chain.all + operators chain.any + operators chain.xor

def closeXor (chain : Chain) (right : Criterion) : Criterion :=
  match chain.xor with
  | none => right
  | some pending => .xor right pending.left

def closeAny (chain : Chain) (right : Criterion) : Criterion :=
  match chain.any with
  | none => chain.closeXor right
  | some pending => .any [chain.closeXor right, pending.left]

def close (chain : Chain) (right : Criterion) : Criterion :=
  match chain.all with
  | none => chain.closeAny right
  | some pending => .all [chain.closeAny right, pending.left]

def pushXor (chain : Chain) (right : Criterion) : Chain :=
  { chain with xor := some ⟨chain.closeXor right, operators chain.xor + 1⟩ }

def pushAny (chain : Chain) (right : Criterion) : Chain :=
  { chain with any := some ⟨chain.closeAny right, operators chain.any + 1⟩, xor := none }

def pushAll (chain : Chain) (right : Criterion) : Chain :=
  ⟨some ⟨chain.close right, operators chain.all + 1⟩, none, none⟩

end Chain

/-- The constructs that are open, innermost first, each with the criteria of its last atoms. -/
inductive Opened where
  | whole (chain : Chain) (items : List Criterion)
  | braces (chain : Chain) (items : List Criterion) (outer : Opened)
  | negation (items : List Criterion) (outer : Opened)
  | condition (outer : Opened)
  | consequence (test : Criterion) (items : List Criterion) (outer : Opened)
  | alternative (test whenTrue : Criterion) (items : List Criterion) (outer : Opened)
  deriving Repr

namespace Opened

def depth : Opened → Nat
  | whole chain _ => chain.depth
  | braces chain _ outer => outer.depth + 1 + chain.depth
  | negation _ outer | condition outer | consequence _ _ outer | alternative _ _ _ outer =>
    outer.depth + 1

/-- A condition ends with the first atom that yields criteria. -/
def add (items : List Criterion) : Opened → Opened
  | whole chain before => whole chain (before ++ items)
  | braces chain before outer => braces chain (before ++ items) outer
  | negation before outer => negation (before ++ items) outer
  | condition outer =>
    if items.isEmpty then condition outer else consequence (.group items) [] outer
  | consequence test before outer => consequence test (before ++ items) outer
  | alternative test whenTrue before outer => alternative test whenTrue (before ++ items) outer

def sequence (items : List Criterion) : Except ParseError Criterion :=
  if items.isEmpty then .error .noQualifiers else .ok (.group items)

/-- Ends everything inside the innermost braces, or the whole without any: their chain, the criteria
of their last atoms, and what is open around them. -/
def settle (added : List Criterion) :
    Opened → Except ParseError (Chain × Criterion × Option Opened)
  | whole chain items => (sequence (items ++ added)).map fun right => (chain, right, none)
  | braces chain items outer =>
    (sequence (items ++ added)).map fun right => (chain, right, some outer)
  | negation items outer => do
    let inner ← sequence (items ++ added)
    settle [.not inner] outer
  | condition _ => .error .noQualifiers
  | consequence test items outer => do
    let whenTrue ← sequence (items ++ added)
    settle [.ifThen test whenTrue] outer
  | alternative test whenTrue items outer => do
    let whenFalse ← sequence (items ++ added)
    settle [.ifThenElse test whenTrue whenFalse] outer

/-- Begins the alternative of the innermost condition that still lacks one. -/
def openAlternative (spelling : String) (added : List Criterion) :
    Opened → Except ParseError Opened
  | whole _ items => do
    let _ ← sequence (items ++ added)
    .error (.trailingTokens spelling)
  | braces _ items _ => do
    let _ ← sequence (items ++ added)
    .error .unbalancedBrackets
  | negation items outer => do
    let inner ← sequence (items ++ added)
    openAlternative spelling [.not inner] outer
  | condition _ => .error .noQualifiers
  | consequence test items outer => do
    let whenTrue ← sequence (items ++ added)
    return alternative test whenTrue [] outer
  | alternative test whenTrue items outer => do
    let whenFalse ← sequence (items ++ added)
    openAlternative spelling [.ifThenElse test whenTrue whenFalse] outer

def bounded (opened : Opened) : Except ParseError Opened :=
  if maxDepth < opened.depth then .error .tooDeep else .ok opened

def operator (push : Chain → Criterion → Chain) (opened : Opened) : Except ParseError Opened := do
  let (chain, right, outer) ← settle [] opened
  match outer with
  | none => bounded (whole (push chain right) [])
  | some outer => bounded (braces (push chain right) [] outer)

def closeBraces (opened : Opened) : Except ParseError Opened := do
  let (chain, right, outer) ← settle [] opened
  match outer with
  | none => .error .unbalancedBrackets
  | some outer => return outer.add [chain.close right]

def finish (opened : Opened) : Except ParseError Criterion := do
  let (chain, right, outer) ← settle [] opened
  match outer with
  | none => return chain.close right
  | some _ => .error .unbalancedBrackets

def keyword (opened : Opened) (spelling : String) : Keyword → Except ParseError Opened
  | .openBrace => bounded (braces Chain.empty [] opened)
  | .closeBrace => closeBraces opened
  | .and => operator Chain.pushAll opened
  | .or => operator Chain.pushAny opened
  | .xor => operator Chain.pushXor opened
  | .not => bounded (negation [] opened)
  | .ifWord => bounded (condition opened)
  | .elseWord => openAlternative spelling [] opened

end Opened

namespace Parser

def loadlineName (lexeme : String) (payload : Option String) (rest : List Token) :
    Except ParseError (String × List Token) :=
  match payload, rest with
  | some name, rest =>
    if name.isEmpty then .error (.missingArgument lexeme) else .ok (name, rest)
  | none, .pattern name :: rest =>
    if name.isEmpty then .error (.missingArgument lexeme) else .ok (name, rest)
  | none, _ => .error (.missingArgument lexeme)

def loadlineTokens (source : LoadlineSource) (name : String) : Except ParseError (List Token) :=
  match source name with
  | .error message => .error (.loadline name message)
  | .ok line => (tokenizeFragment line).mapError .lex

/-- Reads tokens into what is open; `splices` loadlines may still be spliced in. -/
def read (source : LoadlineSource) (now : Instant) (splices : Nat) (opened : Opened)
    (options : ScanOptions) : List Token → Except ParseError (Criterion × ScanOptions)
  | [] | .finish :: _ => opened.finish.map (·, options)
  | .keyword kind spelling :: rest => do
    let opened ← opened.keyword spelling kind
    read source now splices opened options rest
  | .pattern text :: rest =>
    let pattern := PathPattern.ofText text options.base
    read source now splices (opened.add [.leaf (.wildcard pattern)]) options rest
  | .modifier lexeme payload :: rest =>
    match Modifier.interpret lexeme payload now options with
    | .error error => .error error
    | .ok (.criteria items) => read source now splices (opened.add items) options rest
    | .ok (.options options) => read source now splices opened options rest
    | .ok (.loadline name) =>
      match loadlineName lexeme name rest with
      | .error error => .error error
      | .ok (name, rest) =>
        match splices with
        | 0 => .error .loadlineDepth
        | splices + 1 => do
          let tokens ← loadlineTokens source name
          read source now splices opened options (tokens ++ rest)
termination_by tokens => (splices, tokens.length)

end Parser

def parseTokens (source : LoadlineSource) (now : Instant) (options : ScanOptions)
    (tokens : List Token) : Except ParseError (Criterion × ScanOptions) :=
  Parser.read source now maxSplices (.whole Chain.empty []) options tokens

def parse (source : LoadlineSource) (now : Instant) (options : ScanOptions) (commandLine : String) :
    Except ParseError (Criterion × ScanOptions) := do
  let tokens ← (tokenize commandLine).mapError .lex
  parseTokens source now options tokens

end FileSieve
