import FileSieve.Criteria.Glob
import FileSieve.Criteria.PathText

/-! Wildcard patterns and skip rules. A pattern with a separator is matched against the whole path and
is rooted at the directory in front of its first wildcard; any other is matched against the file
name. -/

namespace FileSieve

inductive Decision where
  | enter
  | prune
  | indifferent
  deriving DecidableEq, Repr

namespace Decision

def combine (every : Bool) : Decision → Decision → Decision
  | indifferent, other => other
  | decided, indifferent => decided
  | enter, enter => enter
  | prune, prune => prune
  | enter, prune | prune, enter => if every then prune else enter

/-- A directory that may hold matches may hold files that fail just as well; where every file fails,
every file satisfies the negation. -/
def negate : Decision → Decision
  | enter => indifferent
  | prune => enter
  | indifferent => indifferent

end Decision

structure PathPattern where
  text : String
  glob : Glob
  wholePath : Bool
  root : Option (List Char)
  pruning : Bool
  deriving DecidableEq, Repr

namespace PathPattern

def isWildcard (c : Char) : Bool := c = '*' || c = '?'

/-- The directory that every match of a whole path lies in: what comes in front of the first
wildcard, up to its last separator. -/
def literalRoot? (target : List Char) : Option (List Char) :=
  match (target.takeWhile (!isWildcard ·)).reverse.dropWhile (· != '/') with
  | [] => none
  | reversed => some reversed.reverse

def ofText (text : String) (base : Path) : PathPattern :=
  let normalized := PathText.normalize text.toList
  let wholePath := normalized.contains '/'
  let target := if wholePath then PathText.absolute base normalized else normalized
  { text, wholePath
    glob := Glob.ofBytes (Utf8.encode target)
    root := if wholePath then literalRoot? target else none
    pruning := true }

def root? (pattern : PathPattern) : Option Path := pattern.root.map fun root => ⟨Utf8.encode root⟩

def «matches» (pattern : PathPattern) (path : Path) : Bool :=
  if pattern.wholePath then pattern.glob.accepts (Utf8.encode (PathText.ofPath path))
  else match path.fileName? with
    | some name => pattern.glob.accepts (Utf8.encode (Utf8.decodeLossy name))
    | none => false

/-- A directory on the way to the root or inside it may hold matches, any other can not. -/
def decision (pattern : PathPattern) (directory : Path) : Decision :=
  match if pattern.pruning then pattern.root else none with
  | none => .indifferent
  | some root =>
    let rootKey := Unicode.lowercase root
    let key := PathText.directoryKey directory
    if key.isPrefixOf rootKey || rootKey.isPrefixOf key then .enter else .prune

def prunes (pattern : PathPattern) : Bool := pattern.pruning && pattern.root.isSome

def withoutPruning (pattern : PathPattern) : PathPattern := { pattern with pruning := false }

end PathPattern

/-- A directory left out of the search: the one with a key, or every one with a name. -/
inductive SkipRule where
  | directory (key : List Char)
  | name (name : List Char)
  deriving DecidableEq, Repr

structure SkipDirectory where
  text : String
  rule : SkipRule
  deriving DecidableEq, Repr

namespace SkipDirectory

def splitComponents : List Char → List (List Char)
  | [] => [[]]
  | c :: rest =>
    if c = '/' then [] :: splitComponents rest
    else match splitComponents rest with
      | [] => [[c]]
      | component :: components => (c :: component) :: components

def ofText (text : String) (base : Path) : SkipDirectory :=
  let normalized := PathText.normalize text.toList
  { text
    rule := if normalized.contains '/' then
        .directory (PathText.closed (Unicode.lowercase (PathText.absolute base normalized)))
      else .name (Unicode.lowercase normalized) }

def covers (skip : SkipDirectory) (path : Path) : Bool :=
  match skip.rule with
  | .directory key => key.isPrefixOf (PathText.directoryKey path)
  | .name name => (splitComponents (PathText.ofPath path)).any (Unicode.lowercase · == name)

def decision (skip : SkipDirectory) (directory : Path) : Decision :=
  if skip.covers directory then .prune else .indifferent

end SkipDirectory
end FileSieve
