import FileSieve.Text.Utf8

/-! Paths. A path is spelled by bytes; only `/` separates its components, and repeated separators and
inner `.` components do not count. -/

namespace FileSieve

structure Path where
  bytes : Bytes
  deriving DecidableEq, Repr

inductive Component where
  | root
  | current
  | parent
  | name (bytes : Bytes)
  deriving DecidableEq, Repr

namespace Component

def bytes : Component → Bytes
  | root => [0x2F]
  | current => [0x2E]
  | parent => [0x2E, 0x2E]
  | name bytes => bytes

def rank : Component → Nat
  | root => 0
  | current => 1
  | parent => 2
  | name _ => 3

/-- Names are ordered by their bytes and come after the other components. -/
def compare : Component → Component → Ordering
  | name a, name b => a.compareLex Ord.compare b
  | a, b => Ord.compare a.rank b.rank

def ofPiece? (piece : Bytes) : Option Component :=
  if piece = [] ∨ piece = [0x2E] then none
  else if piece = [0x2E, 0x2E] then some parent
  else some (name piece)

end Component

namespace Path

def separator : UInt8 := 0x2F

def ofString (text : String) : Path := ⟨Utf8.encode text.toList⟩

def chars (path : Path) : List Char := Utf8.decodeLossy path.bytes

def text (path : Path) : String := String.ofList path.chars

def isAbsolute (path : Path) : Bool := path.bytes.head? == some separator

def components (path : Path) : List Component :=
  let pieces := Bytes.split separator path.bytes
  if path.isAbsolute then .root :: pieces.filterMap Component.ofPiece?
  else match pieces with
    | [0x2E] :: rest => .current :: rest.filterMap Component.ofPiece?
    | pieces => pieces.filterMap Component.ofPiece?

def compare (a b : Path) : Ordering := a.components.compareLex Component.compare b.components

def startsWith (path ancestor : Path) : Bool := ancestor.components.isPrefixOf path.components

def same (a b : Path) : Bool := a.components == b.components

def fileName? (path : Path) : Option Bytes :=
  match path.components.getLast? with
  | some (.name bytes) => some bytes
  | _ => none

def dropUncounted (rooted : Bool) : List Bytes → List Bytes
  | [] => []
  | [piece] => if piece = [] ∨ (rooted ∧ piece = [0x2E]) then [] else [piece]
  | piece :: next :: rest =>
    if piece = [] ∨ piece = [0x2E] then dropUncounted rooted (next :: rest)
    else piece :: next :: rest

def parent? (path : Path) : Option Path :=
  let rooted := path.isAbsolute
  let body := if rooted then path.bytes.drop 1 else path.bytes
  match dropUncounted rooted (Bytes.split separator body).reverse with
  | [] => none
  | _ :: before =>
    let kept := Bytes.join separator (dropUncounted rooted before).reverse
    some ⟨if rooted then separator :: kept else kept⟩

/-- An absolute path replaces what it is joined to. -/
def join (base path : Path) : Path :=
  if path.isAbsolute then path
  else match base.bytes.getLast? with
    | none => path
    | some last =>
      if last = separator then ⟨base.bytes ++ path.bytes⟩
      else ⟨base.bytes ++ separator :: path.bytes⟩

def push (path : Path) (component : Component) : Path := path.join ⟨component.bytes⟩

end Path
end FileSieve
