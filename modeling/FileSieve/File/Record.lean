import FileSieve.File.Facts

/-! Records of files. A record computes an expensive fact when it is first needed and keeps it from then on. It also
notes what it has computed, and what it has been asked for. -/

namespace FileSieve

abbrev Fact.Value : Fact → Type
  | contents => Option Bytes
  | image => Option Image
  | checksum => Bool
  | digest _ => Option Bytes
  | signature => Bool
  | protection => Bool

/-- A fact is kept once it has been computed. The notes are in the order in which they were made. -/
structure Record where
  file : File
  kept : (fact : Fact) → Option fact.Value
  computed : List Fact
  touched : List Fact

abbrev Reading := StateM Record

namespace Record

def fresh (file : File) : Record := { file, kept := fun _ => none, computed := [], touched := [] }

def compute (fact : Fact) (source : Reading fact.Value) : Reading fact.Value := do
  let value ← source
  modify fun record => { record with computed := record.computed ++ [fact] }
  return value

def put (fact : Fact) (value : fact.Value) (record : Record) : Record :=
  { record with kept := fun other => if same : other = fact then some (same ▸ value) else record.kept other }

def keep (fact : Fact) (source : Reading fact.Value) : Reading fact.Value := do
  match (← get).kept fact with
  | some value => return value
  | none =>
    let value ← compute fact source
    modify (put fact value)
    return value

def readFile : Reading File := return (← get).file

def readContents : Reading (Option Bytes) := keep .contents do return (← readFile).contents

def readImage : Reading (Option Image) := keep .image do return (← readContents).bind Image.read?

def readChecksum : Reading Bool := keep .checksum do
  match ← readImage, ← readContents with
  | some image, some data => return image.checksumMatches data
  | _, _ => return false

def readDigest (algorithm : Algorithm) : Reading (Option Bytes) := keep (.digest algorithm) do
  return (← readContents).map fun data => algorithm.digest data

/-- Signatures and protection are looked up each time. -/
def read : (fact : Fact) → Reading fact.Value
  | .contents => readContents
  | .image => readImage
  | .checksum => readChecksum
  | .digest algorithm => readDigest algorithm
  | .signature => return (← readFile).isSigned
  | .protection => return (← readFile).isProtected

def touch (fact : Fact) : Reading Unit :=
  modify fun record =>
    { record with
      touched := if record.touched.contains fact then record.touched else record.touched ++ [fact] }

/-- Facts that are needed to compute another one are not asked for. -/
def ask (fact : Fact) : Reading fact.Value := do
  touch fact
  read fact

def forget : Reading Unit := modify fun record => { record with touched := [] }

end Record
end FileSieve
