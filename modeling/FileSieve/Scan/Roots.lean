import FileSieve.Criteria.Basic
import FileSieve.Disk.Basic
import FileSieve.Query.Options

namespace FileSieve

namespace Disk

/-- The spelling of a name in a directory: that very name, or else the first one that differs only in
letter case. -/
def spelling? (disk : Disk) (directory : Path) (name : Bytes) : Option Bytes :=
  let names := ((disk.list directory).toOption.getD []).map Entry.name
  let folded (candidate : Bytes) := Unicode.lowercase (Utf8.decodeLossy candidate)
  if names.contains name then some name
  else names.find? fun candidate => folded candidate == folded name

/-- Continues a path, spelling names as the disk does; behind the first name that is not there, all is
kept as it stands. -/
def spell (disk : Disk) (sofar : Path) : List Component → Path
  | [] => sofar
  | .name name :: rest =>
    match disk.spelling? sofar name with
    | some found => spell disk (sofar.push (.name found)) rest
    | none => rest.foldl Path.push (sofar.push (.name name))
  | component :: rest => spell disk (sofar.push component) rest

def spelled (disk : Disk) (path : Path) : Path := disk.spell ⟨[]⟩ path.components

end Disk

def outermost (kept : List Path) : List Path → List Path
  | [] => kept.reverse
  | path :: rest =>
    if kept.any path.startsWith then outermost kept rest else outermost (path :: kept) rest

def canonicalRoots (requested : List Path) : List Path :=
  outermost [] (requested.mergeSort fun a b => a.compare b != .gt)

def scanRoots (disk : Disk) (criterion : Criterion) (options : ScanOptions) : List Path :=
  canonicalRoots <|
    if options.roots ≠ [] then options.roots
    else match criterion.roots with
      | [] => [options.base]
      | roots => roots.map disk.spelled

end FileSieve
