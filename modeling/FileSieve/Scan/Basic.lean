import FileSieve.Criteria.Reorder
import FileSieve.Disk.Record
import FileSieve.Output.Match
import FileSieve.Scan.Roots

namespace FileSieve

structure Visit where
  path : Path
  isDirectory : Bool
  deriving DecidableEq, Repr

mutual

def Entry.visits (descend : Path → Bool) (directory : Path) : Entry → List Visit
  | .file name _ _ => [⟨directory.push (.name name), false⟩]
  | .link name _ _ => [⟨directory.push (.name name), false⟩]
  | .directory name _ entries =>
    let path := directory.push (.name name)
    ⟨path, true⟩ :: if descend path then visitsBelow descend path entries else []

def visitsBelow (descend : Path → Bool) (directory : Path) : List Entry → List Visit
  | [] => []
  | entry :: rest => entry.visits descend directory ++ visitsBelow descend directory rest

end

/-- The visits below a root; below a path that is no directory there are none. -/
def Disk.visits (disk : Disk) (descend : Path → Bool) (root : Path) : List Visit :=
  visitsBelow descend root ((disk.list root).toOption.getD [])

structure ScanOutcome where
  found : List Match
  visited : Nat
  pruned : Nat
  deriving Repr

namespace Scan

def prepare (criterion : Criterion) (options : ScanOptions) : Criterion :=
  if options.recursive then criterion.reorder else criterion.reorder.withoutPruning

def prunes (criterion : Criterion) (directory : Path) : Bool :=
  criterion.decision directory == .prune

/-- What a scan comes by. Without recursion it does not enter the directories in a root. -/
def visits (disk : Disk) (criterion : Criterion) (options : ScanOptions) : List Visit :=
  (scanRoots disk criterion options).flatMap
    (disk.visits fun directory => options.recursive && !prunes criterion directory)

def hits (disk : Disk) (criterion : Criterion) (options : ScanOptions) (visits : List Visit) :
    List Match :=
  ((visits.map fun visit => disk.record visit.path).filter fun file => criterion.evaluate file).map
    (Match.ofFile options.format)

/-- Matches are reported in the order asked for, or else by path. -/
def arrange (options : ScanOptions) (found : List Match) : List Match :=
  let sorted := match options.order with
    | some order => order.sort found
    | none => found.mergeSort fun a b => a.path.compare b.path != .gt
  match options.limit with
  | some limit => sorted.take limit
  | none => sorted

def run (disk : Disk) (criterion : Criterion) (options : ScanOptions) : ScanOutcome :=
  let visits := visits disk criterion options
  { found := arrange options (hits disk criterion options visits)
    visited := visits.length
    pruned := visits.countP fun visit => visit.isDirectory && prunes criterion visit.path }

end Scan
end FileSieve
