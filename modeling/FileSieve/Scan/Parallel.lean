import FileSieve.Scan.Basic

/-! Parallel scans. Workers take what lies below the scan roots from a common board, and share the counters, the
matches and a flag that ends the scan; here are the steps that each can make, in any interleaving. -/

namespace FileSieve

/-- What a worker can be handed. A directory's entries are handed out after the directory. -/
inductive Errand where
  | root (path : Path)
  | entry (directory : Path) (item : Entry)
  deriving Repr

namespace Errand

def path : Errand → Path
  | root path => path
  | entry directory item => directory.push (.name item.name)

def isRoot : Errand → Bool
  | root _ => true
  | entry _ _ => false

def isPruned (criterion : Criterion) : Errand → Bool
  | root _ => false
  | entry directory item =>
    item.isDirectory && Scan.prunes criterion (directory.push (.name item.name))

def contents (disk : Disk) (descend : Path → Bool) : Errand → List Errand
  | root path => ((disk.list path).toOption.getD []).map (.entry path)
  | entry directory (.directory name _ entries) =>
    let path := directory.push (.name name)
    if descend path then entries.map (.entry path) else []
  | entry _ _ => []

end Errand

/-- Where a worker stands with its errand. The number of a match is what the counter of matches came to when it
was counted. -/
inductive WorkerPhase where
  | idle
  | handed (errand : Errand)
  | admitted (errand : Errand)
  | matching (errand : Errand)
  | counted (errand : Errand) (number : Nat)
  | sent (errand : Errand) (number : Nat)
  | full (errand : Errand)
  | judged (errand : Errand)
  deriving Repr

def WorkerPhase.isIdle : WorkerPhase → Bool
  | idle => true
  | _ => false

structure ScanBoard where
  pending : List Errand
  stopped : Bool
  visited : Nat
  pruned : Nat
  matched : Nat
  found : List Match
  deriving Repr

structure ParallelScan where
  workers : List WorkerPhase
  board : ScanBoard
  deriving Repr

/-- Which worker makes its next step. An idle one takes the pending errand at a place of its choice. One that
looks at the flag may see it late: raised only if it is, but down in any case. -/
structure ScanMove where
  worker : Nat
  place : Nat
  raised : Bool
  deriving DecidableEq, Repr

namespace ParallelScan

/-- The number of matches that ends a scan early; an order asked for needs all of them. -/
def quota (options : ScanOptions) : Option Nat :=
  match options.order with
  | some _ => none
  | none => options.limit

def isQuota (options : ScanOptions) (number : Nat) : Bool :=
  (quota options).any (· ≤ number)

def start (disk : Disk) (criterion : Criterion) (options : ScanOptions) (workers : Nat) :
    ParallelScan :=
  { workers := List.replicate workers .idle
    board :=
      { pending := (scanRoots disk criterion options).map .root, stopped := false
        visited := 0, pruned := 0, matched := 0, found := [] } }

section

variable (disk : Disk) (criterion : Criterion) (options : ScanOptions)

def contents : Errand → List Errand :=
  Errand.contents disk fun directory => options.recursive && !Scan.prunes criterion directory

/-- The next step of a worker, with one use of what is shared. A worker that ends the scan, or sees that it has
ended, leaves the rest of its errand undone. -/
def step? (move : ScanMove) (board : ScanBoard) : WorkerPhase → Option (WorkerPhase × ScanBoard)
  | .idle =>
    match board.pending[move.place]? with
    | some errand => some (.handed errand, { board with pending := board.pending.eraseIdx move.place })
    | none => none
  | .handed errand =>
    if move.raised then if board.stopped then some (.idle, board) else none
    else some (if errand.isRoot then .judged errand else .admitted errand, board)
  | .admitted errand =>
    some (if criterion.evaluate (disk.record errand.path) then .matching errand else .judged errand,
      { board with visited := board.visited + 1 })
  | .matching errand =>
    some (.counted errand (board.matched + 1), { board with matched := board.matched + 1 })
  | .counted errand number =>
    some (.sent errand number,
      { board with
        found := board.found ++ [Match.ofFile options.format (disk.record errand.path)] })
  | .sent errand number =>
    some (if isQuota options number then .full errand else .judged errand, board)
  | .full _ => some (.idle, { board with stopped := true })
  | .judged errand =>
    some (.idle,
      { board with
        pruned := if errand.isPruned criterion then board.pruned + 1 else board.pruned
        pending := board.pending ++ contents disk criterion options errand })

def move? (scan : ParallelScan) (move : ScanMove) : Option ParallelScan :=
  match scan.workers[move.worker]? with
  | none => none
  | some phase =>
    (step? disk criterion options move scan.board phase).map fun (next, board) =>
      { workers := scan.workers.set move.worker next, board }

def run? (scan : ParallelScan) (moves : List ScanMove) : Option ParallelScan :=
  moves.foldlM (move? disk criterion options) scan

end

/-- Once the scan has been ended, errands may be left pending. -/
def isFinished (scan : ParallelScan) : Bool :=
  scan.workers.all WorkerPhase.isIdle && (scan.board.stopped || scan.board.pending.isEmpty)

def outcome (options : ScanOptions) (scan : ParallelScan) : ScanOutcome :=
  { found := Scan.arrange options scan.board.found
    visited := scan.board.visited
    pruned := scan.board.pruned }

end ParallelScan
end FileSieve
