import Mathlib.Algebra.Group.Prod
import Mathlib.Algebra.Order.Group.Multiset
import Mathlib.Tactic.Abel
import FileSieve.Proofs.Scan.Progress

/-! The ledger of a parallel scan. In any interleaving, what has been counted and found, what is owed for the errands
under way and pending, and what was dropped when the scan was ended add up to what there is to count and find. -/

namespace FileSieve

abbrev Tally := Nat × Nat × Multiset Match

section

variable (disk : Disk) (criterion : Criterion) (options : ScanOptions)

namespace Tally

def visited : Tally := (1, 0, 0)

def pruned (counts : Bool) : Tally := (0, if counts then 1 else 0, 0)

def found (path : Path) : Tally := (0, 0, {Match.ofFile options.format (disk.record path)})

def answer (path : Path) : Tally :=
  if criterion.evaluate (disk.record path) then found disk options path else 0

def ofVisit (visit : Visit) : Tally :=
  visited + answer disk criterion options visit.path +
    pruned (visit.isDirectory && Scan.prunes criterion visit.path)

def ofVisits (visits : List Visit) : Tally := (visits.map (ofVisit disk criterion options)).sum

theorem ofVisits_append (first second : List Visit) :
    ofVisits disk criterion options (first ++ second) =
      ofVisits disk criterion options first + ofVisits disk criterion options second := by
  simp [ofVisits]

theorem ofVisits_flatMap {α : Type} (items : List α) (visits : α → List Visit) :
    ofVisits disk criterion options (items.flatMap visits) =
      (items.map fun item => ofVisits disk criterion options (visits item)).sum := by
  induction items with
  | nil => rfl
  | cons item items ih => simp [ofVisits_append, ih]

theorem ofVisits_eq (visits : List Visit) :
    ofVisits disk criterion options visits =
      (visits.length, visits.countP fun visit => visit.isDirectory && Scan.prunes criterion visit.path,
        (Scan.hits disk criterion options visits : Multiset Match)) := by
  induction visits with
  | nil => rfl
  | cons visit visits ih =>
      have split : ofVisits disk criterion options (visit :: visits) =
          ofVisit disk criterion options visit + ofVisits disk criterion options visits := by
        simp [ofVisits]
      rw [split, ih, ofVisit, visited, answer, pruned]
      by_cases holds : criterion.evaluate (disk.record visit.path) = true
      · simp [holds, found, Scan.hits, List.countP_cons, add_comm]
      · simp [holds, Scan.hits, List.countP_cons, add_comm]

end Tally

namespace Errand

def due (errand : Errand) : Tally := Tally.ofVisits disk criterion options (errand.visits disk criterion options)

def rest (errand : Errand) : Tally :=
  Tally.pruned (errand.isPruned criterion) +
    Tally.ofVisits disk criterion options (errand.behind disk criterion options)

theorem due_eq (errand : Errand) :
    errand.due disk criterion options =
      if errand.isRoot then errand.rest disk criterion options
      else Tally.visited + Tally.answer disk criterion options errand.path +
        errand.rest disk criterion options := by
  cases errand with
  | root path =>
      have unpruned : Tally.pruned ((root path).isPruned criterion) = 0 := rfl
      simp only [isRoot, if_true, rest, unpruned, zero_add]
      rfl
  | entry directory item =>
      simp only [isRoot, Bool.false_eq_true, if_false, due, rest, visits_entry, Tally.ofVisits,
        List.map_cons, List.sum_cons, Tally.ofVisit]
      exact add_assoc _ _ _

theorem rest_eq (errand : Errand) :
    errand.rest disk criterion options =
      Tally.pruned (errand.isPruned criterion) +
        ((ParallelScan.contents disk criterion options errand).map (due disk criterion options)).sum := by
  rw [rest, ← flatMap_contents, Tally.ofVisits_flatMap]
  rfl

end Errand

def WorkerPhase.due : WorkerPhase → Tally
  | idle => 0
  | handed errand => errand.due disk criterion options
  | admitted errand =>
    Tally.visited + Tally.answer disk criterion options errand.path +
      errand.rest disk criterion options
  | matching errand | counted errand _ =>
    Tally.found disk options errand.path + errand.rest disk criterion options
  | sent errand _ | full errand | judged errand => errand.rest disk criterion options

namespace ScanBoard

def tally (board : ScanBoard) : Tally := (board.visited, board.pruned, (board.found : Multiset Match))

def due (board : ScanBoard) : Tally := (board.pending.map (Errand.due disk criterion options)).sum

theorem tally_visited (board : ScanBoard) :
    tally { board with visited := board.visited + 1 } = board.tally + Tally.visited := by
  simp [tally, Tally.visited]

theorem tally_found (board : ScanBoard) (path : Path) :
    tally { board with
      found := board.found ++ [Match.ofFile options.format (disk.record path)] } =
        board.tally + Tally.found disk options path := by
  simp [tally, Tally.found, ← Multiset.coe_add]

theorem tally_pruned (board : ScanBoard) (counts : Bool) (pending : List Errand) :
    tally { board with pruned := if counts then board.pruned + 1 else board.pruned, pending } =
      board.tally + Tally.pruned counts := by
  cases counts <;> simp [tally, Tally.pruned]

theorem due_taken (board : ScanBoard) (place : Nat) (errand : Errand)
    (taken : board.pending[place]? = some errand) :
    board.due disk criterion options =
      errand.due disk criterion options +
        due disk criterion options { board with pending := board.pending.eraseIdx place } :=
  sum_map_of_perm_cons _ (perm_cons_eraseIdx taken)

theorem due_appended (board : ScanBoard) (errands : List Errand) (pruned : Nat) :
    due disk criterion options { board with pruned, pending := board.pending ++ errands } =
      board.due disk criterion options + (errands.map (Errand.due disk criterion options)).sum := by
  simp [due]

end ScanBoard

namespace ParallelScan

theorem step_balanced (move : ScanMove) (board after : ScanBoard) (phase next : WorkerPhase)
    (stepped : step? disk criterion options move board phase = some (next, after)) :
    ∃ lost : Tally, (after.stopped = false → lost = 0) ∧
      after.tally + next.due disk criterion options + after.due disk criterion options + lost =
        board.tally + phase.due disk criterion options + board.due disk criterion options := by
  cases phase with
  | idle =>
      obtain ⟨errand, taken, rfl, rfl⟩ := step_idle stepped
      refine ⟨0, fun _ => rfl, ?_⟩
      rw [board.due_taken disk criterion options move.place errand taken]
      simp only [WorkerPhase.due, ScanBoard.tally]
      abel
  | handed errand =>
      obtain ⟨rfl, ⟨stopped, rfl⟩ | rfl⟩ := step_handed stepped
      -- A worker that sees the scan ended drops its errand with everything below it.
      · refine ⟨errand.due disk criterion options, ?_, ?_⟩
        · intro running
          rw [stopped] at running
          cases running
        · simp only [WorkerPhase.due]
          abel
      · refine ⟨0, fun _ => rfl, ?_⟩
        rw [WorkerPhase.due, errand.due_eq, add_zero]
        by_cases atRoot : errand.isRoot = true
        · simp only [atRoot, if_true, WorkerPhase.due]
        · simp only [atRoot, Bool.false_eq_true, if_false, WorkerPhase.due]
  | admitted errand =>
      cases stepped
      refine ⟨0, fun _ => rfl, ?_⟩
      rw [board.tally_visited, WorkerPhase.due, Tally.answer, add_zero]
      by_cases holds : criterion.evaluate (disk.record errand.path) = true
      · simp only [holds, if_true, WorkerPhase.due, ScanBoard.due]
        abel
      · simp only [holds, Bool.false_eq_true, if_false, WorkerPhase.due, ScanBoard.due, add_zero]
        abel
  | matching errand =>
      cases stepped
      exact ⟨0, fun _ => rfl, add_zero _⟩
  | counted errand number =>
      cases stepped
      refine ⟨0, fun _ => rfl, ?_⟩
      rw [board.tally_found disk options]
      simp only [WorkerPhase.due, ScanBoard.due]
      abel
  | sent errand number =>
      cases stepped
      refine ⟨0, fun _ => rfl, ?_⟩
      split <;> exact add_zero _
  | full errand =>
      cases stepped
      -- The step that ends the scan: what lies below the match is not looked at any more.
      refine ⟨errand.rest disk criterion options, nofun, ?_⟩
      simp only [WorkerPhase.due, ScanBoard.due, ScanBoard.tally]
      abel
  | judged errand =>
      cases stepped
      refine ⟨0, fun _ => rfl, ?_⟩
      rw [board.tally_pruned, board.due_appended, WorkerPhase.due, WorkerPhase.due, errand.rest_eq]
      abel

variable {disk criterion options}

theorem step_stopped {move : ScanMove} {board after : ScanBoard} {phase next : WorkerPhase}
    (stepped : step? disk criterion options move board phase = some (next, after))
    (running : after.stopped = false) : board.stopped = false := by
  cases phase with
  | idle =>
      obtain ⟨errand, taken, rfl, rfl⟩ := step_idle stepped
      exact running
  | handed errand =>
      obtain ⟨rfl, _⟩ := step_handed stepped
      exact running
  | full errand =>
      cases stepped
      cases running
  | admitted | matching | counted | sent | judged =>
      cases stepped
      exact running

variable (disk criterion options)

/-- What has been counted and found and what is under way and pending are all that there is, but for what was
dropped when the scan was ended. -/
def Balanced (scan : ParallelScan) : Prop :=
  ∃ lost : Tally, (scan.board.stopped = false → lost = 0) ∧
    scan.board.tally + (scan.workers.map (WorkerPhase.due disk criterion options)).sum +
        scan.board.due disk criterion options + lost =
      Tally.ofVisits disk criterion options (Scan.visits disk criterion options)

theorem start_balanced (workers : Nat) :
    Balanced disk criterion options (start disk criterion options workers) := by
  refine ⟨0, fun _ => rfl, ?_⟩
  have pending : (start disk criterion options workers).board.due disk criterion options =
      Tally.ofVisits disk criterion options (Scan.visits disk criterion options) := by
    rw [Scan.visits, Tally.ofVisits_flatMap, ScanBoard.due, start, List.map_map]
    rfl
  have settled : (start disk criterion options workers).board.tally = 0 := rfl
  have idle : ((start disk criterion options workers).workers.map
      (WorkerPhase.due disk criterion options)).sum = 0 := by
    simp [start, WorkerPhase.due]
  rw [pending, settled, idle, zero_add, zero_add, add_zero]

variable {disk criterion options}

theorem move_balanced (scan : ParallelScan) (move : ScanMove) (next : ParallelScan)
    (balanced : Balanced disk criterion options scan)
    (moved : move? disk criterion options scan move = some next) :
    Balanced disk criterion options next := by
  obtain ⟨phase, after, others, before, behind, stepped⟩ := move_step moved
  obtain ⟨former, none, total⟩ := balanced
  obtain ⟨lost, keeps, step⟩ := step_balanced disk criterion options move _ _ _ _ stepped
  refine ⟨lost + former, ?_, ?_⟩
  · intro running
    rw [keeps running, none (step_stopped stepped running), zero_add]
  · have earlier := sum_map_of_perm_cons (WorkerPhase.due disk criterion options) before
    have later := sum_map_of_perm_cons (WorkerPhase.due disk criterion options) behind
    rw [earlier] at total
    rw [later, ← total]
    calc
      _ = next.board.tally + after.due disk criterion options +
            next.board.due disk criterion options + lost +
          ((others.map (WorkerPhase.due disk criterion options)).sum + former) := by abel
      _ = scan.board.tally + phase.due disk criterion options +
            scan.board.due disk criterion options +
          ((others.map (WorkerPhase.due disk criterion options)).sum + former) := by rw [step]
      _ = _ := by abel

theorem finished_tally (scan : ParallelScan) (balanced : Balanced disk criterion options scan)
    (finished : scan.isFinished = true) :
    ∃ lost : Tally, (scan.board.stopped = false → lost = 0) ∧
      scan.board.tally + lost =
        Tally.ofVisits disk criterion options (Scan.visits disk criterion options) := by
  obtain ⟨lost, none, total⟩ := balanced
  have idle : (scan.workers.map (WorkerPhase.due disk criterion options)).sum = 0 :=
    sum_of_finished rfl finished
  rw [isFinished, Bool.and_eq_true, Bool.or_eq_true] at finished
  refine ⟨scan.board.due disk criterion options + lost, ?_, ?_⟩
  · intro running
    have pending : scan.board.pending = [] := by
      rcases finished.2 with stopped | empty
      · rw [running] at stopped
        cases stopped
      · exact List.isEmpty_iff.mp empty
    rw [none running, ScanBoard.due, pending, add_zero]
    rfl
  · rw [← total, idle, add_zero, add_assoc]

end ParallelScan

end

def WorkerPhase.unsent : WorkerPhase → Nat
  | counted _ _ => 1
  | _ => 0

def WorkerPhase.Numbered (options : ScanOptions) (matched : Nat) : WorkerPhase → Prop
  | counted _ number | sent _ number => number ≤ matched
  | full _ => ParallelScan.isQuota options matched = true
  | _ => True

namespace ParallelScan

theorem isQuota_mono (options : ScanOptions) {fewer more : Nat} (le : fewer ≤ more)
    (reached : isQuota options fewer = true) : isQuota options more = true := by
  rw [isQuota, Option.any_eq_true] at reached ⊢
  obtain ⟨limit, asked, reached⟩ := reached
  exact ⟨limit, asked, decide_eq_true (le_trans (of_decide_eq_true reached) le)⟩

end ParallelScan

theorem WorkerPhase.Numbered.mono {options : ScanOptions} {fewer more : Nat} {phase : WorkerPhase}
    (le : fewer ≤ more) (numbered : phase.Numbered options fewer) : phase.Numbered options more := by
  cases phase with
  | counted | sent => exact le_trans numbered le
  | full => exact ParallelScan.isQuota_mono options le numbered
  | idle | handed | admitted | matching | judged => trivial

namespace ParallelScan

variable {disk : Disk} {criterion : Criterion} {options : ScanOptions}

theorem step_numbered {move : ScanMove} {board after : ScanBoard} {phase next : WorkerPhase}
    (stepped : step? disk criterion options move board phase = some (next, after))
    (numbered : phase.Numbered options board.matched) :
    board.matched ≤ after.matched ∧ next.Numbered options after.matched ∧
      after.matched + board.found.length + phase.unsent =
        board.matched + after.found.length + next.unsent ∧
      (after.stopped = true → board.stopped = true ∨ isQuota options after.matched = true) := by
  cases phase with
  | idle =>
      obtain ⟨errand, taken, rfl, rfl⟩ := step_idle stepped
      exact ⟨le_refl _, trivial, rfl, .inl⟩
  | handed errand =>
      obtain ⟨rfl, ⟨_, rfl⟩ | rfl⟩ := step_handed stepped
      · exact ⟨le_refl _, trivial, rfl, .inl⟩
      · split <;> exact ⟨le_refl _, trivial, rfl, .inl⟩
  | admitted errand =>
      cases stepped
      split <;> exact ⟨le_refl _, trivial, rfl, .inl⟩
  | matching errand =>
      cases stepped
      refine ⟨Nat.le_succ _, le_refl _, ?_, .inl⟩
      simp only [WorkerPhase.unsent]
      omega
  | counted errand number =>
      cases stepped
      refine ⟨le_refl _, numbered, ?_, .inl⟩
      simp only [WorkerPhase.unsent, List.length_append, List.length_singleton]
      omega
  | sent errand number =>
      cases stepped
      split
      · rename_i reached
        exact ⟨le_refl _, isQuota_mono options numbered reached, rfl, .inl⟩
      · exact ⟨le_refl _, trivial, rfl, .inl⟩
  | full errand =>
      cases stepped
      -- Only a worker whose match filled the quota ends the scan.
      exact ⟨le_refl _, trivial, rfl, fun _ => .inr numbered⟩
  | judged errand =>
      cases stepped
      exact ⟨le_refl _, trivial, rfl, .inl⟩

/-- The counter of matches is ahead of the matches sent by those that are under way, and a scan is ended only when
it has reached the quota. -/
structure Numbered (options : ScanOptions) (scan : ParallelScan) : Prop where
  matched : scan.board.matched =
    scan.board.found.length + (scan.workers.map WorkerPhase.unsent).sum
  phases : ∀ phase ∈ scan.workers, phase.Numbered options scan.board.matched
  stopped : scan.board.stopped = true → isQuota options scan.board.matched = true

theorem start_numbered (disk : Disk) (criterion : Criterion) (workers : Nat) :
    Numbered options (start disk criterion options workers) where
  matched := by simp [start, WorkerPhase.unsent]
  phases phase member := by
    rw [start, List.mem_replicate] at member
    rw [member.2]
    trivial
  stopped := nofun

theorem move_numbered (scan : ParallelScan) (move : ScanMove) (next : ParallelScan)
    (numbered : Numbered options scan) (moved : move? disk criterion options scan move = some next) :
    Numbered options next := by
  obtain ⟨phase, after, others, before, behind, stepped⟩ := move_step moved
  have own := numbered.phases phase (before.mem_iff.mpr List.mem_cons_self)
  obtain ⟨grows, keeps, balance, ends⟩ := step_numbered stepped own
  constructor
  · have earlier := sum_map_of_perm_cons WorkerPhase.unsent before
    have later := sum_map_of_perm_cons WorkerPhase.unsent behind
    have matched := numbered.matched
    omega
  · intro other member
    rcases List.mem_cons.mp (behind.mem_iff.mp member) with rfl | member
    · exact keeps
    · have among := before.mem_iff.mpr (List.mem_cons_of_mem phase member)
      exact (numbered.phases other among).mono grows
  · intro stopped
    rcases ends stopped with already | reached
    · exact isQuota_mono options grows (numbered.stopped already)
    · exact reached

theorem finished_matched (scan : ParallelScan) (numbered : Numbered options scan)
    (finished : scan.isFinished = true) : scan.board.matched = scan.board.found.length := by
  have none : (scan.workers.map WorkerPhase.unsent).sum = 0 := sum_of_finished rfl finished
  rw [numbered.matched, none, Nat.add_zero]

end ParallelScan

end FileSieve
