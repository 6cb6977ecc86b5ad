import Mathlib.Algebra.BigOperators.Ring.List
import Mathlib.Algebra.Ring.Nat
import Mathlib.Data.List.Perm.Basic
import FileSieve.Proofs.Scan.Reached
import FileSieve.Scan.Parallel

/-! Progress of parallel scans. Every move is some worker's step, each step leaves less to do, and a scan that has
not finished has a move; so in any interleaving a scan comes to an end. -/

namespace FileSieve

theorem sum_map_of_perm_cons {α M : Type} [AddCommMonoid M] (measure : α → M) {items others : List α}
    {item : α} (apart : items.Perm (item :: others)) :
    (items.map measure).sum = measure item + (others.map measure).sum := by
  rw [← List.sum_cons, ← List.map_cons]
  exact (apart.map measure).sum_eq

theorem perm_cons_eraseIdx {α : Type} {items : List α} {place : Nat} {item : α}
    (there : items[place]? = some item) : items.Perm (item :: items.eraseIdx place) := by
  obtain ⟨inside, rfl⟩ := List.getElem?_eq_some_iff.mp there
  exact (List.getElem_cons_eraseIdx_perm inside).symm

section

variable (disk : Disk) (criterion : Criterion) (options : ScanOptions)

def Scan.enters (directory : Path) : Bool := options.recursive && !Scan.prunes criterion directory

namespace Errand

def behind : Errand → List Visit
  | root path => disk.visits (Scan.enters criterion options) path
  | entry directory (.directory name _ entries) =>
    let path := directory.push (.name name)
    if Scan.enters criterion options path then visitsBelow (Scan.enters criterion options) path entries
    else []
  | entry _ _ => []

def visits : Errand → List Visit
  | root path => disk.visits (Scan.enters criterion options) path
  | entry directory item => item.visits (Scan.enters criterion options) directory

theorem visits_entry (directory : Path) (item : Entry) :
    visits disk criterion options (.entry directory item) =
      ⟨directory.push (.name item.name), item.isDirectory⟩ ::
        behind disk criterion options (.entry directory item) := by
  cases item <;> rfl

theorem flatMap_contents (errand : Errand) :
    (ParallelScan.contents disk criterion options errand).flatMap (visits disk criterion options) =
      behind disk criterion options errand := by
  cases errand with
  | root path =>
      simp [ParallelScan.contents, contents, behind, Disk.visits, visitsBelow_eq_flatMap,
        List.flatMap_map, visits]
  | entry directory item =>
      cases item with
      | file name stat contents | link name stat target => rfl
      | directory name stat entries =>
          by_cases enters : Scan.enters criterion options (directory.push (.name name)) = true
          · have entered := enters
            rw [Scan.enters] at entered
            simp [ParallelScan.contents, contents, behind, enters, entered, visitsBelow_eq_flatMap,
              List.flatMap_map, visits]
          · have passed := enters
            rw [Scan.enters] at passed
            simp [ParallelScan.contents, contents, behind, enters, passed]

theorem contents_entries (errand next : Errand)
    (member : next ∈ ParallelScan.contents disk criterion options errand) :
    ∃ directory item, next = .entry directory item := by
  cases errand with
  | root path =>
      obtain ⟨item, _, rfl⟩ := List.mem_map.mp member
      exact ⟨path, item, rfl⟩
  | entry directory item =>
      cases item with
      | file name stat contents | link name stat target => cases member
      | directory name stat entries =>
          rw [ParallelScan.contents, contents] at member
          split at member
          · obtain ⟨item, _, rfl⟩ := List.mem_map.mp member
            exact ⟨_, item, rfl⟩
          · cases member

end Errand

namespace ParallelScan

variable {disk criterion options}

theorem step_idle {move : ScanMove} {board after : ScanBoard} {next : WorkerPhase}
    (stepped : step? disk criterion options move board .idle = some (next, after)) :
    ∃ errand, board.pending[move.place]? = some errand ∧ next = .handed errand ∧
      after = { board with pending := board.pending.eraseIdx move.place } := by
  rw [step?] at stepped
  split at stepped
  · rename_i errand taken
    cases stepped
    exact ⟨errand, taken, rfl, rfl⟩
  · cases stepped

theorem step_handed {move : ScanMove} {board after : ScanBoard} {errand : Errand} {next : WorkerPhase}
    (stepped : step? disk criterion options move board (.handed errand) = some (next, after)) :
    after = board ∧ (board.stopped = true ∧ next = .idle ∨
      next = if errand.isRoot then .judged errand else .admitted errand) := by
  rw [step?] at stepped
  split at stepped
  · split at stepped
    · rename_i stopped
      cases stepped
      exact ⟨rfl, .inl ⟨stopped, rfl⟩⟩
    · cases stepped
  · cases stepped
    exact ⟨rfl, .inr rfl⟩

theorem move_step {scan next : ParallelScan} {move : ScanMove}
    (moved : move? disk criterion options scan move = some next) :
    ∃ phase after others, scan.workers.Perm (phase :: others) ∧ next.workers.Perm (after :: others) ∧
      step? disk criterion options move scan.board phase = some (after, next.board) := by
  rw [move?] at moved
  split at moved
  · cases moved
  · rename_i phase present
    obtain ⟨⟨after, board⟩, stepped, rfl⟩ := Option.map_eq_some_iff.mp moved
    obtain ⟨inside, _⟩ := List.getElem?_eq_some_iff.mp present
    refine ⟨phase, after, scan.workers.eraseIdx move.worker, perm_cons_eraseIdx present, ?_, stepped⟩
    exact List.set_perm_cons_eraseIdx inside after

theorem idle_of_finished {scan : ParallelScan} (finished : scan.isFinished = true) {phase : WorkerPhase}
    (member : phase ∈ scan.workers) : phase = .idle := by
  rw [isFinished, Bool.and_eq_true] at finished
  have resting := List.all_eq_true.mp finished.1 phase member
  cases phase <;> first | rfl | cases resting

theorem sum_of_finished {M : Type} [AddCommMonoid M] {measure : WorkerPhase → M}
    (idle : measure .idle = 0) {scan : ParallelScan} (finished : scan.isFinished = true) :
    (scan.workers.map measure).sum = 0 := by
  apply List.sum_eq_zero
  intro part member
  obtain ⟨phase, among, rfl⟩ := List.mem_map.mp member
  rw [idle_of_finished finished among, idle]

/-- What every move preserves holds behind any run. -/
theorem run_preserves (holds : ParallelScan → Prop)
    (preserved : ∀ scan move next, holds scan → move? disk criterion options scan move = some next →
      holds next)
    {scan last : ParallelScan} {moves : List ScanMove} (initially : holds scan)
    (ran : run? disk criterion options scan moves = some last) : holds last := by
  induction moves generalizing scan with
  | nil =>
      cases ran
      exact initially
  | cons move moves ih =>
      rw [run?, List.foldlM_cons] at ran
      obtain ⟨next, moved, rest⟩ := Option.bind_eq_some_iff.mp ran
      exact ih (preserved scan move next initially moved) rest

end ParallelScan

/-- The steps that an errand is good for until all that lies behind it has been dealt with. -/
def Errand.effort (errand : Errand) : Nat := 8 + 8 * (errand.behind disk criterion options).length

def WorkerPhase.effort : WorkerPhase → Nat
  | idle => 0
  | handed errand => 7 + 8 * (errand.behind disk criterion options).length
  | admitted errand => 6 + 8 * (errand.behind disk criterion options).length
  | matching errand => 5 + 8 * (errand.behind disk criterion options).length
  | counted errand _ => 4 + 8 * (errand.behind disk criterion options).length
  | sent errand _ => 3 + 8 * (errand.behind disk criterion options).length
  | full errand => 2 + 8 * (errand.behind disk criterion options).length
  | judged errand => 1 + 8 * (errand.behind disk criterion options).length

def ParallelScan.effort (scan : ParallelScan) : Nat :=
  (scan.workers.map (WorkerPhase.effort disk criterion options)).sum +
    (scan.board.pending.map (Errand.effort disk criterion options)).sum

theorem Errand.effort_contents (errand : Errand) :
    ((ParallelScan.contents disk criterion options errand).map (effort disk criterion options)).sum =
      8 * (errand.behind disk criterion options).length := by
  have single : ∀ next ∈ ParallelScan.contents disk criterion options errand,
      effort disk criterion options next = 8 * (next.visits disk criterion options).length := by
    intro next member
    obtain ⟨directory, item, rfl⟩ := contents_entries disk criterion options errand next member
    rw [effort, visits_entry, List.length_cons, Nat.mul_add, Nat.add_comm]
  calc
    _ = ((ParallelScan.contents disk criterion options errand).map fun next =>
          8 * (next.visits disk criterion options).length).sum :=
      congrArg List.sum (List.map_congr_left single)
    _ = 8 * ((ParallelScan.contents disk criterion options errand).map fun next =>
          (next.visits disk criterion options).length).sum := List.sum_map_mul_left _ _ _
    _ = 8 * (errand.behind disk criterion options).length := by
      rw [← flatMap_contents, List.length_flatMap]

namespace ParallelScan

variable {disk criterion options}

theorem step_effort {move : ScanMove} {board after : ScanBoard} {phase next : WorkerPhase}
    (stepped : step? disk criterion options move board phase = some (next, after)) :
    next.effort disk criterion options + (after.pending.map (Errand.effort disk criterion options)).sum <
      phase.effort disk criterion options +
        (board.pending.map (Errand.effort disk criterion options)).sum := by
  cases phase with
  | idle =>
      obtain ⟨errand, taken, rfl, rfl⟩ := step_idle stepped
      have total := sum_map_of_perm_cons (Errand.effort disk criterion options) (perm_cons_eraseIdx taken)
      rw [Errand.effort] at total
      simp only [WorkerPhase.effort]
      omega
  | handed errand =>
      obtain ⟨rfl, ⟨_, rfl⟩ | rfl⟩ := step_handed stepped
      · simp only [WorkerPhase.effort]
        omega
      · split <;> simp only [WorkerPhase.effort] <;> omega
  | admitted errand =>
      cases stepped
      split <;> simp only [WorkerPhase.effort] <;> omega
  | matching errand | counted errand number | full errand =>
      cases stepped
      simp only [WorkerPhase.effort]
      omega
  | sent errand number =>
      cases stepped
      split <;> simp only [WorkerPhase.effort] <;> omega
  | judged errand =>
      cases stepped
      simp only [WorkerPhase.effort, List.map_append, List.sum_append, Errand.effort_contents]
      omega

theorem move_effort {scan next : ParallelScan} {move : ScanMove}
    (moved : move? disk criterion options scan move = some next) :
    next.effort disk criterion options < scan.effort disk criterion options := by
  obtain ⟨phase, after, others, before, behind, stepped⟩ := move_step moved
  have step := step_effort stepped
  have former := sum_map_of_perm_cons (WorkerPhase.effort disk criterion options) before
  have latter := sum_map_of_perm_cons (WorkerPhase.effort disk criterion options) behind
  rw [effort, effort, former, latter]
  omega

theorem run_effort {scan last : ParallelScan} {moves : List ScanMove}
    (ran : run? disk criterion options scan moves = some last) :
    moves.length + last.effort disk criterion options ≤ scan.effort disk criterion options := by
  induction moves generalizing scan with
  | nil =>
      cases ran
      simp
  | cons move moves ih =>
      rw [run?, List.foldlM_cons] at ran
      obtain ⟨next, moved, rest⟩ := Option.bind_eq_some_iff.mp ran
      have less := move_effort moved
      have others := ih rest
      rw [List.length_cons]
      omega

theorem move_workers {scan next : ParallelScan} {move : ScanMove}
    (moved : move? disk criterion options scan move = some next) :
    next.workers.length = scan.workers.length := by
  obtain ⟨phase, after, others, before, behind, _⟩ := move_step moved
  rw [before.length_eq, behind.length_eq, List.length_cons, List.length_cons]

variable (disk criterion options)

theorem step_busy (worker : Nat) (board : ScanBoard) (phase : WorkerPhase)
    (busy : phase.isIdle = false) :
    ∃ result, step? disk criterion options ⟨worker, 0, false⟩ board phase = some result := by
  cases phase with
  | idle => cases busy
  | handed | admitted | matching | counted | sent | full | judged => exact ⟨_, rfl⟩

theorem exists_move (scan : ParallelScan) (staffed : scan.workers ≠ [])
    (unfinished : scan.isFinished = false) :
    ∃ move next, move? disk criterion options scan move = some next := by
  by_cases resting : scan.workers.all WorkerPhase.isIdle = true
  · obtain ⟨first, others, workers⟩ := List.exists_cons_of_ne_nil staffed
    rw [isFinished, resting, Bool.true_and, Bool.or_eq_false_iff] at unfinished
    obtain ⟨errand, errands, pending⟩ :=
      List.exists_cons_of_ne_nil (List.isEmpty_eq_false_iff.mp unfinished.2)
    have idle : first = .idle := by
      rw [workers, List.all_cons, Bool.and_eq_true] at resting
      cases first <;> first | rfl | cases resting.1
    refine ⟨⟨0, 0, false⟩,
      ⟨.handed errand :: others, { scan.board with pending := errands }⟩, ?_⟩
    simp [move?, workers, idle, step?, pending]
  · obtain ⟨phase, member, busy⟩ : ∃ phase ∈ scan.workers, phase.isIdle = false := by
      simpa using resting
    obtain ⟨worker, inside, rfl⟩ := List.getElem_of_mem member
    obtain ⟨result, stepped⟩ := step_busy disk criterion options worker scan.board _ busy
    refine ⟨⟨worker, 0, false⟩, ⟨scan.workers.set worker result.1, result.2⟩, ?_⟩
    rw [move?, List.getElem?_eq_getElem inside]
    simp only [stepped, Option.map_some]

theorem exists_finish (scan : ParallelScan) (staffed : scan.workers ≠ []) :
    ∃ moves last, run? disk criterion options scan moves = some last ∧ last.isFinished = true := by
  by_cases finished : scan.isFinished = true
  · exact ⟨[], scan, rfl, finished⟩
  · have unfinished : scan.isFinished = false := Bool.eq_false_iff.mpr finished
    obtain ⟨move, next, moved⟩ := exists_move disk criterion options scan staffed unfinished
    have still : next.workers ≠ [] := by
      rw [← List.length_pos_iff, move_workers moved]
      exact List.length_pos_iff.mpr staffed
    have less := move_effort moved
    obtain ⟨moves, last, ran, finish⟩ := exists_finish next still
    refine ⟨move :: moves, last, ?_, finish⟩
    rw [run?, List.foldlM_cons, moved]
    exact ran
termination_by scan.effort disk criterion options
decreasing_by exact less

end ParallelScan

end

end FileSieve
