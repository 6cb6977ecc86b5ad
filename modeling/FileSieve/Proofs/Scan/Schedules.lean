import FileSieve.Proofs.Output.Sorting
import FileSieve.Proofs.Scan.Completeness
import FileSieve.Proofs.Scan.Ledger
import FileSieve.Proofs.Scan.Roots

/-! Schedules of parallel scans. A scan that orders its matches or has no limit reports the same however its workers
are scheduled; with a limit and no order, the number of matches reported and that they are matches are the same. -/

namespace FileSieve

namespace Scan

/-- How a report is ordered. -/
def reportOrder : Option SortOrder → Match → Match → Ordering
  | some order => order.compare
  | none => fun a b => a.path.compare b.path

instance (order : Option SortOrder) : Std.TransCmp (reportOrder order) := by
  cases order with
  | some order => exact inferInstanceAs (Std.TransCmp order.compare)
  | none => exact transCmp_on Path.compare Match.path

theorem components_of_reportOrder (order : Option SortOrder) (a b : Match) (same : reportOrder order a b = .eq) :
    a.path.components = b.path.components := by
  cases order with
  | some order => exact order.components_of_compare a b same
  | none => exact (Path.compare_eq_iff _ _).mp same

theorem arrange_eq (options : ScanOptions) (found : List Match) :
    arrange options found =
      let sorted := found.mergeSort fun a b => reportOrder options.order a b != .gt
      match options.limit with
      | some limit => sorted.take limit
      | none => sorted := by
  rw [arrange]
  cases options.order <;> rfl

theorem arrange_eq_of_perm (options : ScanOptions) {first second : List Match}
    (perm : first.Perm second)
    (told : ∀ a ∈ first, ∀ b ∈ first, a.path.components = b.path.components → a = b) :
    arrange options first = arrange options second := by
  have sorted := mergeSort_eq_of_perm (reportOrder options.order) perm fun a ofFirst b ofSecond same =>
    told a ofFirst b ofSecond (components_of_reportOrder _ a b same)
  rw [arrange_eq, arrange_eq, sorted]

theorem hits_told (disk : Disk) (proper : disk.hasFileNames = true) (criterion : Criterion)
    (options : ScanOptions) :
    ∀ a ∈ hits disk criterion options (visits disk criterion options),
      ∀ b ∈ hits disk criterion options (visits disk criterion options),
        a.path.components = b.path.components → a = b := by
  intro a ofFirst b ofSecond same
  obtain ⟨visitA, visitedA, _, rfl⟩ := (mem_hits _ _ _ _ _).mp ofFirst
  obtain ⟨visitB, visitedB, _, rfl⟩ := (mem_hits _ _ _ _ _).mp ofSecond
  obtain ⟨rootA, amongA, belowA⟩ := List.mem_flatMap.mp visitedA
  obtain ⟨rootB, amongB, belowB⟩ := List.mem_flatMap.mp visitedB
  obtain ⟨wayA, beneathA, _⟩ := (disk.mem_visits _ rootA visitA.path).mp ⟨visitA, belowA, rfl⟩
  obtain ⟨wayB, beneathB, _⟩ := (disk.mem_visits _ rootB visitB.path).mp ⟨visitB, belowB, rfl⟩
  simp only [Match.ofFile, record_path] at same
  rw [path_eq_of_components disk proper _ (canonicalRoots_apart _) amongA amongB beneathA beneathB same]

def anything : Criterion := .leaf (.wildcard (.ofText "*" (.ofString "/")))

theorem evaluate_anything (file : File) : anything.evaluate file = anything.evaluate (.absent file.path) :=
  rfl

theorem scanRoots_anything (order : Option SortOrder) (limit : Option Nat) :
    scanRoots sample anything { ScanOptions.initial (.ofString "/") with order, limit } = [.ofString "/"] :=
  canonicalRoots_singleton _

theorem visits_anything (order : Option SortOrder) (limit : Option Nat) :
    visits sample anything { ScanOptions.initial (.ofString "/") with order, limit } =
      [⟨.ofString "/docs", true⟩, ⟨.ofString "/docs/a.txt", false⟩, ⟨.ofString "/logs", true⟩,
        ⟨.ofString "/logs/b.log", false⟩] := by
  rw [visits, scanRoots_anything, List.flatMap_singleton, Disk.visits, list_sample]
  change visitsBelow (fun directory => !prunes anything directory) (.ofString "/") sample.entries = _
  decide

theorem length_hits_anything (order : Option SortOrder) (limit : Option Nat) :
    (hits sample anything { ScanOptions.initial (.ofString "/") with order, limit }
      (visits sample anything { ScanOptions.initial (.ofString "/") with order, limit })).length = 4 := by
  have holds : ∀ file ∈ (visits sample anything
      { ScanOptions.initial (.ofString "/") with order, limit }).map fun visit => sample.record visit.path,
      anything.evaluate file = true := by
    intro file member
    obtain ⟨visit, visited, rfl⟩ := List.mem_map.mp member
    rw [visits_anything] at visited
    rw [evaluate_anything, record_path]
    clear member
    revert visit
    decide
  rw [hits, List.length_map, List.filter_eq_self.mpr holds, List.length_map, visits_anything]
  rfl

end Scan

namespace ParallelScan

variable (disk : Disk) (criterion : Criterion) (options : ScanOptions)

/-- No interleaving of the workers goes on forever, and none gets stuck before it has finished. -/
def Ends (workers : Nat) : Prop :=
  ∃ bound, ∀ moves scan,
    run? disk criterion options (start disk criterion options workers) moves = some scan →
      moves.length ≤ bound ∧
        ∃ more last, run? disk criterion options scan more = some last ∧ last.isFinished = true

/-- In some interleaving, so many workers leave this when they have finished. -/
def Finishes (workers : Nat) (last : ParallelScan) : Prop :=
  ∃ moves, run? disk criterion options (start disk criterion options workers) moves = some last ∧
    last.isFinished = true

variable {disk criterion options}

theorem start_ends {workers : Nat} (staffed : 0 < workers) : Ends disk criterion options workers := by
  refine ⟨(start disk criterion options workers).effort disk criterion options, ?_⟩
  intro moves scan ran
  have spent := run_effort ran
  have same : scan.workers.length = workers := by
    apply run_preserves (fun scan => scan.workers.length = workers) _ _ ran
    · intro scan move next same moved
      rw [move_workers moved, same]
    · simp [start]
  have still : scan.workers ≠ [] := by
    rw [← List.length_pos_iff, same]
    exact staffed
  exact ⟨by omega, exists_finish disk criterion options scan still⟩

theorem Ends.finishes {workers : Nat} (ends : Ends disk criterion options workers) :
    ∃ last, Finishes disk criterion options workers last := by
  obtain ⟨bound, every⟩ := ends
  obtain ⟨_, more, last, ran, finished⟩ := every [] _ rfl
  exact ⟨last, more, ran, finished⟩

namespace Finishes

variable {workers : Nat} {last : ParallelScan}

theorem tally (finishes : Finishes disk criterion options workers last) :
    ∃ lost : Tally, (last.board.stopped = false → lost = 0) ∧
      last.board.tally + lost =
        Tally.ofVisits disk criterion options (Scan.visits disk criterion options) := by
  obtain ⟨moves, ran, finished⟩ := finishes
  have balanced := run_preserves _ move_balanced (start_balanced disk criterion options workers) ran
  exact finished_tally last balanced finished

theorem complete (finishes : Finishes disk criterion options workers last)
    (running : last.board.stopped = false) :
    last.board.visited = (Scan.run disk criterion options).visited ∧
      last.board.pruned = (Scan.run disk criterion options).pruned ∧
      last.board.found.Perm
        (Scan.hits disk criterion options (Scan.visits disk criterion options)) := by
  obtain ⟨lost, none, total⟩ := finishes.tally
  rw [none running, add_zero, Tally.ofVisits_eq] at total
  injection total with visited others
  injection others with pruned found
  exact ⟨visited, pruned, Multiset.coe_eq_coe.mp found⟩

theorem sound (finishes : Finishes disk criterion options workers last) :
    last.board.found.Subperm
      (Scan.hits disk criterion options (Scan.visits disk criterion options)) := by
  obtain ⟨lost, _, total⟩ := finishes.tally
  rw [Tally.ofVisits_eq] at total
  apply Multiset.coe_le.mp
  have found := congrArg (fun tally : Tally => tally.2.2) total
  exact le_of_le_of_eq (Multiset.le_add_right _ _) found

theorem quota_reached (finishes : Finishes disk criterion options workers last)
    (stopped : last.board.stopped = true) : isQuota options last.board.found.length = true := by
  obtain ⟨moves, ran, finished⟩ := finishes
  have numbered := run_preserves (Numbered options) move_numbered
    (start_numbered disk criterion workers) ran
  rw [← finished_matched last numbered finished]
  exact numbered.stopped stopped

end Finishes

end ParallelScan

end FileSieve
