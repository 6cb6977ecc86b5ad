import FileSieve.Proofs.Criteria.Confinement
import FileSieve.Proofs.Disk.FileNames
import FileSieve.Proofs.Scan.Completeness
import FileSieve.Proofs.Scan.Roots

/-! Scans with reordered criteria. A scan takes its roots from the first part of a conjunction that confines matches,
and reordering may put another part first; apart from the roots, it changes nothing about a scan. -/

namespace FileSieve

namespace Scan

def asWritten (criterion : Criterion) (options : ScanOptions) : Criterion :=
  if options.recursive then criterion else criterion.withoutPruning

theorem prepare_eq (criterion : Criterion) (options : ScanOptions) :
    prepare criterion options = (asWritten criterion options).reorder := by
  rw [prepare, asWritten]
  split
  · rfl
  · exact criterion.reorder_withoutPruning.symm

theorem roots_prepare (criterion : Criterion) (options : ScanOptions) :
    (prepare criterion options).roots = criterion.reorder.roots := by
  rw [prepare]
  split
  · rfl
  · rw [Criterion.roots, Criterion.roots?_withoutPruning, Criterion.roots]

theorem roots_asWritten (criterion : Criterion) (options : ScanOptions) :
    (asWritten criterion options).roots = criterion.roots := by
  rw [asWritten]
  split
  · rfl
  · rw [Criterion.roots, Criterion.roots?_withoutPruning, Criterion.roots]

theorem run_of_alike (disk : Disk) {first second : Criterion} (alike : first.Alike second)
    (options : ScanOptions) (roots : scanRoots disk first options = scanRoots disk second options) :
    run disk first options = run disk second options := by
  have pruning : prunes first = prunes second := by
    funext directory
    rw [prunes, prunes, alike.decision]
  have judging : (fun file => first.evaluate file) = fun file => second.evaluate file :=
    funext alike.evaluate
  have visited : visits disk first options = visits disk second options := by
    rw [visits, visits, roots, pruning]
  simp only [run, visited, hits, judging, pruning]

theorem scanRoots_requested (disk : Disk) (first second : Criterion) (options : ScanOptions) :
    scanRoots disk second { options with roots := scanRoots disk first options } =
      scanRoots disk first options := by
  rw [scanRoots_of_requested disk second _ (scanRoots_ne_nil disk first options)]
  exact canonicalRoots_canonicalRoots _

theorem run_requested (disk : Disk) (criterion : Criterion) (options : ScanOptions) :
    run disk criterion { options with roots := scanRoots disk criterion options } =
      run disk criterion options := by
  have same := scanRoots_requested disk criterion criterion options
  simp only [run, visits, same]
  rfl

/-- A scan reports of the reordered criterion what it reports of the criterion as written, from the roots of the
reordered one. It is the same scan if roots are asked for or those of the patterns are the same, as they are where no
pattern confines matches. -/
theorem reorder_moves_roots (disk : Disk) (criterion : Criterion) (options : ScanOptions) :
    run disk (prepare criterion options) options =
        run disk (asWritten criterion options)
          { options with roots := scanRoots disk (prepare criterion options) options } ∧
      (options.roots ≠ [] ∨ criterion.reorder.roots = criterion.roots →
        run disk (prepare criterion options) options = run disk (asWritten criterion options) options) ∧
      (criterion.roots? = none → criterion.reorder.roots = criterion.roots) := by
  have alike : (prepare criterion options).Alike (asWritten criterion options) := by
    rw [prepare_eq]
    exact Criterion.reorder_alike _
  refine ⟨?_, ?_, ?_⟩
  · calc
      _ = run disk (prepare criterion options)
            { options with roots := scanRoots disk (prepare criterion options) options } :=
        (run_requested disk _ options).symm
      _ = _ := by
        apply run_of_alike disk alike
        rw [scanRoots_requested, scanRoots_requested]
  · intro settled
    apply run_of_alike disk alike
    rcases settled with asked | same
    · rw [scanRoots, scanRoots, if_pos asked, if_pos asked]
    · rw [scanRoots, scanRoots, roots_prepare, roots_asWritten, same]
  · intro unconfined
    have reordered := criterion.roots?_reorder_eq_none_iff.mpr unconfined
    rw [Criterion.roots, Criterion.roots, reordered, unconfined]

def shallow : ScanOptions := { ScanOptions.initial (.ofString "/") with recursive := false }

theorem reorder_moves_roots_unconfined :
    let criterion : Criterion :=
      .bracket [.not (.leaf (.type .signed)), .leaf (.wildcard (.ofText "*.txt" (.ofString "/")))]
    criterion.roots? = none ∧ (shallow.roots ≠ [] ∨ criterion.reorder.roots = criterion.roots) ∧
      (run sample (prepare criterion shallow) shallow).visited = 2 := by
  intro criterion
  have moves := reorder_moves_roots sample criterion shallow
  have unconfined : criterion.roots? = none := rfl
  have settled : shallow.roots ≠ [] ∨ criterion.reorder.roots = criterion.roots :=
    .inr (moves.2.2 unconfined)
  refine ⟨unconfined, settled, ?_⟩
  have root : scanRoots sample (asWritten criterion shallow) shallow = [.ofString "/"] := by
    change canonicalRoots [.ofString "/"] = _
    rw [canonicalRoots, List.mergeSort_singleton]
    rfl
  rw [moves.2.1 settled, run, visits, root, List.flatMap_singleton, Disk.visits, list_sample]
  rfl

def innerDirectory : Entry := .directory [0x62] ⟨⟨0, 0⟩, false⟩ [.file [0x66] ⟨⟨0, 0⟩, false⟩ [0x78]]

def outerDirectory : Entry := .directory [0x61] ⟨⟨0, 0⟩, false⟩ [innerDirectory]

def nested : Disk := ⟨[outerDirectory], .ofString "/"⟩

def uneven : Criterion :=
  .bracket [.bracket [.leaf (.wildcard (.ofText "/a/*" (.ofString "/"))), .not (.leaf (.type .signed))],
    .leaf (.wildcard (.ofText "/a/b/*" (.ofString "/")))]

theorem parse_uneven :
    parse (fun _ => .error "") ⟨0, 0⟩ (.initial (.ofString "/")) "\x7b /a/* NOT -tZ \x7d /a/b/* -n" =
      .ok (uneven, shallow) := by
  have tokens : tokenize "\x7b /a/* NOT -tZ \x7d /a/b/* -n" =
      .ok [.keyword .openBrace "\x7b", .pattern "/a/*", .keyword .not "NOT", .modifier "-tZ" none,
        .keyword .closeBrace "\x7d", .pattern "/a/b/*", .modifier "-n" none, .finish] := rfl
  rw [parse, tokens]
  change parseTokens _ _ _ _ = _
  simp only [parseTokens, Parser.read]
  rfl

theorem list_nested :
    nested.list (.ofString "/") = .ok [outerDirectory] ∧
      nested.list (.ofString "/a") = .ok [innerDirectory] ∧
        nested.list (.ofString "/a/b") = .ok [.file [0x66] ⟨⟨0, 0⟩, false⟩ [0x78]] := by
  have top : nested.lookup (.ofString "/") true = .ok nested.root := by
    change Disk.walk nested true Disk.maxLinks [] nested.root [[0x2E]] = _
    rw [Disk.root, Disk.walk, if_pos rfl, Disk.walk]
  have middle : nested.lookup (.ofString "/a") true = .ok outerDirectory := by
    change Disk.walk nested true Disk.maxLinks [] nested.root [[0x61]] = _
    rw [Disk.root, Disk.walk_found (by decide) (by decide) rfl rfl, Disk.walk]
  have bottom : nested.lookup (.ofString "/a/b") true = .ok innerDirectory := by
    change Disk.walk nested true Disk.maxLinks [] nested.root [[0x61], [0x62]] = _
    rw [Disk.root, Disk.walk_found (by decide) (by decide) rfl rfl, outerDirectory,
      Disk.walk_found (by decide) (by decide) rfl rfl, Disk.walk]
  rw [Disk.list, Disk.list, Disk.list, top, middle, bottom]
  exact ⟨rfl, rfl, rfl⟩

theorem reorder_uneven :
    uneven.reorder = .bracket [.leaf (.wildcard (.ofText "/a/b/*" (.ofString "/"))),
      .bracket [.leaf (.wildcard (.ofText "/a/*" (.ofString "/"))), .not (.leaf (.type .signed))]] := by
  rw [uneven]
  simp only [Criterion.reorder, Criterion.reorderAll, Criterion.byCost_pair]
  rfl

theorem spelled_nested :
    nested.spelled (.ofString "/a/") = .ofString "/a" ∧ nested.spelled (.ofString "/a/b/") = .ofString "/a/b" := by
  obtain ⟨top, middle, _⟩ := list_nested
  have outer : nested.spelling? (.ofString "/") [0x61] = some [0x61] := by
    rw [Disk.spelling?, top]
    rfl
  have inner : nested.spelling? (.ofString "/a") [0x62] = some [0x62] := by
    rw [Disk.spelling?, middle]
    rfl
  have start : Path.push ⟨[]⟩ .root = .ofString "/" := by decide
  have next : Path.push (.ofString "/") (.name [0x61]) = .ofString "/a" := by decide
  have last : Path.push (.ofString "/a") (.name [0x62]) = .ofString "/a/b" := by decide
  constructor
  · change nested.spell ⟨[]⟩ [.root, .name [0x61]] = _
    simp only [Disk.spell, start, outer, next]
  · change nested.spell ⟨[]⟩ [.root, .name [0x61], .name [0x62]] = _
    simp only [Disk.spell, start, outer, next, inner, last]

theorem scanRoots_uneven :
    scanRoots nested (prepare uneven shallow) shallow = [.ofString "/a/b"] ∧
      scanRoots nested (asWritten uneven shallow) shallow = [.ofString "/a"] := by
  obtain ⟨outer, inner⟩ := spelled_nested
  have reordered : prepare uneven shallow = uneven.reorder.withoutPruning := rfl
  constructor
  · rw [reordered, reorder_uneven, ← inner]
    exact canonicalRoots_singleton _
  · rw [← outer]
    exact canonicalRoots_singleton _

theorem visits_uneven :
    visits nested (prepare uneven shallow) shallow = [⟨.ofString "/a/b/f", false⟩] ∧
      visits nested (asWritten uneven shallow) shallow = [⟨.ofString "/a/b", true⟩] := by
  obtain ⟨below, above⟩ := scanRoots_uneven
  obtain ⟨_, middle, bottom⟩ := list_nested
  constructor
  · rw [visits, below, List.flatMap_singleton, Disk.visits, bottom]
    rfl
  · rw [visits, above, List.flatMap_singleton, Disk.visits, middle]
    rfl

theorem evaluate_uneven (disk : Disk) (path : Path) :
    (asWritten uneven shallow).evaluate (disk.record path) =
      (asWritten uneven shallow).evaluate (.absent path) := by
  have unsigned : (disk.record path).isSigned = false := by
    rw [Disk.record]
    split <;> rfl
  have reads (file : File) : (asWritten uneven shallow).evaluate file =
      (asWritten uneven shallow).evaluate { File.absent file.path with isSigned := file.isSigned } := rfl
  rw [reads, unsigned, record_path]
  rfl

/-- Without recursion, a text is found only because the cheaper part has been put first. -/
theorem reorder_adds_match :
    ¬ ∀ (disk : Disk) (source : LoadlineSource) (now : Instant) (initial : ScanOptions)
      (commandLine : String) (criterion : Criterion) (options : ScanOptions),
      disk.hasFileNames = true → parse source now initial commandLine = .ok (criterion, options) →
      options.limit = none → ∀ found,
        found ∈ (run disk (prepare criterion options) options).found ↔
          found ∈ (run disk (asWritten criterion options) options).found := by
  intro same
  obtain ⟨below, above⟩ := visits_uneven
  have holds : (prepare uneven shallow).evaluate (nested.record (.ofString "/a/b/f")) = true := by
    have alike := Criterion.reorder_alike (asWritten uneven shallow)
    rw [prepare_eq, alike.evaluate, evaluate_uneven]
    decide
  have reported := (same nested _ _ _ _ _ _ (by decide) parse_uneven rfl
    (Match.ofFile .bare (nested.record (.ofString "/a/b/f")))).mp
  simp only [run, mem_arrange shallow rfl, mem_hits, below, above] at reported
  obtain ⟨visit, visited, _, path⟩ := reported ⟨_, List.mem_singleton_self _, holds, rfl⟩
  cases List.mem_singleton.mp visited
  have paths := congrArg Match.path path
  simp only [Match.ofFile, record_path] at paths
  revert paths
  decide

end Scan

end FileSieve
