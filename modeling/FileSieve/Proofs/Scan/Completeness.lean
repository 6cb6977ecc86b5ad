import FileSieve.Scan.Basic
import FileSieve.Proofs.Criteria.Pruning
import FileSieve.Proofs.Criteria.Reordering
import FileSieve.Proofs.Query.Trees
import FileSieve.Proofs.Scan.Reached

namespace FileSieve

namespace Scan

theorem mem_arrange (options : ScanOptions) (unlimited : options.limit = none) (matched : List Match)
    (found : Match) : found ∈ arrange options matched ↔ found ∈ matched := by
  simp only [arrange, unlimited]
  split
  · rw [SortOrder.sort, List.mem_mergeSort]
  · exact List.mem_mergeSort

theorem mem_hits (disk : Disk) (tree : Criterion) (options : ScanOptions) (visits : List Visit)
    (found : Match) :
    found ∈ hits disk tree options visits ↔
      ∃ visit ∈ visits, tree.evaluate (disk.record visit.path) = true ∧
        found = Match.ofFile options.format (disk.record visit.path) := by
  simp only [hits, List.mem_map, List.mem_filter]
  constructor
  · rintro ⟨_, ⟨⟨visit, visited, rfl⟩, holds⟩, rfl⟩
    exact ⟨visit, visited, holds, rfl⟩
  · rintro ⟨visit, visited, holds, rfl⟩
    exact ⟨_, ⟨⟨visit, visited, rfl⟩, holds⟩, rfl⟩

theorem mem_found (disk : Disk) (tree : Criterion) (options : ScanOptions)
    (recursive : options.recursive = true) (unlimited : options.limit = none) (found : Match) :
    found ∈ (run disk tree options).found ↔
      ∃ root ∈ scanRoots disk tree options, ∃ way path, disk.Beneath root way path ∧
        (∀ passed ∈ way, tree.decision passed ≠ .prune) ∧
        tree.evaluate (disk.record path) = true ∧
        found = Match.ofFile options.format (disk.record path) := by
  have descends (way : List Path) :
      (∀ passed ∈ way, (options.recursive && !prunes tree passed) = true) ↔
        ∀ passed ∈ way, tree.decision passed ≠ .prune := by
    simp only [recursive, prunes, Bool.true_and, Bool.not_eq_true', beq_eq_false_iff_ne]
  simp only [run, mem_arrange options unlimited, mem_hits, visits, List.mem_flatMap]
  constructor
  · rintro ⟨visit, ⟨root, among, visited⟩, holds, rfl⟩
    obtain ⟨way, beneath, entered⟩ := (disk.mem_visits _ root visit.path).mp ⟨visit, visited, rfl⟩
    exact ⟨root, among, way, visit.path, beneath, (descends way).mp entered, holds, rfl⟩
  · rintro ⟨root, among, way, path, beneath, entered, holds, rfl⟩
    obtain ⟨visit, visited, rfl⟩ :=
      (disk.mem_visits _ root path).mpr ⟨way, beneath, (descends way).mpr entered⟩
    exact ⟨visit, ⟨root, among, visited⟩, holds, rfl⟩

theorem record_path (disk : Disk) (path : Path) : (disk.record path).path = path := by
  rw [Disk.record]
  split <;> rfl

theorem overruled_on_way (disk : Disk) (named : disk.named = true) (criterion : Criterion)
    (read : ∀ test ∈ criterion.leaves, test.IsRead) (root path passed : Path) (way : List Path)
    (beneath : disk.Beneath root way path) (member : passed ∈ way)
    (holds : criterion.evaluate (disk.record path) = true)
    (pruned : criterion.decision passed = .prune) :
    criterion.Overruled passed (disk.record path) := by
  obtain ⟨entries, listed, reached⟩ := beneath
  obtain ⟨inside, ends⟩ := reached.inside_way (disk.list_named named root entries listed) passed member
  rw [← record_path disk path] at inside
  exact criterion.overruled_of_prune _ passed read inside (.inr ends.2) holds pruned

theorem prepare_alike (criterion : Criterion) (options : ScanOptions)
    (recursive : options.recursive = true) : (prepare criterion options).Alike criterion := by
  rw [prepare, if_pos recursive]
  exact criterion.reorder_alike

def sample : Disk :=
  let stat : Stat := ⟨⟨0, 0⟩, false⟩
  let name (text : String) : Bytes := Utf8.encode text.toList
  ⟨[.directory (name "docs") stat [.file (name "a.txt") stat [0x78]],
    .directory (name "logs") stat [.file (name "b.log") stat [0x79]]], .ofString "/"⟩

def mixed : Criterion :=
  .any [.leaf (.wildcard (.ofText "/logs/*" (.ofString "/"))),
    .leaf (.wildcard (.ofText "*.txt" (.ofString "/")))]

theorem parse_mixed :
    parse (fun _ => .error "") ⟨0, 0⟩ (.initial (.ofString "/")) "*.txt OR /logs/*" =
      .ok (mixed, .initial (.ofString "/")) := by
  have tokens : tokenize "*.txt OR /logs/*" =
      .ok [.pattern "*.txt", .keyword .or "OR", .pattern "/logs/*", .finish] := rfl
  rw [parse, tokens]
  change parseTokens _ _ _ [.pattern "*.txt", .keyword .or "OR", .pattern "/logs/*", .finish] = _
  rw [parseTokens, Parser.read, Parser.read]
  change Parser.read _ _ _ _ _ [.pattern "/logs/*", .finish] = _
  rw [Parser.read, Parser.read]
  rfl

theorem evaluate_mixed (file : File) : mixed.evaluate file = mixed.evaluate (.absent file.path) := rfl

theorem reorder_mixed : mixed.reorder = mixed := by
  have steady (a b : PathPattern) :
      Criterion.byCost [.leaf (.wildcard a), .leaf (.wildcard b)] =
        [.leaf (.wildcard a), .leaf (.wildcard b)] := by
    apply List.mergeSort_of_pairwise
    exact List.pairwise_pair.mpr rfl
  exact congrArg Criterion.any (steady _ _)

theorem scanRoots_mixed :
    scanRoots sample (prepare mixed (.initial (.ofString "/"))) (.initial (.ofString "/")) =
      [.ofString "/"] := by
  have prepared : prepare mixed (.initial (.ofString "/")) = mixed := reorder_mixed
  rw [prepared]
  change canonicalRoots [.ofString "/"] = _
  rw [canonicalRoots, List.mergeSort_singleton]
  rfl

theorem list_sample : sample.list (.ofString "/") = .ok sample.entries := by
  have found : sample.lookup (.ofString "/") true = .ok sample.root := by
    change Disk.walk sample true Disk.maxLinks [] sample.root [[0x2E]] = _
    rw [Disk.root, Disk.walk, if_pos rfl, Disk.walk]
  rw [Disk.list, found]
  rfl

theorem visits_mixed :
    visits sample (prepare mixed (.initial (.ofString "/"))) (.initial (.ofString "/")) =
      [⟨.ofString "/docs", true⟩, ⟨.ofString "/logs", true⟩, ⟨.ofString "/logs/b.log", false⟩] := by
  have prepared : prepare mixed (.initial (.ofString "/")) = mixed := reorder_mixed
  rw [visits, scanRoots_mixed, prepared, List.flatMap_singleton, Disk.visits, list_sample]
  decide

end Scan
end FileSieve
