import FileSieve.Proofs.Criteria.RootedNames
import FileSieve.Proofs.Scan.Completeness

/-! Rooted patterns on a disk. A scan for one rooted pattern looks below one directory only, the one that is found
for its root. Of the entries that the pattern matches, it reports just those whose names agree with what is found. -/

namespace FileSieve

namespace Scan

theorem mem_found_wildcard (disk : Disk) (named : disk.named = true) (pattern : PathPattern)
    (read : pattern.IsRead) (directory : Path) (rooted : pattern.root? = some directory) (options : ScanOptions)
    (unrequested : options.roots = []) (recursive : options.recursive = true) (unlimited : options.limit = none)
    (path : Path) (matched : pattern.matches path = true) :
    Match.ofFile options.format (disk.record path) ∈
        (run disk (prepare (.leaf (.wildcard pattern)) options) options).found ↔
      ∃ way, disk.Beneath (disk.spelled directory) way path := by
  have prepared : prepare (.leaf (.wildcard pattern)) options = .leaf (.wildcard pattern) := by
    rw [prepare, if_pos recursive, Criterion.reorder]
  have bounded : (Criterion.leaf (.wildcard pattern)).roots = [directory] := by
    rw [Criterion.roots, Criterion.roots?, rooted]
    rfl
  have roots : scanRoots disk (.leaf (.wildcard pattern)) options = [disk.spelled directory] := by
    rw [scanRoots, if_neg (not_not_intro unrequested), bounded]
    change canonicalRoots [disk.spelled directory] = _
    rw [canonicalRoots, List.mergeSort_singleton]
    rfl
  rw [prepared, mem_found disk _ options recursive unlimited, roots]
  constructor
  · rintro ⟨_, member, way, other, beneath, _, _, same⟩
    cases List.mem_singleton.mp member
    have paths := congrArg Match.path same
    simp only [Match.ofFile, record_path] at paths
    exact ⟨way, paths ▸ beneath⟩
  · rintro ⟨way, beneath⟩
    have holds : (Criterion.leaf (.wildcard pattern)).evaluate (disk.record path) = true := by
      rw [← record_path disk path] at matched
      exact matched
    refine ⟨_, List.mem_singleton_self _, way, path, beneath, ?_, holds, rfl⟩
    intro passed member pruned
    obtain ⟨entries, listed, reached⟩ := beneath
    obtain ⟨inside, ends⟩ := reached.inside_way (disk.list_named named _ entries listed) passed member
    rw [← record_path disk path] at inside
    have fails := Leaf.not_evaluate_of_prune (.wildcard pattern) read _ passed inside (.inr ends.2) pruned
    exact Bool.false_ne_true (fails.symm.trans holds)

/-- Of the entries that a rooted pattern matches, a scan reports those whose names are taken for the pattern's root.
In whatever letter case the directories on the way are spelled, they are, unless there is a second spelling beside one
of them or a backslash in a name, which the pattern reads as a separator. -/
theorem finds_spelled (disk : Disk) (stored : disk.hasStoredNames = true) (source : LoadlineSource) (now : Instant)
    (initial : ScanOptions) (commandLine : String) (pattern : PathPattern) (options : ScanOptions)
    (parsed : parse source now initial commandLine = .ok (.leaf (.wildcard pattern), options))
    (directory : Path) (rooted : pattern.root? = some directory) (unrequested : options.roots = [])
    (recursive : options.recursive = true) (unlimited : options.limit = none) (names : List Bytes) (entry : Entry)
    (there : disk.root.at? names = some entry)
    (short : (Path.absolute (names.take directory.components.tail.length)).bytes.length ≤ Disk.maxPath)
    (matched : pattern.matches (Path.absolute names) = true) :
    (Match.ofFile options.format (disk.record (Path.absolute names)) ∈
        (run disk (prepare (.leaf (.wildcard pattern)) options) options).found ↔
      Follows directory.components.tail disk.root names) ∧
    (names ≠ [] → (∀ name ∈ names, 0x5C ∉ name) → Unrivalled directory.components.tail names disk.root →
      Match.ofFile options.format (disk.record (Path.absolute names)) ∈
        (run disk (prepare (.leaf (.wildcard pattern)) options) options).found) := by
  have emitted := (parse_built source now initial commandLine _ options parsed).leaves_emitted
  have read : pattern.IsRead := (emitted (.wildcard pattern) List.mem_cons_self).isRead
  have named : disk.named = true := allNamed_of_fileNames _ (disk.hasFileNames_of_stored stored)
  have proper (name : Bytes) (member : name ∈ names) :=
    isFileName_of_stored (Disk.isStoredName_of_at? stored there name member)
  have anchored := pattern.root?_isAbsolute read directory rooted _ (Path.absolute_isAbsolute names proper) matched
  have beneath := Disk.beneath_spelled_iff stored directory anchored names entry there short
  have reported := (mem_found_wildcard disk named pattern read directory rooted options unrequested recursive
    unlimited (Path.absolute names) matched).trans beneath
  refine ⟨reported, ?_⟩
  intro inhabited plain alone
  exact reported.mpr
    (pattern.follows_of_matches read directory rooted inhabited proper plain there alone matched)

def capitals : Entry :=
  .directory (Utf8.encode "LOGS".toList) ⟨⟨0, 0⟩, false⟩
    [.file (Utf8.encode "b.log".toList) ⟨⟨0, 0⟩, false⟩ [0x79]]

def smallLetters : Entry :=
  .directory (Utf8.encode "logs".toList) ⟨⟨0, 0⟩, false⟩
    [.file (Utf8.encode "a.log".toList) ⟨⟨0, 0⟩, false⟩ [0x78]]

def onlyCapitals : Disk := ⟨[.file (Utf8.encode "log".toList) ⟨⟨0, 0⟩, false⟩ [], capitals], .ofString "/"⟩

def bothSpellings : Disk := ⟨[capitals, smallLetters], .ofString "/"⟩

def logs : PathPattern := .ofText "/logs/*.log" (.ofString "/")

def capitalLog : List Bytes := [Utf8.encode "LOGS".toList, Utf8.encode "b.log".toList]

theorem logs_matches_capitals : logs.matches (Path.absolute capitalLog) = true := by decide

theorem parse_logs :
    parse (fun _ => .error "") ⟨0, 0⟩ (.initial (.ofString "/")) "/logs/*.log" =
      .ok (.leaf (.wildcard logs), .initial (.ofString "/")) := by
  have tokens : tokenize "/logs/*.log" = .ok [.pattern "/logs/*.log", .finish] := rfl
  rw [parse, tokens]
  change parseTokens _ _ _ _ = _
  simp only [parseTokens, Parser.read]
  rfl

theorem finds_spelled_capitals :
    Match.ofFile .bare (onlyCapitals.record (Path.absolute capitalLog)) ∈
        (run onlyCapitals (prepare (.leaf (.wildcard logs)) (.initial (.ofString "/")))
          (.initial (.ofString "/"))).found ∧
      Follows [.name (Utf8.encode "logs".toList)] onlyCapitals.root capitalLog := by
  have found := finds_spelled onlyCapitals (by decide) _ _ _ _ logs _ parse_logs (.ofString "/logs/") rfl rfl rfl rfl
    capitalLog _ rfl (by decide) logs_matches_capitals
  have reported := found.2 (List.cons_ne_nil _ _) (by decide) ⟨by decide, fun _ _ => trivial⟩
  exact ⟨reported, found.1.mp reported⟩

/-- Where a directory is spelled in two ways, what the other one holds is not found. -/
theorem other_spelling_lost :
    ¬ ∀ (disk : Disk) (source : LoadlineSource) (now : Instant) (initial : ScanOptions) (commandLine : String)
      (pattern : PathPattern) (options : ScanOptions) (directory : Path) (names : List Bytes) (entry : Entry),
      disk.hasStoredNames = true →
      parse source now initial commandLine = .ok (.leaf (.wildcard pattern), options) →
      pattern.root? = some directory → options.roots = [] → options.recursive = true → options.limit = none →
      disk.root.at? names = some entry → (Path.absolute names).bytes.length ≤ Disk.maxPath →
      pattern.matches (Path.absolute names) = true →
      Match.ofFile options.format (disk.record (Path.absolute names)) ∈
        (run disk (prepare (.leaf (.wildcard pattern)) options) options).found := by
  intro every
  have stored : bothSpellings.hasStoredNames = true := by decide
  have there : bothSpellings.root.at? capitalLog =
      some (.file (Utf8.encode "b.log".toList) ⟨⟨0, 0⟩, false⟩ [0x79]) := rfl
  have reported := every bothSpellings _ _ _ _ logs _ (.ofString "/logs/") capitalLog _ stored parse_logs rfl rfl rfl
    rfl there (by decide) logs_matches_capitals
  rw [mem_found_wildcard bothSpellings (by decide) logs (PathPattern.ofText_isRead _ _) (.ofString "/logs/") rfl _ rfl
      rfl rfl _ logs_matches_capitals,
    Disk.beneath_spelled_iff stored (.ofString "/logs/") rfl capitalLog _ there (by decide)] at reported
  have taken : Follows [.name (Utf8.encode "logs".toList)] bothSpellings.root capitalLog := reported
  cases taken with
  | deeper _ _ _ _ _ _ inner _ takes =>
      rw [Takes, if_pos (by decide)] at takes
      revert takes
      decide

end Scan

end FileSieve
