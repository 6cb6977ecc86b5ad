import FileSieve.Proofs.Criteria.Reordering
import FileSieve.Proofs.Disk.Locate
import FileSieve.Proofs.Disk.Ways
import FileSieve.Query.Parser
import FileSieve.Scan.Basic

/-! Roots that are asked for. A scan that enters all directories comes by an entry once for each root it has kept that
leads to a directory above the entry. Roots are told apart by their spelling, so this is once for each entry beneath a
root where spelling tells which place lies in which. -/

namespace FileSieve

namespace Disk

/-- Whether a root leads to a directory above a place. -/
def isBeneath (disk : Disk) (place : List Bytes) (root : Path) : Bool :=
  match disk.place? root true with
  | some outer => outer.isPrefixOf place && outer != place
  | none => false

theorem isBeneath_iff {disk : Disk} {place : List Bytes} {root : Path} :
    disk.isBeneath place root = true ↔
      ∃ outer rest, disk.place? root true = some outer ∧ rest ≠ [] ∧ outer ++ rest = place := by
  rw [isBeneath]
  constructor
  · intro beneath
    split at beneath
    · rename_i outer leads
      rw [Bool.and_eq_true, bne_iff_ne] at beneath
      obtain ⟨rest, whole⟩ := List.isPrefixOf_iff_prefix.mp beneath.1
      refine ⟨outer, rest, leads, ?_, whole⟩
      rintro rfl
      exact beneath.2 ((List.append_nil _).symm.trans whole)
    · cases beneath
  · rintro ⟨outer, rest, leads, further, rfl⟩
    rw [leads]
    simp only [Bool.and_eq_true, bne_iff_ne]
    constructor
    · exact List.isPrefixOf_iff_prefix.mpr (List.prefix_append _ _)
    · exact fun same => further (List.self_eq_append_right.mp same)

/-- How many of the visits are of the entry in a place. -/
def timesAt (disk : Disk) (visits : List Visit) (place : List Bytes) : Nat :=
  visits.countP fun visit => disk.place? visit.path false == some place

/-- One root is spelled inside another just where it leads to a place inside the other's. -/
def SpelledInPlace (disk : Disk) (roots : List Path) : Prop :=
  ∀ a ∈ roots, ∀ b ∈ roots, ∀ outer inner, disk.place? a true = some outer → disk.place? b true = some inner →
    (b.startsWith a = true ↔ outer <+: inner)

variable {disk : Disk} {place : List Bytes} {entry : Entry}

theorem timesAt_visits (stored : disk.hasStoredNames = true) (distinct : disk.HasDistinctNames) {root : Path}
    {entries : List Entry} (listed : disk.list root = .ok entries) (there : disk.root.at? place = some entry) :
    disk.timesAt (disk.visits (fun _ => true) root) place = if disk.isBeneath place root then 1 else 0 := by
  obtain ⟨inhabited, outer, name, stat, leads, directory⟩ := place?_of_list listed
  have apart : (waysBelow entries).Nodup := distinct_of_at? distinct directory
  have counted : disk.timesAt (disk.visits (fun _ => true) root) place =
      (waysBelow entries).countP fun names => outer ++ names == place := by
    have paths : disk.timesAt (disk.visits (fun _ => true) root) place =
        ((visitsBelow (fun _ => true) root entries).map Visit.path).countP
          fun path => disk.place? path false == some place := by
      rw [List.countP_map, visits, listed]
      rfl
    rw [paths, visitsBelow_path, List.countP_map]
    -- From where the root leads a way goes down by names only, so its place is the root's with the names behind.
    apply List.countP_congr
    intro names member
    obtain ⟨further, last, below⟩ := (mem_waysBelow apart name stat names).mp member
    have whole : disk.root.at? (outer ++ names) = some last := by
      rw [Entry.at?_append, directory, Option.bind_some, below]
    rw [Function.comp_apply, place?_descend stored inhabited leads further whole, beq_iff_eq, beq_iff_eq,
      Option.some_inj]
  rw [counted]
  by_cases beneath : disk.isBeneath place root = true
  · obtain ⟨above, rest, same, further, whole⟩ := isBeneath_iff.mp beneath
    rw [leads] at same
    cases same
    subst whole
    have met : rest ∈ waysBelow entries := by
      rw [mem_waysBelow apart name stat]
      rw [Entry.at?_append, directory, Option.bind_some] at there
      exact ⟨further, entry, there⟩
    have alike : (waysBelow entries).countP (fun names => outer ++ names == outer ++ rest) =
        (waysBelow entries).count rest := by
      apply List.countP_congr
      intro names _
      rw [beq_iff_eq, beq_iff_eq, List.append_cancel_left_eq]
    rw [if_pos beneath, alike, List.count_eq_one_of_mem apart met]
  · rw [if_neg beneath, List.countP_eq_zero]
    intro names member same
    obtain ⟨further, _⟩ := (mem_waysBelow apart name stat names).mp member
    exact beneath (isBeneath_iff.mpr ⟨outer, names, leads, further, eq_of_beq same⟩)

theorem timesAt_flatMap (stored : disk.hasStoredNames = true) (distinct : disk.HasDistinctNames) {roots : List Path}
    (listed : ∀ root ∈ roots, ∃ entries, disk.list root = .ok entries) (there : disk.root.at? place = some entry) :
    disk.timesAt (roots.flatMap (disk.visits fun _ => true)) place = roots.countP (disk.isBeneath place) := by
  induction roots with
  | nil => rfl
  | cons root roots ih =>
      obtain ⟨⟨entries, first⟩, others⟩ := List.forall_mem_cons.mp listed
      have once := timesAt_visits stored distinct first there
      have rest := ih others
      rw [timesAt] at once rest
      rw [timesAt, List.flatMap_cons, List.countP_append, once, rest, List.countP_cons, Nat.add_comm]

theorem SpelledInPlace.not_apart {roots : List Path} (spelled : disk.SpelledInPlace roots) {a b : Path}
    (first : a ∈ roots) (second : b ∈ roots) (above : disk.isBeneath place a = true)
    (beside : disk.isBeneath place b = true) : ¬ a.Apart b := by
  rintro ⟨outside, inside⟩
  obtain ⟨outer, rest, leads, _, whole⟩ := isBeneath_iff.mp above
  obtain ⟨other, further, leadsOn, _, same⟩ := isBeneath_iff.mp beside
  rcases List.prefix_or_prefix_of_prefix ⟨rest, whole⟩ ⟨further, same⟩ with shorter | longer
  · rw [(spelled a first b second outer other leads leadsOn).mpr shorter] at inside
    cases inside
  · rw [(spelled b second a first other outer leadsOn leads).mpr longer] at outside
    cases outside

theorem SpelledInPlace.kept_above {roots : List Path} (spelled : disk.SpelledInPlace roots)
    (listed : ∀ root ∈ roots, ∃ entries, disk.list root = .ok entries) {root : Path} (member : root ∈ roots)
    (beneath : disk.isBeneath place root = true) : ∃ kept ∈ canonicalRoots roots, disk.isBeneath place kept = true := by
  obtain ⟨kept, among, starts⟩ := canonicalRoots_covers roots root member
  have asked := canonicalRoots_subset roots among
  obtain ⟨entries, held⟩ := listed kept asked
  obtain ⟨_, outer, _, _, leads, _⟩ := place?_of_list held
  obtain ⟨inner, rest, leadsOn, further, rfl⟩ := isBeneath_iff.mp beneath
  obtain ⟨between, rfl⟩ := (spelled kept asked root member outer inner leads leadsOn).mp starts
  refine ⟨kept, among, isBeneath_iff.mpr ⟨outer, between ++ rest, leads, ?_, (List.append_assoc _ _ _).symm⟩⟩
  exact List.append_ne_nil_of_right_ne_nil _ further

theorem SpelledInPlace.one_above {roots : List Path} (spelled : disk.SpelledInPlace roots)
    (listed : ∀ root ∈ roots, ∃ entries, disk.list root = .ok entries) {root : Path} (member : root ∈ roots)
    (beneath : disk.isBeneath place root = true) : (canonicalRoots roots).countP (disk.isBeneath place) = 1 := by
  obtain ⟨kept, among, above⟩ := spelled.kept_above listed member beneath
  have apart := (canonicalRoots_apart roots).filter (disk.isBeneath place)
  have present := List.mem_filter.mpr ⟨among, above⟩
  have asked : ∀ path ∈ (canonicalRoots roots).filter (disk.isBeneath place),
      path ∈ roots ∧ disk.isBeneath place path = true := by
    intro path inside
    obtain ⟨remains, holds⟩ := List.mem_filter.mp inside
    exact ⟨canonicalRoots_subset roots remains, holds⟩
  rw [List.countP_eq_length_filter]
  match (canonicalRoots roots).filter (disk.isBeneath place), apart, present, asked with
  | [only], _, _, _ => rfl
  | first :: second :: _, apart, _, asked =>
      have touching := (List.pairwise_cons.mp apart).1 second List.mem_cons_self
      obtain ⟨firstAsked, firstAbove⟩ := asked first List.mem_cons_self
      obtain ⟨secondAsked, secondAbove⟩ := asked second (List.mem_cons_of_mem _ List.mem_cons_self)
      exact absurd touching (spelled.not_apart firstAsked secondAsked firstAbove secondAbove)

theorem spelledInPlace_of_plain {roots : List Path}
    (plain : ∀ root ∈ roots, ∃ names, root.components = .root :: names.map .name ∧ disk.place? root true = some names) :
    disk.SpelledInPlace roots := by
  intro a first b second outer inner leads leadsOn
  obtain ⟨names, componentsA, placeA⟩ := plain a first
  obtain ⟨others, componentsB, placeB⟩ := plain b second
  obtain rfl : outer = names := Option.some.inj (leads.symm.trans placeA)
  obtain rfl : inner = others := Option.some.inj (leadsOn.symm.trans placeB)
  rw [Path.startsWith, componentsA, componentsB, List.isPrefixOf_iff_prefix, List.cons_prefix_cons]
  constructor
  · rintro ⟨-, starts⟩
    exact (List.prefix_map_iff_of_injective fun _ _ => Component.name.inj).mp starts
  · exact fun starts => ⟨rfl, starts.map _⟩

end Disk

namespace Scan

section

variable (disk : Disk) {criterion : Criterion} {options : ScanOptions} (recursive : options.recursive = true)
  (unpruned : ∀ directory, criterion.decision directory ≠ .prune) (asked : options.roots ≠ [])

include recursive unpruned asked

theorem visits_requested :
    visits disk (prepare criterion options) options =
      (canonicalRoots options.roots).flatMap (disk.visits fun _ => true) := by
  have enters : (fun directory => options.recursive && !prunes (prepare criterion options) directory) =
      fun _ => true := by
    funext directory
    have decided : (prepare criterion options).decision directory = criterion.decision directory := by
      rw [prepare, recursive, if_pos rfl]
      exact (Criterion.reorder_alike criterion).decision directory
    have goes : prunes (prepare criterion options) directory = false := by
      rw [prunes, decided]
      exact beq_eq_false_iff_ne.mpr (unpruned directory)
    rw [recursive, goes]
    rfl
  rw [visits, enters, scanRoots, if_pos asked]

theorem timesAt_requested (stored : disk.hasStoredNames = true) (distinct : disk.HasDistinctNames)
    (listed : ∀ root ∈ options.roots, ∃ entries, disk.list root = .ok entries) {place : List Bytes} {entry : Entry}
    (there : disk.root.at? place = some entry) :
    disk.timesAt (visits disk (prepare criterion options) options) place =
      (canonicalRoots options.roots).countP (disk.isBeneath place) := by
  rw [visits_requested disk recursive unpruned asked]
  apply Disk.timesAt_flatMap stored distinct _ there
  intro root member
  exact listed root (canonicalRoots_subset _ member)

end

/-- A recursive scan that prunes nowhere comes by an entry as often as it has kept a root above it. If the roots are
spelled in place, that is once for each entry beneath a root that was asked for. -/
theorem requested_walked (disk : Disk) (stored : disk.hasStoredNames = true) (distinct : disk.HasDistinctNames)
    (criterion : Criterion) (options : ScanOptions) (recursive : options.recursive = true)
    (unpruned : ∀ directory, criterion.decision directory ≠ .prune) (asked : options.roots ≠ [])
    (listed : ∀ root ∈ options.roots, ∃ entries, disk.list root = .ok entries) (place : List Bytes) (entry : Entry)
    (there : disk.root.at? place = some entry) :
    disk.timesAt (visits disk (prepare criterion options) options) place =
        (canonicalRoots options.roots).countP (disk.isBeneath place) ∧
      (disk.SpelledInPlace options.roots → (∃ root ∈ options.roots, disk.isBeneath place root = true) →
        disk.timesAt (visits disk (prepare criterion options) options) place = 1) := by
  have counted := timesAt_requested disk recursive unpruned asked stored distinct listed there
  refine ⟨counted, ?_⟩
  rintro spelled ⟨root, member, beneath⟩
  rw [counted]
  exact spelled.one_above listed member beneath

def siblings : Disk :=
  ⟨[.directory [0x61] ⟨⟨0, 0⟩, false⟩ [.file [0x78] ⟨⟨0, 0⟩, false⟩ []],
    .directory [0x62] ⟨⟨0, 0⟩, false⟩ [.file [0x79] ⟨⟨0, 0⟩, false⟩ []]], .ofString "/"⟩

def fromRoots (roots : List Path) : ScanOptions := { ScanOptions.initial (.ofString "/") with roots }

def anyName : Criterion := .leaf (.wildcard (.ofText "*" (.ofString "/")))

theorem anyName_unpruned (directory : Path) : anyName.decision directory ≠ .prune := by
  have rootless : (PathPattern.ofText "*" (.ofString "/")).root = none := by decide
  have indifferent : anyName.decision directory = .indifferent := by
    rw [anyName, Criterion.decision, Leaf.decision, PathPattern.decision, rootless, ite_self]
  rw [indifferent]
  decide

theorem siblings_distinct : siblings.HasDistinctNames := by
  unfold Disk.HasDistinctNames
  decide

def nestedRoots : ScanOptions := fromRoots [.absolute [[0x61]], .absolute [], .absolute [[0x61]]]

theorem nestedRoots_spelledInPlace : siblings.SpelledInPlace nestedRoots.roots := by
  have stored : siblings.hasStoredNames = true := by decide
  have plain (names : List Bytes) (entry : Entry) (there : siblings.root.at? names = some entry)
      (real : entry.isLink = false) :
      ∃ others, (Path.absolute names).components = .root :: others.map .name ∧
        siblings.place? (.absolute names) true = some others := by
    have proper : ∀ name ∈ names, isFileName name = true := fun name member =>
      isFileName_of_stored (Disk.isStoredName_of_at? stored there name member)
    exact ⟨names, Path.components_absolute_names names proper, Disk.place?_absolute stored there real⟩
  apply Disk.spelledInPlace_of_plain
  intro root member
  simp only [nestedRoots, fromRoots, List.mem_cons, List.not_mem_nil, or_false] at member
  rcases member with rfl | rfl | rfl
  · exact plain [[0x61]] _ rfl rfl
  · exact plain [] _ rfl rfl
  · exact plain [[0x61]] _ rfl rfl

theorem nestedRoots_listed : ∀ root ∈ nestedRoots.roots, ∃ entries, siblings.list root = .ok entries := by
  have stored : siblings.hasStoredNames = true := by decide
  have inner := siblings.list_at stored [[0x61]] _ _ _ rfl (by decide)
  have outer := siblings.list_at stored [] _ _ _ rfl (by decide)
  intro root member
  simp only [nestedRoots, fromRoots, List.mem_cons, List.not_mem_nil, or_false] at member
  rcases member with rfl | rfl | rfl
  · exact ⟨_, inner⟩
  · exact ⟨_, outer⟩
  · exact ⟨_, inner⟩

theorem requested_walked_nested :
    siblings.hasStoredNames = true ∧ siblings.HasDistinctNames ∧ nestedRoots.recursive = true ∧
      (∀ directory, anyName.decision directory ≠ .prune) ∧ nestedRoots.roots ≠ [] ∧
      (∀ root ∈ nestedRoots.roots, ∃ entries, siblings.list root = .ok entries) ∧
      siblings.SpelledInPlace nestedRoots.roots ∧
      siblings.timesAt (visits siblings (prepare anyName nestedRoots) nestedRoots) [[0x61], [0x78]] = 1 := by
  have stored : siblings.hasStoredNames = true := by decide
  have beneath : ∃ root ∈ nestedRoots.roots, siblings.isBeneath [[0x61], [0x78]] root = true := by
    have leads : siblings.place? (.absolute [[0x61]]) true = some [[0x61]] := Disk.place?_absolute stored rfl rfl
    refine ⟨.absolute [[0x61]], List.mem_cons_self, ?_⟩
    exact Disk.isBeneath_iff.mpr ⟨[[0x61]], [[0x78]], leads, List.cons_ne_nil _ _, rfl⟩
  have walked := requested_walked siblings stored siblings_distinct anyName nestedRoots rfl anyName_unpruned
    (List.cons_ne_nil _ _) nestedRoots_listed [[0x61], [0x78]] _ rfl
  exact ⟨stored, siblings_distinct, rfl, anyName_unpruned, List.cons_ne_nil _ _, nestedRoots_listed,
    nestedRoots_spelledInPlace, walked.2 nestedRoots_spelledInPlace beneath⟩

def asideRoots : ScanOptions := fromRoots [.ofString "/a", .ofString "/a/../b"]

theorem parse_asideRoots :
    parse (fun _ => .error "") ⟨0, 0⟩ (.initial (.ofString "/")) "--root#a# --root#a/../b# *" =
      .ok (anyName, asideRoots) := by
  have tokens : tokenize "--root#a# --root#a/../b# *" =
      .ok [.modifier "--root" (some "a"), .modifier "--root" (some "a/../b"), .pattern "*", .finish] := rfl
  have first (options : ScanOptions) : Modifier.interpret "--root" (some "a") ⟨0, 0⟩ options =
      .ok (.options { options with roots := options.roots ++ [options.base.join (.ofString "a")] }) := rfl
  have second (options : ScanOptions) : Modifier.interpret "--root" (some "a/../b") ⟨0, 0⟩ options =
      .ok (.options { options with roots := options.roots ++ [options.base.join (.ofString "a/../b")] }) := rfl
  rw [parse, tokens]
  show parseTokens _ _ _ [.modifier "--root" (some "a"), .modifier "--root" (some "a/../b"), .pattern "*", .finish] = _
  simp only [parseTokens, Parser.read, first, second]
  rfl

theorem asideRoots_listed : ∀ root ∈ asideRoots.roots, ∃ entries, siblings.list root = .ok entries := by
  have plain : siblings.list (.ofString "/a") = .ok [.file [0x78] ⟨⟨0, 0⟩, false⟩ []] := by cbv
  have aside : siblings.list (.ofString "/a/../b") = .ok [.file [0x79] ⟨⟨0, 0⟩, false⟩ []] := by cbv
  intro root member
  simp only [asideRoots, fromRoots, List.mem_cons, List.not_mem_nil, or_false] at member
  rcases member with rfl | rfl
  · exact ⟨_, plain⟩
  · exact ⟨_, aside⟩

/-- The root that leads aside is dropped as if it lay in the first one, so the text beneath it is never come by. -/
theorem requested_not_walked :
    ¬ ∀ (disk : Disk) (source : LoadlineSource) (now : Instant) (initial : ScanOptions) (commandLine : String)
      (criterion : Criterion) (options : ScanOptions), disk.hasStoredNames = true → disk.HasDistinctNames →
      parse source now initial commandLine = .ok (criterion, options) → options.recursive = true →
      (∀ directory, criterion.decision directory ≠ .prune) → options.roots ≠ [] →
      (∀ root ∈ options.roots, ∃ entries, disk.list root = .ok entries) →
      ∀ place entry, disk.root.at? place = some entry →
        (∃ root ∈ options.roots, disk.isBeneath place root = true) →
        disk.timesAt (visits disk (prepare criterion options) options) place = 1 := by
  intro walked
  have stored : siblings.hasStoredNames = true := by decide
  have beneath : ∃ root ∈ asideRoots.roots, siblings.isBeneath [[0x62], [0x79]] root = true := by
    refine ⟨.ofString "/a/../b", by simp [asideRoots, fromRoots], ?_⟩
    cbv
  have there : siblings.root.at? [[0x62], [0x79]] = some (.file [0x79] ⟨⟨0, 0⟩, false⟩ []) := rfl
  have once := walked siblings _ _ _ _ _ _ stored siblings_distinct parse_asideRoots rfl anyName_unpruned
    (List.cons_ne_nil _ _) asideRoots_listed _ _ there beneath
  have sorted : asideRoots.roots.Pairwise fun a b => (a.compare b != .gt) = true := by decide
  have kept : canonicalRoots asideRoots.roots = [.ofString "/a"] := by
    rw [canonicalRoots, List.mergeSort_of_pairwise sorted]
    decide
  have outside : siblings.isBeneath [[0x62], [0x79]] (.ofString "/a") = false := by cbv
  have never := timesAt_requested siblings rfl anyName_unpruned (List.cons_ne_nil _ _) stored siblings_distinct
    asideRoots_listed there
  rw [kept, List.countP_singleton, outside] at never
  rw [never] at once
  cases once

end Scan

end FileSieve
