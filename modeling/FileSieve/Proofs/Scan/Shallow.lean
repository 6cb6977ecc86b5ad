import FileSieve.Proofs.Criteria.Unpruned
import FileSieve.Proofs.Path.Parent
import FileSieve.Proofs.Scan.Schedules

namespace FileSieve

namespace Path

/-- Whether the parent of the path is one of the directories. -/
def liesDirectlyIn (directories : List Path) (path : Path) : Bool :=
  path.parent?.any fun parent => directories.any parent.same

theorem liesDirectlyIn_iff {directories : List Path} {path : Path} {front : List Component} {last : Component}
    (whole : path.components = front ++ [last]) (inner : last ≠ .root) :
    path.liesDirectlyIn directories = true ↔ ∃ directory ∈ directories, front = directory.components := by
  obtain ⟨parent, above, spelled⟩ := components_parent whole inner
  simp only [liesDirectlyIn, above, Option.any_some, List.any_eq_true, same_iff, spelled]

variable {roots : List Path} {root : Path}

theorem push_liesDirectlyIn (among : root ∈ roots) {name : Bytes} (proper : isFileName name = true) :
    (root.push (.name name)).liesDirectlyIn roots = true :=
  (liesDirectlyIn_iff (components_push root name proper) nofun).mpr ⟨root, among, rfl⟩

theorem descend_not_liesDirectlyIn (apart : roots.Pairwise Apart) (among : root ∈ roots) {name : Bytes}
    {names : List Bytes} (proper : ∀ passed ∈ name :: names, isFileName passed = true) (further : names ≠ []) :
    (root.descend (name :: names)).liesDirectlyIn roots = false := by
  obtain ⟨between, last, rfl⟩ := names.eq_nil_or_concat'.resolve_left further
  have components := root.components_descend (name :: (between ++ [last])) proper
  have whole : (root.descend (name :: (between ++ [last]))).components =
      (root.components ++ .name name :: between.map .name) ++ [.name last] := by
    rw [components, List.map_cons, List.map_append, List.append_assoc]
    rfl
  apply Bool.eq_false_iff.mpr
  intro direct
  -- Its parent would be a root inside the one that it is reached from.
  obtain ⟨other, amongOthers, same⟩ := (liesDirectlyIn_iff whole nofun).mp direct
  have inside : other.startsWith root = true := by
    rw [startsWith, ← same]
    exact List.isPrefixOf_iff_prefix.mpr (List.prefix_append _ _)
  have different : root ≠ other := by
    rintro rfl
    exact List.cons_ne_nil _ _ (List.append_right_eq_self.mp same)
  have outside := (apart.forall among amongOthers different).2
  rw [inside] at outside
  cases outside

end Path

theorem visitsBelow_filter_liesDirectlyIn (descend : Path → Bool) {roots : List Path} {root : Path}
    (apart : roots.Pairwise Path.Apart) (among : root ∈ roots) {entries : List Entry}
    (proper : (namesBelow entries).all isFileName = true) :
    ((visitsBelow descend root entries).filter fun visit => visit.path.liesDirectlyIn roots) =
      visitsBelow (fun _ => false) root entries := by
  rw [visitsBelow_eq_flatMap, visitsBelow_eq_flatMap, List.filter_flatMap]
  apply List.flatMap_congr
  intro entry member
  have named := isFileName_of_mem proper member
  cases entry with
  | file name stat contents | link name stat target =>
      exact List.filter_cons_of_pos (Path.push_liesDirectlyIn among named)
  | directory name stat inner =>
      have top : (root.push (.name name)).liesDirectlyIn roots = true := Path.push_liesDirectlyIn among named
      have deep : ((if descend (root.push (.name name)) then visitsBelow descend (root.push (.name name)) inner
          else []).filter fun visit => visit.path.liesDirectlyIn roots) = [] := by
        apply List.filter_eq_nil_iff.mpr
        intro visit visited
        split at visited
        · obtain ⟨way, reached, -⟩ := reached_of_visit descend _ inner visit visited
          obtain ⟨names, further, whole, properNames⟩ := reached.descends (fileNames_of_directory proper member)
          rw [whole]
          exact Bool.eq_false_iff.mp <| Path.descend_not_liesDirectlyIn apart among
            (List.forall_mem_cons.mpr ⟨named, properNames⟩) further
        · cases visited
      simp only [Entry.visits, List.filter_cons]
      rw [if_pos top, deep]
      rfl

namespace Scan

variable {disk : Disk} {criterion : Criterion} {options : ScanOptions}

theorem scanRoots_withoutPruning :
    scanRoots disk criterion.withoutPruning options = scanRoots disk criterion options := by
  rw [scanRoots, scanRoots, Criterion.roots, Criterion.roots, Criterion.roots?_withoutPruning]

theorem visits_filter_liesDirectlyIn (proper : disk.hasFileNames = true) :
    ((visits disk criterion { options with recursive := true }).filter fun visit =>
        visit.path.liesDirectlyIn (scanRoots disk criterion options)) =
      visits disk criterion.withoutPruning { options with recursive := false } := by
  have roots (recursive : Bool) :
      scanRoots disk criterion { options with recursive } = scanRoots disk criterion options := rfl
  rw [visits, visits, scanRoots_withoutPruning, roots, roots, List.filter_flatMap]
  apply List.flatMap_congr
  intro root among
  simp only [Disk.visits, Bool.true_and, Bool.false_and]
  have listed : (namesBelow ((disk.list root).toOption.getD [])).all isFileName = true := by
    cases listed : disk.list root with
    | error e => rfl
    | ok entries => exact disk.list_fileNames proper root entries listed
  exact visitsBelow_filter_liesDirectlyIn _ (canonicalRoots_apart _) among listed

theorem hits_filter (keep : Path → Bool) (visits : List Visit) :
    hits disk criterion options (visits.filter fun visit => keep visit.path) =
      (hits disk criterion options visits).filter fun found => keep found.path := by
  have path (file : File) : (Match.ofFile options.format file).path = file.path := rfl
  simp only [hits, List.filter_map, List.filter_filter, Function.comp_def, path, record_path, Bool.and_comm]

theorem hits_withoutPruning (visits : List Visit) :
    hits disk criterion.withoutPruning options visits = hits disk criterion options visits := by
  simp only [hits, Criterion.evaluate_withoutPruning]

theorem arrange_filter (unlimited : options.limit = none) (keep : Match → Bool) {found : List Match}
    (told : ∀ a ∈ found, ∀ b ∈ found, a.path.components = b.path.components → a = b) :
    arrange options (found.filter keep) = (arrange options found).filter keep := by
  rw [arrange_eq, arrange_eq, unlimited]
  exact mergeSort_filter (reportOrder options.order) keep found fun a ofFound b ofOthers same =>
    told a ofFound b ofOthers (components_of_reportOrder _ a b same)

end Scan

end FileSieve
