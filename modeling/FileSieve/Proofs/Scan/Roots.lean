import Mathlib.Data.List.Pairwise
import FileSieve.Proofs.Ordering
import FileSieve.Proofs.Path.Components
import FileSieve.Proofs.Path.Order
import FileSieve.Proofs.Scan.Reached
import FileSieve.Scan.Roots

namespace FileSieve

/-- Neither path is the other or lies inside it. -/
def Path.Apart (a b : Path) : Prop := a.startsWith b = false ∧ b.startsWith a = false

instance : Std.Symm Path.Apart where
  symm _ _ apart := ⟨apart.2, apart.1⟩

theorem Path.startsWith_congr {a b : Path} (same : a.components = b.components) (root : Path) :
    a.startsWith root = b.startsWith root := by
  rw [startsWith, startsWith, same]

theorem Path.startsWith_self (path : Path) : path.startsWith path = true :=
  List.isPrefixOf_iff_prefix.mpr (List.prefix_refl _)

theorem outermost_sublist (kept paths : List Path) : (outermost kept paths).Sublist (kept.reverse ++ paths) := by
  induction paths generalizing kept with
  | nil => simp [outermost]
  | cons path paths ih =>
      rw [outermost]
      split
      · exact (ih kept).trans ((List.sublist_cons_self path paths).append_left _)
      · have sublist := ih (path :: kept)
        rwa [List.reverse_cons, List.append_assoc, List.singleton_append] at sublist

theorem outermost_keeps (kept paths : List Path) : kept ⊆ outermost kept paths := by
  induction paths generalizing kept with
  | nil =>
      rw [outermost]
      exact fun path member => List.mem_reverse.mpr member
  | cons path paths ih =>
      rw [outermost]
      split
      · exact ih kept
      · exact List.Subset.trans (List.subset_cons_self path kept) (ih (path :: kept))

theorem outermost_covers (kept paths : List Path) :
    ∀ path ∈ paths, ∃ root ∈ outermost kept paths, path.startsWith root = true := by
  induction paths generalizing kept with
  | nil => exact nofun
  | cons path paths ih =>
      rw [outermost]
      split
      · rename_i inside
        obtain ⟨root, among, starts⟩ := List.any_eq_true.mp inside
        exact List.forall_mem_cons.mpr ⟨⟨root, outermost_keeps kept paths among, starts⟩, ih kept⟩
      · have first := outermost_keeps (path :: kept) paths List.mem_cons_self
        exact List.forall_mem_cons.mpr ⟨⟨path, first, path.startsWith_self⟩, ih (path :: kept)⟩

theorem canonicalRoots_subset (requested : List Path) : canonicalRoots requested ⊆ requested := by
  intro root member
  exact List.mem_mergeSort.mp ((outermost_sublist [] _).subset member)

theorem canonicalRoots_covers (requested : List Path) :
    ∀ path ∈ requested, ∃ root ∈ canonicalRoots requested, path.startsWith root = true := by
  intro path member
  exact outermost_covers [] _ path (List.mem_mergeSort.mpr member)

theorem outermost_pairwise (kept paths : List Path)
    (sofar : kept.reverse.Pairwise fun earlier later => later.startsWith earlier = false) :
    (outermost kept paths).Pairwise fun earlier later => later.startsWith earlier = false := by
  induction paths generalizing kept with
  | nil => exact sofar
  | cons path paths ih =>
      rw [outermost]
      split
      · exact ih kept sofar
      · rename_i outside
        apply ih
        rw [List.reverse_cons, List.pairwise_append]
        refine ⟨sofar, List.pairwise_singleton _ _, ?_⟩
        intro earlier member later single
        cases List.mem_singleton.mp single
        apply Bool.eq_false_iff.mpr
        intro starts
        exact outside (List.any_eq_true.mpr ⟨earlier, List.mem_reverse.mp member, starts⟩)

theorem canonicalRoots_sorted (requested : List Path) :
    (canonicalRoots requested).Pairwise fun a b => (a.compare b).isLE = true :=
  (pairwise_mergeSort Path.compare requested).sublist (outermost_sublist [] _)

/-- A path comes after those that it lies in, so a kept path does not lie in a later one either. -/
theorem canonicalRoots_apart (requested : List Path) : (canonicalRoots requested).Pairwise Path.Apart := by
  have outside := outermost_pairwise [] (requested.mergeSort fun a b => a.compare b != .gt) .nil
  apply ((canonicalRoots_sorted requested).and outside).imp
  rintro earlier later ⟨before, outside⟩
  refine ⟨Bool.eq_false_iff.mpr ?_, outside⟩
  intro starts
  have behind := Path.compare_of_startsWith earlier later starts
  have same := @Std.OrientedCmp.isLE_antisymm _ Path.compare _ _ _ before behind
  have alike : later.startsWith earlier = true := by
    rw [← Path.startsWith_congr ((Path.compare_eq_iff _ _).mp same)]
    exact earlier.startsWith_self
  rw [outside] at alike
  cases alike

theorem outermost_of_pairwise (kept paths : List Path)
    (outside : (kept.reverse ++ paths).Pairwise fun earlier later => later.startsWith earlier = false) :
    outermost kept paths = kept.reverse ++ paths := by
  induction paths generalizing kept with
  | nil => rw [outermost, List.append_nil]
  | cons path paths ih =>
      have apart : kept.any path.startsWith = false := by
        apply List.any_eq_false.mpr
        intro earlier member starts
        have later := (List.pairwise_append.mp outside).2.2 earlier (List.mem_reverse.mpr member) path
          List.mem_cons_self
        rw [later] at starts
        cases starts
      have shifted : (path :: kept).reverse ++ paths = kept.reverse ++ path :: paths := by simp
      rw [outermost, apart, if_neg Bool.false_ne_true, ih (path :: kept) (shifted ▸ outside), shifted]

theorem canonicalRoots_singleton (root : Path) : canonicalRoots [root] = [root] := by
  rw [canonicalRoots, List.mergeSort_singleton]
  rfl

theorem canonicalRoots_canonicalRoots (requested : List Path) :
    canonicalRoots (canonicalRoots requested) = canonicalRoots requested := by
  have steady : ((canonicalRoots requested).mergeSort fun a b => a.compare b != .gt) =
      canonicalRoots requested := by
    apply List.mergeSort_of_pairwise
    apply (canonicalRoots_sorted requested).imp
    intro earlier later before
    exact Ordering.isLE_eq_not_beq_gt.symm.trans before
  have outside := (canonicalRoots_apart requested).imp fun apart => apart.2
  rw [canonicalRoots, steady]
  exact outermost_of_pairwise [] _ outside

theorem outermost_ne_nil (kept paths : List Path) (some : kept ≠ []) : outermost kept paths ≠ [] := by
  induction paths generalizing kept with
  | nil =>
      rw [outermost]
      exact List.reverse_ne_nil_iff.mpr some
  | cons path paths ih =>
      rw [outermost]
      split
      · exact ih kept some
      · exact ih (path :: kept) (List.cons_ne_nil _ _)

theorem canonicalRoots_ne_nil (requested : List Path) (some : requested ≠ []) :
    canonicalRoots requested ≠ [] := by
  rw [canonicalRoots]
  cases sorted : requested.mergeSort fun a b => a.compare b != .gt with
  | nil =>
      have length := congrArg List.length sorted
      rw [List.length_mergeSort] at length
      exact absurd (List.length_eq_zero_iff.mp length) some
  | cons first others => exact outermost_ne_nil [first] others (List.cons_ne_nil _ _)

theorem scanRoots_ne_nil (disk : Disk) (criterion : Criterion) (options : ScanOptions) :
    scanRoots disk criterion options ≠ [] := by
  apply canonicalRoots_ne_nil
  split
  · assumption
  · split
    · exact List.cons_ne_nil _ _
    · rename_i bounded
      rw [ne_eq, List.map_eq_nil_iff]
      exact bounded

theorem scanRoots_of_requested (disk : Disk) (criterion : Criterion) (options : ScanOptions)
    (asked : options.roots ≠ []) : scanRoots disk criterion options = canonicalRoots options.roots := by
  rw [scanRoots, if_pos asked]

/-- The path that is reached from a directory by names. -/
def Path.descend (directory : Path) (names : List Bytes) : Path :=
  names.foldl (fun path name => path.push (.name name)) directory

theorem Path.components_descend (directory : Path) (names : List Bytes)
    (proper : ∀ name ∈ names, isFileName name = true) :
    (directory.descend names).components = directory.components ++ names.map .name := by
  induction names generalizing directory with
  | nil => rw [descend, List.map_nil, List.append_nil, List.foldl_nil]
  | cons name names ih =>
      obtain ⟨first, others⟩ := List.forall_mem_cons.mp proper
      have below := ih (directory.push (.name name)) others
      rw [components_push directory name first, List.append_assoc, List.singleton_append] at below
      exact below

theorem Reached.descends {directory path : Path} {entries : List Entry} {way : List Path}
    (reached : Reached directory entries way path)
    (proper : (namesBelow entries).all isFileName = true) :
    ∃ names, names ≠ [] ∧ path = directory.descend names ∧ ∀ name ∈ names, isFileName name = true := by
  induction reached with
  | here directory entries entry member =>
      refine ⟨[entry.name], List.cons_ne_nil _ _, rfl, ?_⟩
      intro name single
      rw [List.mem_singleton.mp single]
      exact isFileName_of_mem proper member
  | deeper directory entries name stat inner way path member rest ih =>
      obtain ⟨names, _, same, properBelow⟩ := ih (fileNames_of_directory proper member)
      refine ⟨name :: names, List.cons_ne_nil _ _, same, List.forall_mem_cons.mpr ⟨?_, properBelow⟩⟩
      exact isFileName_of_mem proper member

theorem path_eq_of_components (disk : Disk) (proper : disk.hasFileNames = true) (roots : List Path)
    (apart : roots.Pairwise Path.Apart) {first second a b : Path} {wayA wayB : List Path}
    (firstRoot : first ∈ roots) (secondRoot : second ∈ roots) (beneathFirst : disk.Beneath first wayA a)
    (beneathSecond : disk.Beneath second wayB b) (same : a.components = b.components) : a = b := by
  have reach {root path : Path} {way : List Path} (beneath : disk.Beneath root way path) :
      ∃ names, path = root.descend names ∧ path.components = root.components ++ names.map .name := by
    obtain ⟨entries, listed, reached⟩ := beneath
    obtain ⟨names, _, rfl, properNames⟩ := reached.descends (disk.list_fileNames proper root entries listed)
    exact ⟨names, rfl, root.components_descend names properNames⟩
  obtain ⟨namesA, rfl, componentsA⟩ := reach beneathFirst
  obtain ⟨namesB, rfl, componentsB⟩ := reach beneathSecond
  have ofFirst : first.components <+: (first.descend namesA).components := ⟨_, componentsA.symm⟩
  have ofSecond : second.components <+: (first.descend namesA).components := ⟨_, (same.trans componentsB).symm⟩
  have touching : ¬ first.Apart second := by
    rintro ⟨outside, inside⟩
    rcases List.prefix_or_prefix_of_prefix ofFirst ofSecond with shorter | longer
    · exact Bool.eq_false_iff.mp inside (List.isPrefixOf_iff_prefix.mpr shorter)
    · exact Bool.eq_false_iff.mp outside (List.isPrefixOf_iff_prefix.mpr longer)
  have sameRoot : first = second := by
    by_contra different
    exact touching (apart.forall firstRoot secondRoot different)
  subst sameRoot
  have sameNames : namesA.map Component.name = namesB.map Component.name := by
    rw [componentsA, componentsB] at same
    exact List.append_cancel_left same
  have names : namesA = namesB := (List.map_inj_right fun _ _ => Component.name.inj).mp sameNames
  rw [names]

end FileSieve
