import FileSieve.Proofs.Scan.Roots
import Mathlib.Tactic.Tauto

/-! The roots that are kept of those asked for. They are the least of them under the order by components, each once and
ascending. So neither the order in which roots are asked for matters, nor how often or in which spelling. -/

namespace FileSieve

def dropRepeats : List Path → List Path
  | first :: second :: rest =>
    if first.same second then dropRepeats (first :: rest) else first :: dropRepeats (second :: rest)
  | paths => paths
termination_by paths => paths.length

theorem outermost_repeated (kept rest : List Path) {first second : Path}
    (same : first.components = second.components) :
    outermost kept (first :: second :: rest) = outermost kept (first :: rest) := by
  have inside : kept.any second.startsWith = kept.any first.startsWith := by
    congr 1
    funext root
    exact (Path.startsWith_congr same root).symm
  have alike : second.startsWith first = true := by
    rw [← Path.startsWith_congr same]
    exact first.startsWith_self
  by_cases known : kept.any first.startsWith = true
  · simp [outermost, known, inside]
  · simp [outermost, known, inside, alike]

theorem outermost_dropRepeats (kept paths : List Path) : outermost kept (dropRepeats paths) = outermost kept paths := by
  fun_induction dropRepeats paths generalizing kept with
  | case1 first second rest same ih =>
      rw [ih, outermost_repeated kept rest ((Path.same_iff first second).mp same)]
  | case2 first second rest different ih =>
      rw [outermost, outermost, ih, ih]
  | case3 paths => rfl

theorem canonicalRoots_ascending (requested : List Path) :
    (canonicalRoots requested).Pairwise fun a b => a.compare b = .lt := by
  apply ((canonicalRoots_sorted requested).and (canonicalRoots_apart requested)).imp
  intro earlier later both
  rcases Ordering.isLE_iff_eq_lt_or_eq_eq.mp both.1 with before | alike
  · exact before
  · have inside : earlier.startsWith later = true := by
      rw [Path.startsWith_congr ((Path.compare_eq_iff _ _).mp alike)]
      exact later.startsWith_self
    rw [both.2.1] at inside
    cases inside

theorem mem_canonicalRoots_iff (requested : List Path) (components : List Component) :
    components ∈ (canonicalRoots requested).map Path.components ↔
      components ∈ requested.map Path.components ∧
        ∀ outer ∈ requested.map Path.components, outer <+: components → outer = components := by
  constructor
  · intro kept
    rcases List.mem_map.mp kept with ⟨root, among, rfl⟩
    refine ⟨List.mem_map_of_mem (canonicalRoots_subset requested among), ?_⟩
    intro outer asked above
    rcases List.mem_map.mp asked with ⟨path, member, rfl⟩
    rcases canonicalRoots_covers requested path member with ⟨least, keptToo, starts⟩
    have below := List.isPrefixOf_iff_prefix.mp starts
    -- what covers the outer one covers the root as well, and roots that are kept lie apart
    have same : least = root := by
      by_contra different
      have apart := (canonicalRoots_apart requested).forall keptToo among different
      have inside := List.isPrefixOf_iff_prefix.mpr (below.trans above)
      exact absurd inside (Bool.eq_false_iff.mp apart.2)
    subst same
    exact above.eq_of_length_le below.length_le
  · intro least
    rcases List.mem_map.mp least.1 with ⟨path, member, rfl⟩
    rcases canonicalRoots_covers requested path member with ⟨root, kept, starts⟩
    have asked : root.components ∈ requested.map Path.components :=
      List.mem_map_of_mem (canonicalRoots_subset requested kept)
    have same := least.2 root.components asked (List.isPrefixOf_iff_prefix.mp starts)
    rw [← same]
    exact List.mem_map_of_mem kept

theorem canonicalRoots_congr (requested others : List Path)
    (same : ∀ components, components ∈ requested.map Path.components ↔ components ∈ others.map Path.components) :
    (canonicalRoots requested).map Path.components = (canonicalRoots others).map Path.components := by
  have ascends (roots : List Path) : ((canonicalRoots roots).map Path.components).Pairwise
      fun a b => a.compareLex Component.compare b = .lt :=
    List.pairwise_map.mpr (canonicalRoots_ascending roots)
  have distinct (roots : List Path) : ((canonicalRoots roots).map Path.components).Nodup := by
    apply (ascends roots).imp
    rintro a b before rfl
    rw [@Std.ReflCmp.compare_self _ (List.compareLex Component.compare)] at before
    cases before
  have members : ((canonicalRoots requested).map Path.components).Perm
      ((canonicalRoots others).map Path.components) := by
    apply (List.perm_ext_iff_of_nodup (distinct requested) (distinct others)).mpr
    intro components
    simp only [mem_canonicalRoots_iff, same]
  apply members.eq_of_pairwise _ (ascends requested) (ascends others)
  intro a b _ _ before behind
  have turned := @Std.OrientedCmp.eq_swap _ (List.compareLex Component.compare) _ a b
  rw [before, behind] at turned
  cases turned

/-- The roots of a scan ascend, lie apart and cover those asked for, and they are the same paths whenever the same paths
are asked for. If any are asked for, then the roots are among those, and it makes no difference to drop repeated ones
first. -/
theorem scanRoots_antichain (disk : Disk) (criterion : Criterion) (options : ScanOptions) :
    (scanRoots disk criterion options).Pairwise (fun a b => a.compare b = .lt) ∧
      (scanRoots disk criterion options).Pairwise Path.Apart ∧
      (∀ path ∈ options.roots, ∃ root ∈ scanRoots disk criterion options, path.startsWith root = true) ∧
      (options.roots ≠ [] →
        scanRoots disk criterion options ⊆ options.roots ∧
          scanRoots disk criterion options =
            outermost [] (dropRepeats (options.roots.mergeSort fun a b => a.compare b != .gt))) ∧
      ∀ others : List Path,
        (∀ components, components ∈ others.map Path.components ↔ components ∈ options.roots.map Path.components) →
        (scanRoots disk criterion { options with roots := others }).map Path.components =
          (scanRoots disk criterion options).map Path.components := by
  refine ⟨canonicalRoots_ascending _, canonicalRoots_apart _, ?covers, ?among, ?steady⟩
  case covers =>
    intro path member
    rw [scanRoots_of_requested disk criterion options (List.ne_nil_of_mem member)]
    exact canonicalRoots_covers _ path member
  case among =>
    intro asked
    rw [scanRoots_of_requested disk criterion options asked]
    exact ⟨canonicalRoots_subset _, (outermost_dropRepeats [] _).symm⟩
  case steady =>
    intro others same
    by_cases asked : options.roots = []
    · -- nothing is asked for either way, and the rest of the options is the same
      have none : others = [] := by
        apply List.eq_nil_iff_forall_not_mem.mpr
        intro path member
        have among := (same path.components).mp (List.mem_map_of_mem member)
        rw [asked] at among
        cases among
      rw [none, ← asked]
    · have askedToo : others ≠ [] := by
        rintro rfl
        rcases List.exists_mem_of_ne_nil _ asked with ⟨path, member⟩
        have among := (same path.components).mpr (List.mem_map_of_mem member)
        cases among
      rw [scanRoots_of_requested disk criterion options asked, scanRoots_of_requested disk criterion _ askedToo]
      exact canonicalRoots_congr _ _ same

def rootsAt (roots : List String) : ScanOptions :=
  { ScanOptions.initial (.ofString "/") with roots := roots.map .ofString }

def nestedAgain : ScanOptions := rootsAt ["/a//b", "/c/", "/a/./b/x", "/c"]

theorem scanRoots_antichain_respelled :
    nestedAgain.roots ≠ [] ∧
      (scanRoots ⟨[], .ofString "/"⟩ (.all []) nestedAgain).Pairwise (fun a b => a.compare b = .lt) ∧
      (scanRoots ⟨[], .ofString "/"⟩ (.all []) nestedAgain).Pairwise Path.Apart ∧
      (∃ root ∈ scanRoots ⟨[], .ofString "/"⟩ (.all []) nestedAgain,
        (Path.ofString "/a/./b/x").startsWith root = true) ∧
      scanRoots ⟨[], .ofString "/"⟩ (.all []) nestedAgain ⊆ nestedAgain.roots ∧
      (scanRoots ⟨[], .ofString "/"⟩ (.all []) (rootsAt ["/c/.", "/a/b/x/", "/a/b"])).map Path.components =
        (scanRoots ⟨[], .ofString "/"⟩ (.all []) nestedAgain).map Path.components := by
  have asked : nestedAgain.roots ≠ [] := by decide
  have first : nestedAgain.roots.map Path.components =
      [[.root, .name [0x61], .name [0x62]], [.root, .name [0x63]],
        [.root, .name [0x61], .name [0x62], .name [0x78]], [.root, .name [0x63]]] := by decide
  have second : (rootsAt ["/c/.", "/a/b/x/", "/a/b"]).roots.map Path.components =
      [[.root, .name [0x63]], [.root, .name [0x61], .name [0x62], .name [0x78]],
        [.root, .name [0x61], .name [0x62]]] := by decide
  rcases scanRoots_antichain ⟨[], .ofString "/"⟩ (.all []) nestedAgain with
    ⟨ascending, apart, covers, among, steady⟩
  refine ⟨asked, ascending, apart, covers (.ofString "/a/./b/x") (by decide), (among asked).1,
    steady (rootsAt ["/c/.", "/a/b/x/", "/a/b"]).roots ?_⟩
  intro components
  rw [first, second]
  simp only [List.mem_cons, List.not_mem_nil, or_false]
  tauto

end FileSieve
