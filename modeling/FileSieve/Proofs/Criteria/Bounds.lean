import FileSieve.Proofs.Criteria.Reordering
import FileSieve.Proofs.Criteria.Confinement
import FileSieve.Proofs.Criteria.Inside

/-! Pattern roots bound the matches. A match of a conjunction is a match of the part that gives its roots, a match
of a disjunction one of some part; and what a rooted pattern matches starts with its root. Neither the order of
parts nor giving up pruning makes leaves that were not read. -/

namespace FileSieve

theorem PathPattern.root?_chars (pattern : PathPattern) (root : Path) (rooted : pattern.root? = some root) :
    pattern.root = some root.chars := by
  obtain ⟨chars, given, rfl⟩ := Option.map_eq_some_iff.mp rooted
  rw [given, Path.chars, Utf8.decodeLossy_encode]

theorem Leaf.withoutPruning_isRead (test : Leaf) (read : test.IsRead) : test.withoutPruning.IsRead := by
  cases test with
  | wildcard pattern =>
      obtain ⟨text, base, _, rfl⟩ := read
      exact ⟨text, base, false, rfl⟩
  | type | size | date | regex | skip | content | digest => trivial

namespace Criterion

def LeavesRead (criterion : Criterion) : Prop := ∀ test ∈ criterion.leaves, test.IsRead

theorem leavesRead_of_rewriting (change : Criterion → Criterion)
    (leaves : ∀ node test, (change node).leaf? = some test →
      ∃ before, node.leaf? = some before ∧ (before.IsRead → test.IsRead))
    (children : ∀ node, ∀ child ∈ (change node).children,
      ∃ before ∈ node.children, change before = child)
    (criterion : Criterion) (read : criterion.LeavesRead) : (change criterion).LeavesRead := by
  induction criterion using induction_on with
  | step node ih =>
  intro test member
  rw [leaves_eq] at member
  rcases List.mem_append.mp member with own | below
  · obtain ⟨before, same, kept⟩ := leaves node test (Option.mem_toList.mp own)
    apply kept
    apply read
    rw [leaves_eq, same]
    exact List.mem_append_left _ (List.mem_singleton_self before)
  · obtain ⟨child, among, inside⟩ := List.mem_flatMap.mp below
    obtain ⟨before, member, rfl⟩ := children node child among
    exact ih before member (fun test inner => read test (mem_leaves_of_child member inner)) test inside

theorem reorder_leavesRead (criterion : Criterion) (read : criterion.LeavesRead) :
    criterion.reorder.LeavesRead := by
  refine leavesRead_of_rewriting reorder ?_ ?_ criterion read
  · intro node test own
    cases node with
    | leaf before =>
        cases own
        exact ⟨test, rfl, id⟩
    | xor left right =>
        simp only [reorder] at own
        split at own <;> cases own
    | all | any | bracket | not | ifThen | ifThenElse => cases own
  · intro node child among
    cases node with
    | leaf test => cases among
    | all items | any items | bracket items =>
        simp only [reorder, reorderAll_eq_map, children, (byCost_perm _).mem_iff] at among
        exact List.mem_map.mp among
    | xor left right =>
        simp only [reorder] at among
        split at among <;> simp only [children] at among ⊢ <;> grind
    | not | ifThen | ifThenElse => simpa [reorder, children, eq_comm] using among

theorem withoutPruning_leavesRead (criterion : Criterion) (read : criterion.LeavesRead) :
    criterion.withoutPruning.LeavesRead := by
  refine leavesRead_of_rewriting withoutPruning ?_ ?_ criterion read
  · intro node test own
    cases node with
    | leaf before =>
        cases own
        exact ⟨before, rfl, before.withoutPruning_isRead⟩
    | all | any | bracket | xor | not | ifThen | ifThenElse => cases own
  · intro node child among
    cases node with
    | leaf test => cases among
    | all items | any items | bracket items =>
        simp only [withoutPruning, withoutPruningAll_eq_map, children] at among
        exact List.mem_map.mp among
    | xor | not | ifThen | ifThenElse => simpa [withoutPruning, children, eq_comm] using among

theorem firstRoots?_some {items : List Criterion} {roots : List Path} (bounded : firstRoots? items = some roots) :
    ∃ item ∈ items, item.roots? = some roots := by
  induction items with
  | nil => cases bounded
  | cons item rest ih =>
      rw [firstRoots?] at bounded
      split at bounded
      · rename_i own given
        cases bounded
        exact ⟨item, List.mem_cons_self, given⟩
      · obtain ⟨other, member, given⟩ := ih bounded
        exact ⟨other, List.mem_cons_of_mem item member, given⟩

theorem everyRoots?_some {items : List Criterion} {roots : List Path} (bounded : everyRoots? items = some roots) :
    ∀ item ∈ items, ∃ own, item.roots? = some own ∧ own ⊆ roots := by
  induction items generalizing roots with
  | nil => exact nofun
  | cons item rest ih =>
      rw [everyRoots?] at bounded
      split at bounded
      · rename_i own given
        obtain ⟨others, tail, rfl⟩ := Option.map_eq_some_iff.mp bounded
        intro other member
        rcases List.mem_cons.mp member with rfl | later
        · exact ⟨own, given, List.subset_append_left _ _⟩
        · obtain ⟨part, found, inside⟩ := ih tail other later
          exact ⟨part, found, List.Subset.trans inside (List.subset_append_right _ _)⟩
      · cases bounded

theorem starts_with_root (file : File) (criterion : Criterion) (read : criterion.LeavesRead)
    (roots : List Path) (bounded : criterion.roots? = some roots) (holds : criterion.evaluate file = true) :
    ∃ root ∈ roots, Unicode.lowercase root.chars <+: Unicode.lowercase (PathText.ofPath file.path) := by
  induction criterion using induction_on generalizing roots with
  | step node ih =>
  have below (child : Criterion) (member : child ∈ node.children) : child.LeavesRead :=
    fun test inside => read test (mem_leaves_of_child member inside)
  cases node with
  | leaf test =>
      cases test with
      | wildcard pattern =>
          obtain ⟨root, rooted, rfl⟩ := Option.map_eq_some_iff.mp bounded
          have own : pattern.IsRead := read (.wildcard pattern) List.mem_cons_self
          refine ⟨root, List.mem_singleton_self root, ?_⟩
          exact pattern.root_prefix_of_matches own _ (pattern.root?_chars root rooted) file.path holds
      | type | size | date | regex | skip | content | digest => cases bounded
  | all items | bracket items =>
      obtain ⟨item, member, given⟩ := firstRoots?_some bounded
      rw [evaluate, evaluateAll_eq_all] at holds
      exact ih item member (below item member) roots given (List.all_eq_true.mp holds item member)
  | any items =>
      rw [evaluate, evaluateAny_eq_any] at holds
      obtain ⟨item, member, true⟩ := List.any_eq_true.mp holds
      obtain ⟨own, given, inside⟩ := everyRoots?_some bounded item member
      obtain ⟨root, among, starts⟩ := ih item member (below item member) own given true
      exact ⟨root, inside among, starts⟩
  | xor | not | ifThen | ifThenElse => cases bounded

/-- What a tree is rewritten to before a scan: its parts in order of cost, its patterns without pruning. -/
inductive Rewrites (criterion : Criterion) : Criterion → Prop
  | itself : Rewrites criterion criterion
  | reordered {form : Criterion} (before : Rewrites criterion form) : Rewrites criterion form.reorder
  | unpruned {form : Criterion} (before : Rewrites criterion form) : Rewrites criterion form.withoutPruning

theorem Rewrites.leavesRead {criterion form : Criterion} (rewrites : Rewrites criterion form)
    (read : criterion.LeavesRead) : form.LeavesRead := by
  induction rewrites with
  | itself => exact read
  | reordered _ ih => exact reorder_leavesRead _ ih
  | unpruned _ ih => exact withoutPruning_leavesRead _ ih

/-- Pattern roots confine the matches of a tree, rewritten or not. -/
theorem roots_confine (criterion form : Criterion) (read : criterion.LeavesRead)
    (rewrites : Rewrites criterion form) (bounded : form.roots ≠ []) (file : File)
    (holds : form.evaluate file = true) :
    ∃ root ∈ form.roots, Unicode.lowercase root.chars <+: Unicode.lowercase (PathText.ofPath file.path) := by
  cases given : form.roots? with
  | none =>
      rw [roots, given] at bounded
      exact absurd rfl bounded
  | some found =>
      rw [roots, given]
      exact starts_with_root file form (rewrites.leavesRead read) found given holds

def notesOrBriefs : Criterion :=
  any [all [not (leaf (.type .signed)), leaf (.wildcard (.ofText "/Var/*.TXT" ⟨[]⟩))],
    leaf (.wildcard (.ofText "/Srv/**/brief?" ⟨[]⟩))]

theorem reorder_notesOrBriefs :
    notesOrBriefs.withoutPruning.reorder =
      any [leaf (Leaf.wildcard (.ofText "/Srv/**/brief?" ⟨[]⟩)).withoutPruning,
        all [leaf (Leaf.wildcard (.ofText "/Var/*.TXT" ⟨[]⟩)).withoutPruning, not (leaf (.type .signed))]] := by
  simp only [notesOrBriefs, withoutPruning, withoutPruningAll, reorder, reorderAll, byCost_pair]
  rfl

theorem roots_confine_notesOrBriefs :
    notesOrBriefs.LeavesRead ∧ Rewrites notesOrBriefs notesOrBriefs.withoutPruning.reorder ∧
    notesOrBriefs.withoutPruning.reorder.roots = [.ofString "/Srv/", .ofString "/Var/"] ∧
    notesOrBriefs.withoutPruning.reorder.evaluate (.absent (.ofString "/var/Notes.txt")) = true ∧
    ∃ root ∈ [Path.ofString "/Srv/", Path.ofString "/Var/"], Unicode.lowercase root.chars <+:
      Unicode.lowercase (PathText.ofPath (.ofString "/var/Notes.txt")) := by
  have read : notesOrBriefs.LeavesRead := by
    intro test member
    rcases List.mem_cons.mp member with rfl | member
    · trivial
    rcases List.mem_cons.mp member with rfl | member
    · exact PathPattern.ofText_isRead _ _
    rcases List.mem_singleton.mp member with rfl
    exact PathPattern.ofText_isRead _ _
  have rewrites : Rewrites notesOrBriefs notesOrBriefs.withoutPruning.reorder := .reordered (.unpruned .itself)
  have roots : notesOrBriefs.withoutPruning.reorder.roots = [.ofString "/Srv/", .ofString "/Var/"] := by
    rw [reorder_notesOrBriefs]
    rfl
  have holds : notesOrBriefs.withoutPruning.reorder.evaluate (.absent (.ofString "/var/Notes.txt")) = true := by
    rw [reorder_notesOrBriefs]
    decide
  have confined := roots_confine _ _ read rewrites (by rw [roots]; exact nofun) _ holds
  rw [roots] at confined
  exact ⟨read, rewrites, roots, holds, confined⟩

end Criterion

end FileSieve
