import FileSieve.Criteria.Describe
import FileSieve.Proofs.Criteria.Confinement
import FileSieve.Proofs.Criteria.Uniform

namespace FileSieve

namespace Leaf

theorem evaluate_withoutPruning (file : File) (test : Leaf) :
    test.withoutPruning.evaluate file = test.evaluate file := by
  cases test <;> rfl

theorem describe_withoutPruning (test : Leaf) : test.withoutPruning.describe = test.describe := by
  cases test <;> rfl

theorem decision_withoutPruning (directory : Path) (test : Leaf)
    (pruned : test.withoutPruning.decision directory = .prune) : ∃ rule, test = .skip rule := by
  cases test with
  | skip rule => exact ⟨rule, rfl⟩
  | type | size | date | wildcard | regex | content | digest => cases pruned

end Leaf

namespace Criterion

theorem leaf?_withoutPruning (criterion : Criterion) :
    criterion.withoutPruning.leaf? = criterion.leaf?.map Leaf.withoutPruning := by
  cases criterion <;> rfl

theorem children_withoutPruning (criterion : Criterion) :
    criterion.withoutPruning.children = criterion.children.map withoutPruning := by
  cases criterion with
  | all items | any items | bracket items => exact withoutPruningAll_eq_map items
  | leaf | xor | not | ifThen | ifThenElse => rfl

theorem leaves_withoutPruning (criterion : Criterion) :
    criterion.withoutPruning.leaves = criterion.leaves.map Leaf.withoutPruning := by
  induction criterion using induction_on with
  | step node ih =>
      rw [leaves_eq, leaves_eq node, leaf?_withoutPruning, children_withoutPruning, List.map_append, List.flatMap_map,
        List.map_flatMap, List.flatMap_congr ih]
      cases node.leaf? <;> rfl

theorem evaluate_withoutPruning (file : File) (criterion : Criterion) :
    criterion.withoutPruning.evaluate file = criterion.evaluate file := by
  have ofItems (items : List Criterion)
      (ih : ∀ item ∈ items, item.withoutPruning.evaluate file = item.evaluate file) :
      evaluateAll file (items.map withoutPruning) = evaluateAll file items ∧
        evaluateAny file (items.map withoutPruning) = evaluateAny file items := by
    induction items with
    | nil => exact ⟨rfl, rfl⟩
    | cons item rest inner =>
        obtain ⟨head, tail⟩ := List.forall_mem_cons.mp ih
        obtain ⟨every, some⟩ := inner tail
        simp only [List.map_cons, evaluateAll, evaluateAny, head, every, some, and_self]
  induction criterion using induction_on with
  | step node ih =>
  cases node with
  | leaf test => exact test.evaluate_withoutPruning file
  | all items | bracket items =>
      simp only [withoutPruning, withoutPruningAll_eq_map, evaluate, (ofItems items ih).1]
  | any items => simp only [withoutPruning, withoutPruningAll_eq_map, evaluate, (ofItems items ih).2]
  | not inner => simp only [withoutPruning, evaluate, ih inner (by simp [children])]
  | xor left right | ifThen left right =>
      simp only [withoutPruning, evaluate, ih left (by simp [children]), ih right (by simp [children])]
  | ifThenElse condition consequence alternative =>
      simp only [withoutPruning, evaluate, ih condition (by simp [children]), ih consequence (by simp [children]),
        ih alternative (by simp [children])]

theorem outline_withoutPruning (depth : Nat) (criterion : Criterion) :
    criterion.withoutPruning.outline depth = criterion.outline depth := by
  have ofItems (items : List Criterion) (depth : Nat)
      (ih : ∀ item ∈ items, ∀ depth, item.withoutPruning.outline depth = item.outline depth) :
      outlineAll depth (items.map withoutPruning) = outlineAll depth items := by
    induction items with
    | nil => rfl
    | cons item rest inner =>
        obtain ⟨head, tail⟩ := List.forall_mem_cons.mp ih
        simp only [List.map_cons, outlineAll, head, inner tail]
  induction criterion using induction_on generalizing depth with
  | step node ih =>
  cases node with
  | leaf test => simp only [withoutPruning, outline, Leaf.describe_withoutPruning]
  | all items | any items | bracket items =>
      simp only [withoutPruning, withoutPruningAll_eq_map, outline, ofItems items _ ih]
  | not inner => simp only [withoutPruning, outline, ih inner (by simp [children])]
  | xor left right | ifThen left right =>
      simp only [withoutPruning, outline, ih left (by simp [children]), ih right (by simp [children])]
  | ifThenElse condition consequence alternative =>
      simp only [withoutPruning, outline, ih condition (by simp [children]), ih consequence (by simp [children]),
        ih alternative (by simp [children])]

/-- Giving up pruning shows nowhere but in the directories that are entered, and there it is complete. -/
theorem withoutPruning_invisible (criterion : Criterion) :
    (∀ file, criterion.withoutPruning.evaluate file = criterion.evaluate file) ∧
      criterion.withoutPruning.cost = criterion.cost ∧
      criterion.withoutPruning.describe = criterion.describe ∧
      criterion.withoutPruning.roots = criterion.roots ∧
      ((∀ rule, .skip rule ∉ criterion.leaves) →
        ∀ directory, criterion.withoutPruning.decision directory ≠ .prune) := by
  refine ⟨?_, criterion.cost_withoutPruning, ?_, ?_, ?_⟩
  · intro file
    exact criterion.evaluate_withoutPruning file
  · rw [describe, describe, outline_withoutPruning]
  · rw [roots, roots, roots?_withoutPruning]
  · intro unskipped directory
    apply not_prune_of_leaves
    intro test member pruned
    rw [leaves_withoutPruning] at member
    obtain ⟨before, among, rfl⟩ := List.mem_map.mp member
    obtain ⟨rule, rfl⟩ := before.decision_withoutPruning directory pruned
    exact unskipped rule among

def guardedLogs : Criterion :=
  all [leaf (.wildcard (.ofText "/data/*.log" ⟨[]⟩)),
    ifThenElse (leaf (.type .hidden)) (not (leaf (.wildcard (.ofText "/srv/*" ⟨[]⟩)))) (leaf (.size .greater 10))]

theorem withoutPruning_invisible_guardedLogs :
    guardedLogs.decision (.ofString "/srv") = .prune ∧ (∀ rule, .skip rule ∉ guardedLogs.leaves) ∧
      guardedLogs.withoutPruning.decision (.ofString "/srv") ≠ .prune := by
  have unskipped (rule : SkipDirectory) : .skip rule ∉ guardedLogs.leaves := by
    simp [guardedLogs, leaves, parts, partsOfAll, leaf?]
  exact ⟨by decide, unskipped, guardedLogs.withoutPruning_invisible.2.2.2.2 unskipped _⟩

end Criterion
end FileSieve
