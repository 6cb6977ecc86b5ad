import Mathlib.Data.List.Perm.Basic
import FileSieve.Criteria.Reorder
import FileSieve.Proofs.Criteria.Parts

namespace FileSieve

theorem Cost.rank_injective {a b : Cost} (same : a.rank = b.rank) : a = b := by
  cases a <;> cases b <;> first | rfl | cases same

theorem Cost.rank_max (a b : Cost) : (a.max b).rank = Nat.max a.rank b.rank := by
  by_cases order : a.rank ≤ b.rank
  · simp only [Cost.max, order, ↓reduceIte]
    exact (Nat.max_eq_right order).symm
  · simp only [Cost.max, order, ↓reduceIte]
    exact (Nat.max_eq_left (by omega)).symm

theorem Cost.max_comm (a b : Cost) : a.max b = b.max a := by
  apply Cost.rank_injective
  rw [Cost.rank_max, Cost.rank_max]
  exact Nat.max_comm _ _

theorem Cost.max_left_comm (a b c : Cost) : a.max (b.max c) = b.max (a.max c) := by
  apply Cost.rank_injective
  simp only [Cost.rank_max]
  exact Nat.max_left_comm _ _ _

theorem Decision.combine_comm (every : Bool) (a b : Decision) :
    a.combine every b = b.combine every a := by
  cases a <;> cases b <;> rfl

theorem Decision.combine_right_comm (every : Bool) (a b c : Decision) :
    (a.combine every b).combine every c = (a.combine every c).combine every b := by
  cases every <;> cases a <;> cases b <;> cases c <;> rfl

namespace Criterion

variable {first second : List Criterion}

theorem evaluateAll_perm (file : File) (order : first.Perm second) :
    evaluateAll file first = evaluateAll file second := by
  rw [evaluateAll_eq_all, evaluateAll_eq_all]
  exact order.all_eq

theorem evaluateAny_perm (file : File) (order : first.Perm second) :
    evaluateAny file first = evaluateAny file second := by
  rw [evaluateAny_eq_any, evaluateAny_eq_any]
  exact order.any_eq

theorem costOfAll_perm (order : first.Perm second) : costOfAll first = costOfAll second := by
  rw [costOfAll_eq_foldr, costOfAll_eq_foldr]
  exact (order.map cost).foldr_eq' (fun a _ b _ c => Cost.max_left_comm b a c) _

theorem decisionOf_perm (directory : Path) (every : Bool) (sofar : Decision)
    (order : first.Perm second) :
    decisionOf directory every sofar first = decisionOf directory every sofar second := by
  rw [decisionOf_eq_foldl, decisionOf_eq_foldl]
  exact (order.map _).foldl_eq' (fun a _ b _ sofar => Decision.combine_right_comm every sofar a b) _

theorem byCost_perm (items : List Criterion) : (byCost items).Perm items :=
  List.mergeSort_perm items _

theorem byCost_trans (a b c : Criterion) (first : decide (a.cost.rank ≤ b.cost.rank) = true)
    (second : decide (b.cost.rank ≤ c.cost.rank) = true) : decide (a.cost.rank ≤ c.cost.rank) = true :=
  decide_eq_true (Nat.le_trans (of_decide_eq_true first) (of_decide_eq_true second))

theorem byCost_total (a b : Criterion) :
    (decide (a.cost.rank ≤ b.cost.rank) || decide (b.cost.rank ≤ a.cost.rank)) = true := by
  simpa using Nat.le_total a.cost.rank b.cost.rank

theorem byCost_sorted (items : List Criterion) : (byCost items).Pairwise fun a b => a.cost.rank ≤ b.cost.rank := by
  have sorted : (byCost items).Pairwise fun a b => decide (a.cost.rank ≤ b.cost.rank) = true :=
    List.pairwise_mergeSort byCost_trans byCost_total items
  exact sorted.imp of_decide_eq_true

theorem cheapest_head {item other : Criterion} {rest : List Criterion}
    (ordered : (item :: rest).Pairwise fun a b => a.cost.rank ≤ b.cost.rank) (member : other ∈ item :: rest) :
    item.cost.rank ≤ other.cost.rank := by
  rcases List.mem_cons.mp member with rfl | later
  · exact Nat.le_refl _
  · exact List.rel_of_pairwise_cons ordered later

theorem byCost_pair (first second : Criterion) :
    byCost [first, second] =
      if first.cost.rank ≤ second.cost.rank then [first, second] else [second, first] := by
  by_cases order : first.cost.rank ≤ second.cost.rank <;>
    simp [byCost, List.mergeSort, List.MergeSort.Internal.splitInTwo, order]

theorem reorderAll_eq_map (items : List Criterion) : reorderAll items = items.map reorder := by
  induction items with
  | nil => rfl
  | cons item rest ih => simp only [reorderAll, List.map_cons, ih]

theorem reorder_children (criterion : Criterion) :
    criterion.reorder.children.Perm (criterion.children.map reorder) := by
  cases criterion with
  | all items | any items | bracket items =>
      rw [reorder, reorderAll_eq_map]
      exact byCost_perm _
  | xor left right =>
      rw [reorder]
      split
      · exact .swap _ _ _
      · exact .refl _
  | leaf | not | ifThen | ifThenElse => exact .refl _

theorem reorder_leaf? (criterion : Criterion) : criterion.reorder.leaf? = criterion.leaf? := by
  cases criterion with
  | xor left right =>
      rw [reorder]
      split <;> rfl
  | _ => rfl

theorem reorder_leaves (criterion : Criterion) : criterion.reorder.leaves.Perm criterion.leaves := by
  induction criterion using induction_on with
  | step node ih =>
      rw [leaves_eq, leaves_eq node, reorder_leaf?]
      have moved := (reorder_children node).flatMap_right leaves
      rw [List.flatMap_map] at moved
      exact (moved.trans (List.Perm.flatMap_left _ ih)).append_left _

/-- Two criteria between which no file, no directory and no cost tells. -/
structure Alike (a b : Criterion) : Prop where
  evaluate : ∀ file, a.evaluate file = b.evaluate file
  decision : ∀ directory, a.decision directory = b.decision directory
  cost : a.cost = b.cost

theorem map_alike (change : Criterion → Criterion) (items : List Criterion)
    (alike : ∀ item ∈ items, Alike (change item) item) :
    (∀ file, evaluateAll file (items.map change) = evaluateAll file items) ∧
      (∀ file, evaluateAny file (items.map change) = evaluateAny file items) ∧
      (∀ directory every sofar, decisionOf directory every sofar (items.map change) =
        decisionOf directory every sofar items) ∧
      costOfAll (items.map change) = costOfAll items := by
  induction items with
  | nil => simp
  | cons item rest ih =>
      have head := alike item List.mem_cons_self
      obtain ⟨every, some, decisions, costs⟩ :=
        ih fun other member => alike other (List.mem_cons_of_mem item member)
      refine ⟨?_, ?_, ?_, ?_⟩
      · intro file
        simp only [List.map_cons, evaluateAll, head.evaluate, every]
      · intro file
        simp only [List.map_cons, evaluateAny, head.evaluate, some]
      · intro directory every sofar
        simp only [List.map_cons, decisionOf, head.decision, decisions]
      · simp only [List.map_cons, costOfAll, head.cost, costs]

theorem reorder_alike (criterion : Criterion) : Alike criterion.reorder criterion := by
  induction criterion using induction_on with
  | step node ih =>
  cases node with
  | leaf test => exact ⟨fun _ => rfl, fun _ => rfl, rfl⟩
  | all items | bracket items =>
      have order := byCost_perm (items.map reorder)
      obtain ⟨every, _, decisions, costs⟩ := map_alike reorder items ih
      constructor
      · intro file
        simp only [reorder, evaluate, reorderAll_eq_map, evaluateAll_perm file order, every]
      · intro directory
        simp only [reorder, decision, reorderAll_eq_map, decisionOf_perm _ _ _ order, decisions]
      · simp only [reorder, cost, reorderAll_eq_map, costOfAll_perm order, costs]
  | any items =>
      have order := byCost_perm (items.map reorder)
      obtain ⟨_, some, decisions, costs⟩ := map_alike reorder items ih
      constructor
      · intro file
        simp only [reorder, evaluate, reorderAll_eq_map, evaluateAny_perm file order, some]
      · intro directory
        simp only [reorder, decision, reorderAll_eq_map, decisionOf_perm _ _ _ order, decisions]
      · simp only [reorder, cost, reorderAll_eq_map, costOfAll_perm order, costs]
  | xor left right =>
      have onLeft := ih left (by simp [children])
      have onRight := ih right (by simp [children])
      -- Sides are not sorted as operands are: they change places only if the right one is cheaper.
      by_cases dearer : right.reorder.cost.rank < left.reorder.cost.rank
      · have swapped : (xor left right).reorder = xor right.reorder left.reorder := by
          simp only [reorder, dearer, ↓reduceIte]
        rw [swapped]
        constructor
        · intro file
          simp only [evaluate, onLeft.evaluate, onRight.evaluate]
          exact bne_comm
        · intro directory
          simp only [decision, onLeft.decision, onRight.decision]
          exact Decision.combine_comm _ _ _
        · simp only [cost, onLeft.cost, onRight.cost]
          exact Cost.max_comm _ _
      · have kept : (xor left right).reorder = xor left.reorder right.reorder := by
          simp only [reorder, dearer, ↓reduceIte]
        rw [kept]
        constructor
        · intro file
          simp only [evaluate, onLeft.evaluate, onRight.evaluate]
        · intro directory
          simp only [decision, onLeft.decision, onRight.decision]
        · simp only [cost, onLeft.cost, onRight.cost]
  | not inner =>
      have below := ih inner (by simp [children])
      constructor
      · intro file
        simp only [reorder, evaluate, below.evaluate]
      · intro directory
        simp only [reorder, decision, below.decision]
      · simp only [reorder, cost, below.cost]
  | ifThen condition consequence =>
      have test := ih condition (by simp [children])
      have whenTrue := ih consequence (by simp [children])
      constructor
      · intro file
        simp only [reorder, evaluate, test.evaluate, whenTrue.evaluate]
      · intro directory
        simp only [reorder, decision, test.decision, whenTrue.decision]
      · simp only [reorder, cost, test.cost, whenTrue.cost]
  | ifThenElse condition consequence alternative =>
      have test := ih condition (by simp [children])
      have whenTrue := ih consequence (by simp [children])
      have whenFalse := ih alternative (by simp [children])
      constructor
      · intro file
        simp only [reorder, evaluate, test.evaluate, whenTrue.evaluate, whenFalse.evaluate]
      · intro directory
        simp only [reorder, decision, test.decision, whenTrue.decision, whenFalse.decision]
      · simp only [reorder, cost, test.cost, whenTrue.cost, whenFalse.cost]

/-- Reordering changes neither which files match, nor which directories are entered, nor the cost. -/
theorem reorder_invisible (criterion : Criterion) (file : File) (directory : Path) :
    criterion.reorder.evaluate file = criterion.evaluate file ∧
      criterion.reorder.decision directory = criterion.decision directory ∧
      criterion.reorder.cost = criterion.cost := by
  have alike := reorder_alike criterion
  exact ⟨alike.evaluate file, alike.decision directory, alike.cost⟩

end Criterion
end FileSieve
