import Mathlib.Data.List.Forall2
import Mathlib.Data.List.Pairwise
import FileSieve.Proofs.Criteria.Reordering

namespace FileSieve

namespace Criterion

/-- The same operands, cheapest first; among those of one cost none changes places. -/
structure StableByCost (items sorted : List Criterion) : Prop where
  kept : sorted.Perm items
  ordered : sorted.Pairwise fun a b => a.cost.rank ≤ b.cost.rank
  stable : ∀ cost, sorted.filter (·.cost = cost) = items.filter (·.cost = cost)

/-- All that is below a node is arranged before its operands are compared. -/
inductive Arranged : Criterion → Criterion → Prop
  | leaf (test : Leaf) : Arranged (.leaf test) (.leaf test)
  | all {items arranged sorted : List Criterion} (below : List.Forall₂ Arranged items arranged)
      (order : StableByCost arranged sorted) : Arranged (.all items) (.all sorted)
  | any {items arranged sorted : List Criterion} (below : List.Forall₂ Arranged items arranged)
      (order : StableByCost arranged sorted) : Arranged (.any items) (.any sorted)
  | bracket {items arranged sorted : List Criterion} (below : List.Forall₂ Arranged items arranged)
      (order : StableByCost arranged sorted) : Arranged (.bracket items) (.bracket sorted)
  | xor {left right first second : Criterion} (onLeft : Arranged left first) (onRight : Arranged right second)
      (order : first.cost.rank ≤ second.cost.rank) : Arranged (.xor left right) (.xor first second)
  | swapped {left right first second : Criterion} (onLeft : Arranged left second) (onRight : Arranged right first)
      (dearer : first.cost.rank < second.cost.rank) : Arranged (.xor left right) (.xor first second)
  | not {inner arranged : Criterion} (below : Arranged inner arranged) : Arranged (.not inner) (.not arranged)
  | ifThen {condition consequence test taken : Criterion} (onCondition : Arranged condition test)
      (onConsequence : Arranged consequence taken) :
      Arranged (.ifThen condition consequence) (.ifThen test taken)
  | ifThenElse {condition consequence alternative test taken otherwise : Criterion}
      (onCondition : Arranged condition test) (onConsequence : Arranged consequence taken)
      (onAlternative : Arranged alternative otherwise) :
      Arranged (.ifThenElse condition consequence alternative) (.ifThenElse test taken otherwise)

theorem byCost_stable (items : List Criterion) : StableByCost items (byCost items) := by
  refine ⟨byCost_perm items, byCost_sorted items, ?_⟩
  intro cost
  have level : (items.filter (·.cost = cost)).Pairwise fun a b => decide (a.cost.rank ≤ b.cost.rank) = true := by
    apply List.pairwise_of_forall_mem_list
    intro a first b second
    rw [of_decide_eq_true (List.mem_filter.mp first).2, of_decide_eq_true (List.mem_filter.mp second).2]
    exact decide_eq_true (Nat.le_refl _)
  have inside := List.sublist_mergeSort byCost_trans byCost_total level List.filter_sublist
  have among := inside.filter (·.cost = cost)
  rw [List.filter_filter] at among
  simp only [Bool.and_self] at among
  exact (among.eq_of_length ((byCost_perm items).filter _).length_eq.symm).symm

theorem mem_iff_of_levels {first second : List Criterion}
    (same : ∀ cost, first.filter (·.cost = cost) = second.filter (·.cost = cost)) (item : Criterion) :
    item ∈ first ↔ item ∈ second := by
  have level := congrArg (item ∈ ·) (same item.cost)
  simpa using level

theorem eq_of_ordered {first second : List Criterion}
    (orderedFirst : first.Pairwise fun a b => a.cost.rank ≤ b.cost.rank)
    (orderedSecond : second.Pairwise fun a b => a.cost.rank ≤ b.cost.rank)
    (same : ∀ cost, first.filter (·.cost = cost) = second.filter (·.cost = cost)) : first = second := by
  have among := mem_iff_of_levels same
  induction first generalizing second with
  | nil =>
      symm
      apply List.eq_nil_iff_forall_not_mem.mpr
      intro item member
      exact List.not_mem_nil ((among item).mpr member)
  | cons item first ih =>
      cases second with
      | nil => exact absurd ((among item).mp List.mem_cons_self) List.not_mem_nil
      | cons other second =>
          -- Each head is among the elements of the other list, so neither is cheaper.
          have level : other.cost = item.cost := by
            apply Cost.rank_injective
            apply Nat.le_antisymm
            · exact cheapest_head orderedSecond ((among item).mp List.mem_cons_self)
            · exact cheapest_head orderedFirst ((among other).mpr List.mem_cons_self)
          have heads := same item.cost
          simp only [List.filter_cons, level, decide_true, ↓reduceIte, List.cons.injEq] at heads
          obtain ⟨rfl, _⟩ := heads
          have rest (cost : Cost) : first.filter (·.cost = cost) = second.filter (·.cost = cost) := by
            have both := same cost
            rw [List.filter_cons, List.filter_cons] at both
            split at both
            · exact (List.cons.inj both).2
            · exact both
          rw [ih orderedFirst.of_cons orderedSecond.of_cons rest (mem_iff_of_levels rest)]

theorem StableByCost.eq_byCost {items sorted : List Criterion} (order : StableByCost items sorted) :
    sorted = byCost items := by
  refine eq_of_ordered order.ordered (byCost_sorted items) ?_
  intro cost
  rw [order.stable, (byCost_stable items).stable]

theorem byCost_byCost (items : List Criterion) : byCost (byCost items) = byCost items := by
  apply List.mergeSort_of_pairwise
  exact (byCost_sorted items).imp decide_eq_true

theorem reorder_reorder (criterion : Criterion) : criterion.reorder.reorder = criterion.reorder := by
  have ofItems (items : List Criterion) (ih : ∀ item ∈ items, item.reorder.reorder = item.reorder) :
      byCost ((byCost (items.map reorder)).map reorder) = byCost (items.map reorder) := by
    have settled : ∀ item ∈ byCost (items.map reorder), item.reorder = id item := by
      intro item member
      obtain ⟨before, among, rfl⟩ := List.mem_map.mp ((byCost_perm _).mem_iff.mp member)
      exact ih before among
    rw [List.map_congr_left settled, List.map_id, byCost_byCost]
  induction criterion using induction_on with
  | step node ih =>
  cases node with
  | leaf test => rfl
  | all items | any items | bracket items =>
      simp only [reorder, reorderAll_eq_map, ofItems items ih]
  | xor left right =>
      have onLeft := ih left (by simp [children])
      have onRight := ih right (by simp [children])
      by_cases dearer : right.reorder.cost.rank < left.reorder.cost.rank
      · have settled : ¬ left.reorder.cost.rank < right.reorder.cost.rank := Nat.lt_asymm dearer
        simp only [reorder, dearer, ↓reduceIte, onLeft, onRight, settled]
      · simp only [reorder, dearer, ↓reduceIte, onLeft, onRight]
  | not inner => simp only [reorder, ih inner (by simp [children])]
  | ifThen condition consequence =>
      simp only [reorder, ih condition (by simp [children]), ih consequence (by simp [children])]
  | ifThenElse condition consequence alternative =>
      simp only [reorder, ih condition (by simp [children]), ih consequence (by simp [children]),
        ih alternative (by simp [children])]

theorem reorder_arranged (criterion : Criterion) : Arranged criterion criterion.reorder := by
  have ofItems {items : List Criterion} (below : ∀ item ∈ items, Arranged item item.reorder) :
      List.Forall₂ Arranged items (reorderAll items) := by
    rw [reorderAll_eq_map, List.forall₂_map_right_iff]
    exact List.forall₂_same.mpr below
  induction criterion using induction_on with
  | step node ih =>
  cases node with
  | leaf test => exact .leaf test
  | all items => exact .all (ofItems ih) (byCost_stable _)
  | any items => exact .any (ofItems ih) (byCost_stable _)
  | bracket items => exact .bracket (ofItems ih) (byCost_stable _)
  | xor left right =>
      have onLeft := ih left (by simp [children])
      have onRight := ih right (by simp [children])
      simp only [reorder]
      split
      · rename_i dearer
        exact .swapped onLeft onRight dearer
      · rename_i order
        exact .xor onLeft onRight (Nat.le_of_not_lt order)
  | not inner => exact .not (ih inner (by simp [children]))
  | ifThen condition consequence =>
      exact .ifThen (ih condition (by simp [children])) (ih consequence (by simp [children]))
  | ifThenElse condition consequence alternative =>
      exact .ifThenElse (ih condition (by simp [children])) (ih consequence (by simp [children]))
        (ih alternative (by simp [children]))

theorem Arranged.eq_reorder {criterion other : Criterion} (arranged : Arranged criterion other) :
    other = criterion.reorder := by
  have ofItems {items arranged : List Criterion}
      (each : ∀ item ∈ items, ∀ other, Arranged item other → other = item.reorder)
      (below : List.Forall₂ Arranged items arranged) : arranged = reorderAll items := by
    induction below with
    | nil => rfl
    | cons head _ ih =>
        obtain ⟨first, others⟩ := List.forall_mem_cons.mp each
        rw [reorderAll, first _ head, ih others]
  induction criterion using induction_on generalizing other with
  | step node ih =>
  replace ih : ∀ child ∈ node.children, ∀ other, Arranged child other → other = child.reorder :=
    fun child member _ => ih child member
  cases arranged with
  | leaf test => rfl
  | all below order | any below order | bracket below order =>
      cases ofItems ih below
      cases order.eq_byCost
      rfl
  | xor onLeft onRight order =>
      cases ih _ (by simp [children]) _ onLeft
      cases ih _ (by simp [children]) _ onRight
      simp only [reorder, Nat.not_lt.mpr order, ↓reduceIte]
  | swapped onLeft onRight dearer =>
      cases ih _ (by simp [children]) _ onLeft
      cases ih _ (by simp [children]) _ onRight
      simp only [reorder, dearer, ↓reduceIte]
  | not below =>
      rw [reorder, ih _ (by simp [children]) _ below]
  | ifThen onCondition onConsequence =>
      rw [reorder, ih _ (by simp [children]) _ onCondition, ih _ (by simp [children]) _ onConsequence]
  | ifThenElse onCondition onConsequence onAlternative =>
      rw [reorder, ih _ (by simp [children]) _ onCondition, ih _ (by simp [children]) _ onConsequence,
        ih _ (by simp [children]) _ onAlternative]

/-- A reordered criterion is arranged at every node, there is one way to be so, and it is left as it is. -/
theorem reorder_canonical (criterion : Criterion) :
    (∀ other, Arranged criterion other ↔ other = criterion.reorder) ∧
      criterion.reorder.reorder = criterion.reorder := by
  refine ⟨?_, criterion.reorder_reorder⟩
  intro other
  constructor
  · exact Arranged.eq_reorder
  · rintro rfl
    exact criterion.reorder_arranged

end Criterion
end FileSieve
