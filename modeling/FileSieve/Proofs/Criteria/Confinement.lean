import FileSieve.Proofs.Criteria.Reordering

namespace FileSieve

namespace Criterion

theorem withoutPruningAll_eq_map (items : List Criterion) :
    withoutPruningAll items = items.map withoutPruning := by
  induction items with
  | nil => rfl
  | cons item rest ih => simp only [withoutPruningAll, List.map_cons, ih]

theorem firstRoots?_eq_none_iff (items : List Criterion) :
    firstRoots? items = none ↔ ∀ item ∈ items, item.roots? = none := by
  induction items with
  | nil => simp [firstRoots?]
  | cons item rest ih =>
      rw [firstRoots?]
      cases bounded : item.roots? with
      | none => simp [bounded, ih]
      | some roots => simp [bounded]

theorem everyRoots?_eq_none_iff (items : List Criterion) :
    everyRoots? items = none ↔ ∃ item ∈ items, item.roots? = none := by
  induction items with
  | nil => simp [everyRoots?]
  | cons item rest ih =>
      rw [everyRoots?]
      cases bounded : item.roots? with
      | none => simp [bounded]
      | some roots => simp [bounded, ih]

theorem cost_withoutPruning (criterion : Criterion) : criterion.withoutPruning.cost = criterion.cost := by
  have ofItems (items : List Criterion) (ih : ∀ item ∈ items, item.withoutPruning.cost = item.cost) :
      costOfAll (items.map withoutPruning) = costOfAll items := by
    rw [costOfAll_eq_foldr, costOfAll_eq_foldr, List.map_map]
    exact congrArg (List.foldr Cost.max .fastAttribute) (List.map_congr_left ih)
  induction criterion using induction_on with
  | step node ih =>
  cases node with
  | leaf test => cases test <;> rfl
  | all items | any items | bracket items =>
      simp only [withoutPruning, withoutPruningAll_eq_map, cost]
      exact ofItems items ih
  | not inner =>
      simp only [withoutPruning, cost]
      exact ih inner (by simp [children])
  | xor left right | ifThen left right =>
      simp only [withoutPruning, cost, ih left (by simp [children]), ih right (by simp [children])]
  | ifThenElse condition consequence alternative =>
      simp only [withoutPruning, cost, ih condition (by simp [children]),
        ih consequence (by simp [children]), ih alternative (by simp [children])]

theorem reorder_withoutPruning (criterion : Criterion) :
    criterion.withoutPruning.reorder = criterion.reorder.withoutPruning := by
  have ofItems (items : List Criterion)
      (ih : ∀ item ∈ items, item.withoutPruning.reorder = item.reorder.withoutPruning) :
      byCost ((items.map withoutPruning).map reorder) = (byCost (items.map reorder)).map withoutPruning := by
    have inside : (items.map withoutPruning).map reorder = (items.map reorder).map withoutPruning := by
      rw [List.map_map, List.map_map]
      exact List.map_congr_left ih
    rw [inside, byCost, byCost, List.map_mergeSort]
    intro a _ b _
    rw [cost_withoutPruning, cost_withoutPruning]
  induction criterion using induction_on with
  | step node ih =>
  cases node with
  | leaf test => rfl
  | all items | any items | bracket items =>
      simp only [withoutPruning, withoutPruningAll_eq_map, reorder, reorderAll_eq_map, ofItems items ih]
  | xor left right =>
      have onLeft := ih left (by simp [children])
      have onRight := ih right (by simp [children])
      simp only [withoutPruning, reorder, onLeft, onRight, cost_withoutPruning]
      split <;> rfl
  | not inner => simp only [withoutPruning, reorder, ih inner (by simp [children])]
  | ifThen condition consequence =>
      simp only [withoutPruning, reorder, ih condition (by simp [children]),
        ih consequence (by simp [children])]
  | ifThenElse condition consequence alternative =>
      simp only [withoutPruning, reorder, ih condition (by simp [children]),
        ih consequence (by simp [children]), ih alternative (by simp [children])]

theorem roots?_withoutPruning (criterion : Criterion) : criterion.withoutPruning.roots? = criterion.roots? := by
  induction criterion using induction_on with
  | step node ih =>
  cases node with
  | leaf test => cases test <;> rfl
  | all items | bracket items =>
      simp only [withoutPruning, withoutPruningAll_eq_map, roots?]
      induction items with
      | nil => rfl
      | cons item rest inner =>
          obtain ⟨head, tail⟩ := List.forall_mem_cons.mp ih
          rw [List.map_cons, firstRoots?, firstRoots?, head, inner tail]
  | any items =>
      simp only [withoutPruning, withoutPruningAll_eq_map, roots?]
      induction items with
      | nil => rfl
      | cons item rest inner =>
          obtain ⟨head, tail⟩ := List.forall_mem_cons.mp ih
          rw [List.map_cons, everyRoots?, everyRoots?, head, inner tail]
  | xor | not | ifThen | ifThenElse => rfl

theorem roots?_reorder_eq_none_iff (criterion : Criterion) :
    criterion.reorder.roots? = none ↔ criterion.roots? = none := by
  induction criterion using induction_on with
  | step node ih =>
  cases node with
  | leaf test => rfl
  | all items | bracket items =>
      simp only [reorder, reorderAll_eq_map, roots?, firstRoots?_eq_none_iff, (byCost_perm _).mem_iff,
        List.forall_mem_map]
      exact forall₂_congr ih
  | any items =>
      simp only [reorder, reorderAll_eq_map, roots?, everyRoots?_eq_none_iff, (byCost_perm _).mem_iff,
        List.mem_map]
      constructor
      · rintro ⟨_, ⟨item, member, rfl⟩, unbounded⟩
        exact ⟨item, member, (ih item member).mp unbounded⟩
      · rintro ⟨item, member, unbounded⟩
        exact ⟨item.reorder, ⟨item, member, rfl⟩, (ih item member).mpr unbounded⟩
  | xor left right =>
      simp only [reorder]
      split <;> exact Iff.rfl
  | not | ifThen | ifThenElse => exact Iff.rfl

end Criterion

end FileSieve
