import FileSieve.Text.Basic

namespace FileSieve

open Std (TransCmp OrientedCmp)

section

variable {α β : Type} (compare : α → α → Ordering) [TransCmp compare]

theorem transCmp_on (key : β → α) : TransCmp fun a b => compare (key a) (key b) where
  eq_swap {a b} := @OrientedCmp.eq_swap _ compare _ (key a) (key b)
  isLE_trans {a b c} := @TransCmp.isLE_trans _ compare _ (key a) (key b) (key c)

theorem pairwise_mergeSort (items : List α) :
    (items.mergeSort fun a b => compare a b != .gt).Pairwise fun a b => (compare a b).isLE = true := by
  have isLE (a b : α) : (compare a b != .gt) = (compare a b).isLE := Ordering.isLE_eq_not_beq_gt.symm
  simp only [isLE]
  apply List.pairwise_mergeSort
  · intro a b c
    exact TransCmp.isLE_trans
  · intro a b
    rw [@OrientedCmp.eq_swap _ compare _ b a]
    cases compare a b <;> rfl

/-- Only one order of the elements is sorted, if none but equal elements compare as equal. -/
theorem mergeSort_unique {items sorted : List α} (perm : sorted.Perm items)
    (ordered : sorted.Pairwise fun a b => (compare a b).isLE = true)
    (told : ∀ a ∈ items, ∀ b ∈ items, compare a b = .eq → a = b) :
    (items.mergeSort fun a b => compare a b != .gt) = sorted := by
  have sortedPerm := List.mergeSort_perm items fun a b => compare a b != .gt
  apply List.Perm.eq_of_pairwise _ (pairwise_mergeSort compare items) ordered (sortedPerm.trans perm.symm)
  intro a b ofItems ofSorted before behind
  apply told a (sortedPerm.mem_iff.mp ofItems) b (perm.mem_iff.mp ofSorted)
  exact OrientedCmp.isLE_antisymm before behind

theorem mergeSort_eq_of_perm {first second : List α} (perm : first.Perm second)
    (told : ∀ a ∈ first, ∀ b ∈ first, compare a b = .eq → a = b) :
    (first.mergeSort fun a b => compare a b != .gt) =
      second.mergeSort fun a b => compare a b != .gt := by
  apply mergeSort_unique compare _ (pairwise_mergeSort compare second) told
  exact (List.mergeSort_perm second _).trans perm.symm

theorem mergeSort_opposite (items : List α) (told : ∀ a ∈ items, ∀ b ∈ items, compare a b = .eq → a = b) :
    (items.mergeSort fun a b => compare b a != .gt) =
      (items.mergeSort fun a b => compare a b != .gt).reverse := by
  have opposite : TransCmp fun a b => compare b a := TransCmp.opposite
  apply mergeSort_unique fun a b => compare b a
  · exact (List.reverse_perm _).trans (List.mergeSort_perm items _)
  · exact List.pairwise_reverse.mpr (pairwise_mergeSort compare items)
  · intro a ofFirst b ofSecond same
    exact (told b ofSecond a ofFirst same).symm

theorem mergeSort_filter (keep : α → Bool) (items : List α)
    (told : ∀ a ∈ items, ∀ b ∈ items, compare a b = .eq → a = b) :
    ((items.filter keep).mergeSort fun a b => compare a b != .gt) =
      (items.mergeSort fun a b => compare a b != .gt).filter keep := by
  apply mergeSort_unique compare
  · exact (List.mergeSort_perm items _).filter keep
  · exact (pairwise_mergeSort compare items).filter keep
  · intro a ofFirst b ofSecond same
    exact told a (List.mem_filter.mp ofFirst).1 b (List.mem_filter.mp ofSecond).1 same

end

instance : TransCmp compareText := inferInstanceAs (TransCmp (List.compareLex Ord.compare))

theorem compareText_eq_lt_iff (a b : List Char) : compareText a b = .lt ↔ a < b := by
  rw [compareText]
  induction a generalizing b with
  | nil =>
      cases b with
      | nil => exact iff_of_false nofun (List.not_lt_nil [])
      | cons second others => exact iff_of_true rfl (List.nil_lt_cons second others)
  | cons first rest ih =>
      cases b with
      | nil => exact iff_of_false nofun (List.not_lt_nil _)
      | cons second others =>
          have before : Ord.compare first second = .lt ↔ first < second := compareOfLessAndEq_eq_lt
          have same : Ord.compare first second = .eq ↔ first = second := Std.compare_eq_iff_eq
          rw [List.compareLex_cons_cons, Ordering.then_eq_lt, before, same, ih others, List.cons_lt_cons_iff]

theorem compareText_eq_eq_iff (a b : List Char) : compareText a b = .eq ↔ a = b :=
  @Std.LawfulEqCmp.compare_eq_iff_eq _ (List.compareLex Ord.compare) _ _ _

end FileSieve
