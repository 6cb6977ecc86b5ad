import FileSieve.Path
import FileSieve.Proofs.Ordering

namespace FileSieve

open Std (TransCmp LawfulEqCmp)

namespace Component

def nameBytes : Component → Bytes
  | name bytes => bytes
  | _ => []

theorem compare_eq_then (a b : Component) :
    a.compare b = (Ord.compare a.rank b.rank).then (a.nameBytes.compareLex Ord.compare b.nameBytes) := by
  cases a <;> cases b <;> rfl

/-- Comparing by rank first and by name second is a lexicographic order, hence a total preorder. -/
instance : TransCmp compare := by
  have lexicographic : compare =
      compareLex (fun a b => Ord.compare a.rank b.rank)
        (fun a b => a.nameBytes.compareLex Ord.compare b.nameBytes) := by
    funext a b
    exact compare_eq_then a b
  have byName : TransCmp fun a b : Component => a.nameBytes.compareLex Ord.compare b.nameBytes :=
    inferInstanceAs (TransCmp (compareOn nameBytes))
  have byRank : TransCmp fun a b : Component => Ord.compare a.rank b.rank :=
    inferInstanceAs (TransCmp (compareOn rank))
  rw [lexicographic]
  infer_instance

instance : LawfulEqCmp compare where
  eq_of_compare {a b} same := by
    rw [compare_eq_then, Ordering.then_eq_eq] at same
    obtain ⟨ranks, names⟩ := same
    have sameRank := LawfulEqCmp.eq_of_compare ranks
    have sameName := LawfulEqCmp.eq_of_compare names
    cases a <;> cases b <;> simp_all [rank, nameBytes]

end Component

namespace Path

instance : TransCmp compare := transCmp_on (List.compareLex Component.compare) components

theorem compare_eq_iff (a b : Path) : a.compare b = .eq ↔ a.components = b.components :=
  @LawfulEqCmp.compare_eq_iff_eq _ (List.compareLex Component.compare) _ _ _

theorem same_iff (a b : Path) : a.same b = true ↔ a.components = b.components := beq_iff_eq

theorem isLE_of_prefix (front back : List Component) :
    (front.compareLex Component.compare (front ++ back)).isLE = true := by
  induction front with
  | nil => exact List.isLE_compareLex_nil_left
  | cons first front ih =>
      rw [List.cons_append, List.compareLex_cons_cons,
        @Std.ReflCmp.compare_self _ Component.compare]
      exact ih

theorem compare_of_startsWith (path ancestor : Path) (starts : path.startsWith ancestor = true) :
    (ancestor.compare path).isLE = true := by
  obtain ⟨back, whole⟩ := List.isPrefixOf_iff_prefix.mp starts
  rw [compare, ← whole]
  exact isLE_of_prefix _ back

end Path

end FileSieve
