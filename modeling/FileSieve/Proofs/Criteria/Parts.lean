import FileSieve.Criteria.Basic

namespace FileSieve

namespace Criterion

/-- The criteria right below a node. -/
def children : Criterion → List Criterion
  | leaf _ => []
  | all items | any items | bracket items => items
  | xor left right => [left, right]
  | not inner => [inner]
  | ifThen condition consequence => [condition, consequence]
  | ifThenElse condition consequence alternative => [condition, consequence, alternative]

theorem sizeOf_child (part whole : Criterion) (member : part ∈ whole.children) :
    sizeOf part < sizeOf whole := by
  cases whole with
  | leaf test => simp [children] at member
  | all items | any items | bracket items =>
      have smaller := List.sizeOf_lt_of_mem member
      simp only [all.sizeOf_spec, any.sizeOf_spec, bracket.sizeOf_spec]
      simp only [children] at smaller
      omega
  | xor left right =>
      simp only [children, List.mem_cons, List.not_mem_nil, or_false] at member
      rcases member with rfl | rfl <;> simp only [xor.sizeOf_spec] <;> omega
  | not inner =>
      simp only [children, List.mem_singleton] at member
      subst member
      simp only [not.sizeOf_spec]
      omega
  | ifThen condition consequence =>
      simp only [children, List.mem_cons, List.not_mem_nil, or_false] at member
      rcases member with rfl | rfl <;> simp only [ifThen.sizeOf_spec] <;> omega
  | ifThenElse condition consequence alternative =>
      simp only [children, List.mem_cons, List.not_mem_nil, or_false] at member
      rcases member with rfl | rfl | rfl <;> simp only [ifThenElse.sizeOf_spec] <;> omega

/-- What passes from the children of every node to the node holds of every criterion. -/
theorem induction_on {motive : Criterion → Prop} (criterion : Criterion)
    (step : ∀ node : Criterion, (∀ child ∈ node.children, motive child) → motive node) :
    motive criterion :=
  step criterion fun child _ => induction_on child step
termination_by sizeOf criterion
decreasing_by exact sizeOf_child child criterion ‹_›

mutual

/-- The criterion itself and all that it is made of. -/
def parts : Criterion → List Criterion
  | leaf test => [leaf test]
  | all items => all items :: partsOfAll items
  | any items => any items :: partsOfAll items
  | bracket items => bracket items :: partsOfAll items
  | xor left right => xor left right :: (parts left ++ parts right)
  | not inner => not inner :: parts inner
  | ifThen condition consequence =>
    ifThen condition consequence :: (parts condition ++ parts consequence)
  | ifThenElse condition consequence alternative =>
    ifThenElse condition consequence alternative ::
      (parts condition ++ (parts consequence ++ parts alternative))

def partsOfAll : List Criterion → List Criterion
  | [] => []
  | item :: rest => parts item ++ partsOfAll rest

end

def leaf? : Criterion → Option Leaf
  | leaf test => some test
  | _ => none

/-- The leaves in the order in which they are written. -/
def leaves (criterion : Criterion) : List Leaf := criterion.parts.filterMap leaf?

theorem partsOfAll_eq_flatMap (items : List Criterion) :
    partsOfAll items = items.flatMap parts := by
  induction items with
  | nil => rfl
  | cons item rest ih => rw [partsOfAll, List.flatMap_cons, ih]

theorem parts_eq (criterion : Criterion) :
    criterion.parts = criterion :: criterion.children.flatMap parts := by
  cases criterion <;>
    simp only [parts, children, partsOfAll_eq_flatMap, List.flatMap_cons, List.flatMap_nil,
      List.append_nil]

theorem mem_parts_self (criterion : Criterion) : criterion ∈ criterion.parts := by
  rw [parts_eq]
  exact List.mem_cons_self

theorem mem_parts_of_child {part child criterion : Criterion}
    (member : child ∈ criterion.children) (inside : part ∈ child.parts) :
    part ∈ criterion.parts := by
  rw [parts_eq]
  exact List.mem_cons_of_mem _ (List.mem_flatMap.mpr ⟨child, member, inside⟩)

theorem leaves_eq (criterion : Criterion) :
    criterion.leaves = criterion.leaf?.toList ++ criterion.children.flatMap leaves := by
  rw [leaves, parts_eq, List.filterMap_cons, List.filterMap_flatMap]
  cases criterion.leaf? <;> rfl

theorem mem_leaves_of_child {test : Leaf} {child criterion : Criterion}
    (member : child ∈ criterion.children) (inside : test ∈ child.leaves) :
    test ∈ criterion.leaves := by
  rw [leaves_eq]
  exact List.mem_append_right _ (List.mem_flatMap.mpr ⟨child, member, inside⟩)

theorem forall_leaves_of_children (P : Leaf → Prop) (criterion : Criterion)
    (inner : criterion.leaf? = none)
    (below : ∀ child ∈ criterion.children, ∀ test ∈ child.leaves, P test) :
    ∀ test ∈ criterion.leaves, P test := by
  intro test member
  rw [leaves_eq, inner, Option.toList_none, List.nil_append] at member
  obtain ⟨child, among, inside⟩ := List.mem_flatMap.mp member
  exact below child among test inside

theorem evaluateAll_eq_all (file : File) (items : List Criterion) :
    evaluateAll file items = items.all (evaluate file) := by
  induction items with
  | nil => rfl
  | cons item rest ih => simp only [evaluateAll, List.all_cons, ih]

theorem evaluateAny_eq_any (file : File) (items : List Criterion) :
    evaluateAny file items = items.any (evaluate file) := by
  induction items with
  | nil => rfl
  | cons item rest ih => simp only [evaluateAny, List.any_cons, ih]

theorem costOfAll_eq_foldr (items : List Criterion) :
    costOfAll items = (items.map cost).foldr Cost.max .fastAttribute := by
  induction items with
  | nil => rfl
  | cons item rest ih => simp only [costOfAll, List.map_cons, List.foldr_cons, ih]

theorem decisionOf_eq_foldl (directory : Path) (every : Bool) (sofar : Decision)
    (items : List Criterion) :
    decisionOf directory every sofar items =
      (items.map (decision directory)).foldl (Decision.combine every) sofar := by
  induction items generalizing sofar with
  | nil => rfl
  | cons item rest ih => simp only [decisionOf, List.map_cons, List.foldl_cons, ih]

end Criterion
end FileSieve
