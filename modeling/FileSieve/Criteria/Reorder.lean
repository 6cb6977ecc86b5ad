import FileSieve.Criteria.Basic

namespace FileSieve.Criterion

def byCost (items : List Criterion) : List Criterion :=
  items.mergeSort fun a b => decide (a.cost.rank ≤ b.cost.rank)

mutual

/-- Parts of equal cost keep their order. -/
def reorder : Criterion → Criterion
  | leaf test => .leaf test
  | all items => .all (byCost (reorderAll items))
  | any items => .any (byCost (reorderAll items))
  | bracket items => .bracket (byCost (reorderAll items))
  | xor left right =>
    let left := reorder left
    let right := reorder right
    if right.cost.rank < left.cost.rank then .xor right left else .xor left right
  | not inner => .not (reorder inner)
  | ifThen condition consequence => .ifThen (reorder condition) (reorder consequence)
  | ifThenElse condition consequence alternative =>
    .ifThenElse (reorder condition) (reorder consequence) (reorder alternative)

def reorderAll : List Criterion → List Criterion
  | [] => []
  | item :: rest => reorder item :: reorderAll rest

end

mutual

def withoutPruning : Criterion → Criterion
  | leaf test => .leaf test.withoutPruning
  | all items => .all (withoutPruningAll items)
  | any items => .any (withoutPruningAll items)
  | bracket items => .bracket (withoutPruningAll items)
  | xor left right => .xor (withoutPruning left) (withoutPruning right)
  | not inner => .not (withoutPruning inner)
  | ifThen condition consequence =>
    .ifThen (withoutPruning condition) (withoutPruning consequence)
  | ifThenElse condition consequence alternative =>
    .ifThenElse (withoutPruning condition) (withoutPruning consequence)
      (withoutPruning alternative)

def withoutPruningAll : List Criterion → List Criterion
  | [] => []
  | item :: rest => withoutPruning item :: withoutPruningAll rest

end

end FileSieve.Criterion
