import FileSieve.Criteria.Leaf

namespace FileSieve

inductive Criterion where
  | leaf (test : Leaf)
  | all (items : List Criterion)
  | any (items : List Criterion)
  | bracket (items : List Criterion)
  | xor (left right : Criterion)
  | not (inner : Criterion)
  | ifThen (condition consequence : Criterion)
  | ifThenElse (condition consequence alternative : Criterion)
  deriving Repr

namespace Criterion

def group : List Criterion → Criterion
  | [item] => item
  | items => bracket items

mutual

/-- Without an alternative, a condition that fails makes the criterion true. -/
def evaluate (file : File) : Criterion → Bool
  | leaf test => test.evaluate file
  | all items | bracket items => evaluateAll file items
  | any items => evaluateAny file items
  | xor left right => evaluate file left != evaluate file right
  | not inner => !evaluate file inner
  | ifThen condition consequence => !evaluate file condition || evaluate file consequence
  | ifThenElse condition consequence alternative =>
    if evaluate file condition then evaluate file consequence else evaluate file alternative

def evaluateAll (file : File) : List Criterion → Bool
  | [] => true
  | item :: rest => evaluate file item && evaluateAll file rest

def evaluateAny (file : File) : List Criterion → Bool
  | [] => false
  | item :: rest => evaluate file item || evaluateAny file rest

end

mutual

/-- The expensive facts that evaluation asks the file for, in order and with repetitions. -/
def facts (file : File) : Criterion → List Fact
  | leaf test => test.fact?.toList
  | all items | bracket items => factsWhile file true items
  | any items => factsWhile file false items
  | xor left right => facts file left ++ facts file right
  | not inner => facts file inner
  | ifThen condition consequence =>
    facts file condition ++ if evaluate file condition then facts file consequence else []
  | ifThenElse condition consequence alternative =>
    facts file condition ++
      if evaluate file condition then facts file consequence else facts file alternative

/-- The facts of the items up to the first one that does not evaluate to `result`. -/
def factsWhile (file : File) (result : Bool) : List Criterion → List Fact
  | [] => []
  | item :: rest =>
    facts file item ++ if evaluate file item == result then factsWhile file result rest else []

end

mutual

def cost : Criterion → Cost
  | leaf test => test.cost
  | all items | any items | bracket items => costOfAll items
  | xor left right => left.cost.max right.cost
  | not inner => inner.cost
  | ifThen condition consequence => condition.cost.max consequence.cost
  | ifThenElse condition consequence alternative =>
    (condition.cost.max consequence.cost).max alternative.cost

def costOfAll : List Criterion → Cost
  | [] => .fastAttribute
  | item :: rest => item.cost.max (costOfAll rest)

end

mutual

def decision (directory : Path) : Criterion → Decision
  | leaf test => test.decision directory
  | all items | bracket items => decisionOf directory true .indifferent items
  | any items => decisionOf directory false .indifferent items
  | xor left right => (decision directory left).combine false (decision directory right)
  | not inner => (decision directory inner).negate
  | ifThen condition consequence =>
    match decision directory condition with
    | .prune => .enter
    | _ => (decision directory consequence).combine false .enter
  | ifThenElse condition consequence alternative =>
    match decision directory condition with
    | .prune => decision directory alternative
    | _ => (decision directory consequence).combine false (decision directory alternative)

def decisionOf (directory : Path) (every : Bool) (sofar : Decision) : List Criterion → Decision
  | [] => sofar
  | item :: rest =>
    decisionOf directory every (sofar.combine every (decision directory item)) rest

end

mutual

/-- Literal directories that hold every match, if the patterns of the tree confine them: one bounded
part bounds a conjunction, a disjunction needs all of its parts bounded. -/
def roots? : Criterion → Option (List Path)
  | leaf (.wildcard pattern) => pattern.root?.map ([·])
  | all items | bracket items => firstRoots? items
  | any items => everyRoots? items
  | _ => none

def firstRoots? : List Criterion → Option (List Path)
  | [] => none
  | item :: rest =>
    match roots? item with
    | some roots => some roots
    | none => firstRoots? rest

def everyRoots? : List Criterion → Option (List Path)
  | [] => some []
  | item :: rest =>
    match roots? item with
    | some roots => (everyRoots? rest).map (roots ++ ·)
    | none => none

end

def roots (criterion : Criterion) : List Path := criterion.roots?.getD []

end Criterion
end FileSieve
