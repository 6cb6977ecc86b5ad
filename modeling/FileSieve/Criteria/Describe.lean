import FileSieve.Criteria.Basic

namespace FileSieve.Criterion

def indented (depth : Nat) (label : List Char) : List Char :=
  List.replicate (2 * depth) ' ' ++ label

mutual

def outline (depth : Nat) : Criterion → List (List Char)
  | leaf test => [indented depth test.describe]
  | all items => indented depth "AND".toList :: outlineAll (depth + 1) items
  | any items => indented depth "OR".toList :: outlineAll (depth + 1) items
  | bracket items => indented depth "BRACKET".toList :: outlineAll (depth + 1) items
  | xor left right =>
    indented depth "XOR".toList :: outline (depth + 1) left ++ outline (depth + 1) right
  | not inner => indented depth "NOT".toList :: outline (depth + 1) inner
  | ifThen condition consequence =>
    indented depth "IF".toList :: outline (depth + 1) condition ++
      indented depth "THEN".toList :: outline (depth + 1) consequence
  | ifThenElse condition consequence alternative =>
    indented depth "IF".toList :: outline (depth + 1) condition ++
      indented depth "THEN".toList :: outline (depth + 1) consequence ++
      indented depth "ELSE".toList :: outline (depth + 1) alternative

def outlineAll (depth : Nat) : List Criterion → List (List Char)
  | [] => []
  | item :: rest => outline depth item ++ outlineAll depth rest

end

def describe (criterion : Criterion) : String :=
  String.ofList ((outline 0 criterion).flatMap (· ++ ['\n']))

end FileSieve.Criterion
