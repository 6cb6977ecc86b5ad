import FileSieve.Criteria.Basic
import FileSieve.File.Record

namespace FileSieve

open Record

def AttributeTest.consult : AttributeTest → Reading Bool
  | image => return (← ask .image).isSome
  | dll => return (← ask .image).any Image.isDll
  | image32 => return (← ask .image).any (!·.is64Bit)
  | image64 => return (← ask .image).any (·.is64Bit)
  | managed => return (← ask .image).any (·.hasClrHeader)
  | checksumValid => ask .checksum
  | signed => ask .signature
  | protectedFile => ask .protection
  | test => return test.evaluate (← readFile)

def DateField.consult : DateField → Reading (Option Instant)
  | header => return (← ask .image).map fun image => Instant.ofSeconds image.timestamp
  | field => return field.read? (← readFile)

def Leaf.consult : Leaf → Reading Bool
  | type test => test.consult
  | date field comparison reference => return (← field.consult).any (comparison.holds · reference)
  | content needle _ => return (← ask .contents).any needle.holds
  | digest algorithm digests => return (← ask (.digest algorithm)).any digests.contains
  | test => return test.evaluate (← readFile)

namespace Criterion

mutual

def consult : Criterion → Reading Bool
  | leaf test => test.consult
  | all items | bracket items => consultAll items
  | any items => consultAny items
  | xor left right => return (← consult left) != (← consult right)
  | not inner => return !(← consult inner)
  | ifThen condition consequence => do
    if ← consult condition then consult consequence else return true
  | ifThenElse condition consequence alternative => do
    if ← consult condition then consult consequence else consult alternative

def consultAll : List Criterion → Reading Bool
  | [] => return true
  | item :: rest => do
    if ← consult item then consultAll rest else return false

def consultAny : List Criterion → Reading Bool
  | [] => return false
  | item :: rest => do
    if ← consult item then return true else consultAny rest

end

end Criterion
end FileSieve
