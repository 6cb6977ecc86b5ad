import FileSieve.Criteria.Consult
import FileSieve.Proofs.Criteria.Parts
import FileSieve.Proofs.File.Record

namespace FileSieve

open Record

theorem AttributeTest.consult_asks (file : File) (test : AttributeTest) :
    Asks file test.consult (test.evaluate file) test.fact?.toList := by
  cases test with
  | image => exact (ask_asks file .image).map Option.isSome
  | dll => exact (ask_asks file .image).map (·.any Image.isDll)
  | image32 => exact (ask_asks file .image).map (·.any (!·.is64Bit))
  | image64 => exact (ask_asks file .image).map (·.any (·.is64Bit))
  | managed => exact (ask_asks file .image).map (·.any (·.hasClrHeader))
  | checksumValid => exact ask_asks file .checksum
  | signed => exact ask_asks file .signature
  | protectedFile => exact ask_asks file .protection
  | _ => exact (readFile_asks file).map (AttributeTest.evaluate · _)

theorem DateField.consult_asks (file : File) (field : DateField) (comparison : DateComparison) (reference : Instant) :
    Asks file field.consult (field.read? file) (Leaf.date field comparison reference).fact?.toList := by
  cases field with
  | header => exact (ask_asks file .image).map (·.map fun image => Instant.ofSeconds image.timestamp)
  | _ => exact (readFile_asks file).map (DateField.read? · _)

theorem Leaf.consult_asks (file : File) (test : Leaf) :
    Asks file test.consult (test.evaluate file) test.fact?.toList := by
  cases test with
  | type test => exact test.consult_asks file
  | date field comparison reference =>
    exact (field.consult_asks file comparison reference).map (·.any (comparison.holds · reference))
  | content needle isHex => exact (ask_asks file .contents).map (·.any needle.holds)
  | digest algorithm digests => exact (ask_asks file (.digest algorithm)).map (·.any digests.contains)
  | _ => exact (readFile_asks file).map (Leaf.evaluate · _)

namespace Criterion

/-- On every record of the file the criterion comes out as it does on the file. -/
def Agrees (file : File) (criterion : Criterion) : Prop :=
  Asks file criterion.consult (criterion.evaluate file) (criterion.facts file)

theorem consultAll_asks {file : File} {items : List Criterion} (agree : ∀ item ∈ items, Agrees file item) :
    Asks file (consultAll items) (evaluateAll file items) (factsWhile file true items) := by
  induction items with
  | nil => exact asks_pure file true
  | cons item rest ih =>
    obtain ⟨first, others⟩ := List.forall_mem_cons.mp agree
    rw [consultAll, evaluateAll, factsWhile]
    refine Asks.bind first ?_
    cases item.evaluate file with
    | true => exact ih others
    | false => exact asks_pure file false

theorem consultAny_asks {file : File} {items : List Criterion} (agree : ∀ item ∈ items, Agrees file item) :
    Asks file (consultAny items) (evaluateAny file items) (factsWhile file false items) := by
  induction items with
  | nil => exact asks_pure file false
  | cons item rest ih =>
    obtain ⟨first, others⟩ := List.forall_mem_cons.mp agree
    rw [consultAny, evaluateAny, factsWhile]
    refine Asks.bind first ?_
    cases item.evaluate file with
    | true => exact asks_pure file true
    | false => exact ih others

theorem consult_agrees (file : File) (criterion : Criterion) : Agrees file criterion := by
  induction criterion using induction_on with
  | step node agree =>
    cases node with
    | leaf test => exact test.consult_asks file
    | all items | bracket items => exact consultAll_asks agree
    | any items => exact consultAny_asks agree
    | xor left right =>
      rw [Agrees, consult, evaluate, facts]
      exact (agree left (by simp [children])).bind ((agree right (by simp [children])).map _)
    | not inner =>
      exact (agree inner (by simp [children])).map (!·)
    | ifThen condition consequence =>
      rw [Agrees, consult, evaluate, facts]
      refine (agree condition (by simp [children])).bind ?_
      cases condition.evaluate file with
      | true => exact agree consequence (by simp [children])
      | false => exact asks_pure file true
    | ifThenElse condition consequence alternative =>
      rw [Agrees, consult, evaluate, facts]
      refine (agree condition (by simp [children])).bind ?_
      cases condition.evaluate file with
      | true => exact agree consequence (by simp [children])
      | false => exact agree alternative (by simp [children])

end Criterion
end FileSieve
