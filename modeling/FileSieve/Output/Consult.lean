import FileSieve.Criteria.Consult
import FileSieve.Output.Match

namespace FileSieve

open Record

def TemplateField.consult : TemplateField → Reading (List Char)
  | imageTime => return timeColumn ((← ask .image).map fun image => Instant.ofSeconds image.timestamp)
  | digest algorithm => return ((← ask (.digest algorithm)).map Hex.encode).getD []
  | field => return field.value (← readFile)

def TemplatePiece.consult : TemplatePiece → Reading (List Char)
  | copied text => return text
  | braced name =>
    match TemplateField.ofName? name with
    | some field => field.consult
    | none => return (braced name).written

def Template.consult (template : List Char) : Reading (List Char) :=
  return (← (pieces none template).mapM TemplatePiece.consult).flatten

def LineFormat.consult : LineFormat → Reading (List Char)
  | template text => Template.consult text.toList
  | format => return format.render (← readFile)

inductive Use where
  | evaluate (criterion : Criterion)
  | render (format : LineFormat)
  | forget

inductive Answer where
  | verdict (holds : Bool)
  | line (text : List Char)
  | done
  deriving DecidableEq, Repr

structure Report where
  answer : Answer
  touched : List Fact
  deriving DecidableEq, Repr

namespace Use

def consult : Use → Reading Answer
  | evaluate criterion => return .verdict (← criterion.consult)
  | render format => return .line (← format.consult)
  | forget => do
    Record.forget
    return .done

def report (use : Use) : Reading Report := do
  let before := (← get).touched
  let answer ← use.consult
  return ⟨answer, (← get).touched.drop before.length⟩

end Use

def Record.reports (uses : List Use) : Reading (List Report) := uses.mapM Use.report

end FileSieve
