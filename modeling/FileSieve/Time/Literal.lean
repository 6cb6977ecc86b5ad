import FileSieve.Time.Instant

namespace FileSieve.DateLiteral

def digits? (width : Option Nat) (text : List Char) : Option (Nat × List Char) :=
  let run := text.takeWhile Char.isDigit
  let digits := match width with
    | some width => run.take width
    | none => run
  if digits = [] then none else some (Number.ofDigits digits, text.drop digits.length)

def number? (text : List Char) : Option (Nat × List Char) := digits? (some 2) (dropBlanks text)

/-- Four digits at most, or any number of them behind a sign. -/
def year? (text : List Char) : Option (Int × List Char) :=
  match dropBlanks text with
  | '-' :: rest => (digits? none rest).map fun (n, rest) => (-(n : Int), rest)
  | '+' :: rest => (digits? none rest).map fun (n, rest) => ((n : Int), rest)
  | rest => (digits? (some 4) rest).map fun (n, rest) => ((n : Int), rest)

def expect? (c : Char) : List Char → Option (List Char)
  | [] => none
  | head :: rest => if head = c then some rest else none

def date? (text : List Char) : Option (Date × List Char) := do
  let (year, rest) ← year? text
  let (month, rest) ← number? (← expect? '-' rest)
  let (day, rest) ← number? (← expect? '-' rest)
  let date : Date := ⟨year, month, day⟩
  if date.isValid then some (date, rest) else none

def seconds? (text : List Char) : Option (Nat × List Char) := (expect? ':' text).bind number?

def dateTime? (withSeconds : Bool) (text : List Char) : Option Instant := do
  let (date, rest) ← date? text
  let (hour, rest) ← number? (← expect? 'T' rest)
  let (minute, rest) ← number? (← expect? ':' rest)
  let (second, rest) ← if withSeconds then seconds? rest else some (0, rest)
  if rest = [] ∧ hour ≤ 23 ∧ minute ≤ 59 ∧ second ≤ 60 then
    some (Instant.ofDate date hour minute second)
  else none

def absolute? (text : List Char) : Option Instant :=
  if text.contains 'T' then (dateTime? true text).or (dateTime? false text)
  else do
    let (date, rest) ← date? text
    if rest = [] then some (Instant.ofDate date 0 0 0) else none

def relative? (amount : List Char) (unit : Int) (now : Instant) : Option Instant := do
  let count ← Number.signed64? amount
  let seconds ← Instant.span? count unit
  now.earlier? seconds

def parse? (text : List Char) (now : Instant) : Option Instant :=
  match text.getLast?.map Char.toLower with
  | some 'd' => relative? text.dropLast 86400 now
  | some 'h' => relative? text.dropLast 3600 now
  | _ => absolute? text

end FileSieve.DateLiteral
