import FileSieve.Path

/-! Wildcards over bytes. `?` stands for one byte, `*` for any, other bytes for themselves up to the
case of ASCII letters. Between separators, `**` stands for any number of components. -/

namespace FileSieve

inductive Segment where
  | byte (byte : UInt8)
  | one
  | many
  | leading
  | middle
  | trailing
  deriving DecidableEq, Repr

abbrev Glob := List Segment

namespace Glob

def doubleStar : Bytes := [0x2A, 0x2A]

def segment (byte : UInt8) : Segment :=
  if byte = 0x2A then .many else if byte = 0x3F then .one else .byte (Bytes.lowerByte byte)

/-- Components behind the first one; `starred` says that double stars came just before. -/
def afterComponent (starred : Bool) : List Bytes → Glob
  | [] => if starred then [.trailing] else []
  | component :: rest =>
    if component = doubleStar then afterComponent true rest
    else (if starred then .middle else .byte Path.separator) ::
      component.map segment ++ afterComponent false rest

def afterLeading : List Bytes → Glob
  | [] => [.many]
  | component :: rest =>
    if component = doubleStar then afterLeading rest
    else if component = [] ∧ rest = [] then [.many]
    else .leading :: component.map segment ++ afterComponent false rest

def ofBytes (pattern : Bytes) : Glob :=
  match Bytes.split Path.separator pattern with
  | [] => []
  | component :: rest =>
    if component = doubleStar then afterLeading rest
    else component.map segment ++ afterComponent false rest

def anyEnd (test : Bytes → Bool) : Bytes → Bool
  | [] => test []
  | byte :: rest => test (byte :: rest) || anyEnd test rest

def anyAfterSeparator (test : Bytes → Bool) : Bytes → Bool
  | [] => false
  | byte :: rest => (byte == Path.separator && test rest) || anyAfterSeparator test rest

def afterByte (first : UInt8 → Bool) (test : Bytes → Bool) : Bytes → Bool
  | [] => false
  | byte :: rest => first byte && test rest

/-- The texts that a segment starts, by what may follow it. -/
def startedBy (test : Bytes → Bool) : Segment → Bytes → Bool
  | .byte expected => afterByte (Bytes.lowerByte · == expected) test
  | .one => afterByte (fun _ => true) test
  | .many => anyEnd test
  | .leading => fun text => test text || anyAfterSeparator test text
  | .middle => afterByte (· == Path.separator) fun text => test text || anyAfterSeparator test text
  | .trailing => afterByte (· == Path.separator) (anyEnd test)

def fits : Glob → Bytes → Bool
  | [] => List.isEmpty
  | segment :: rest => startedBy (fits rest) segment

/-! Matching by trial takes time that grows with every star. What follows finds out segment by segment,
from the last one, which ends of the text match. -/

def ends : Bytes → List Bytes
  | [] => [[]]
  | byte :: rest => (byte :: rest) :: ends rest

def answersAfterByte (first : UInt8 → Bool) : Bytes → List Bool → List Bool
  | byte :: rest, _ :: answers =>
    (first byte && answers.headD false) :: answersAfterByte first rest answers
  | _, _ => [false]

def answersAnyEnd : List Bool → List Bool
  | [] => []
  | answer :: answers =>
    let later := answersAnyEnd answers
    (answer || later.headD false) :: later

def answersAfterSeparator : Bytes → List Bool → List Bool
  | byte :: rest, _ :: answers =>
    let later := answersAfterSeparator rest answers
    ((byte == Path.separator && answers.headD false) || later.headD false) :: later
  | _, _ => [false]

def answersLeading (text : Bytes) (answers : List Bool) : List Bool :=
  List.zipWith (· || ·) answers (answersAfterSeparator text answers)

def answersStartedBy (text : Bytes) (answers : List Bool) : Segment → List Bool
  | .byte expected => answersAfterByte (Bytes.lowerByte · == expected) text answers
  | .one => answersAfterByte (fun _ => true) text answers
  | .many => answersAnyEnd answers
  | .leading => answersLeading text answers
  | .middle => answersAfterByte (· == Path.separator) text (answersLeading text answers)
  | .trailing => answersAfterByte (· == Path.separator) text (answersAnyEnd answers)

def answers (text : Bytes) : Glob → List Bool
  | [] => (ends text).map List.isEmpty
  | segment :: rest => answersStartedBy text (answers text rest) segment

def accepts (glob : Glob) (text : Bytes) : Bool := (answers text glob).headD false

theorem head?_ends (text : Bytes) : (ends text).head? = some text := by
  cases text <;> rfl

theorem answersAfterByte_ends (first : UInt8 → Bool) (test : Bytes → Bool) (text : Bytes) :
    answersAfterByte first text ((ends text).map test) = (ends text).map (afterByte first test) := by
  induction text with
  | nil => rfl
  | cons byte rest ih => simp [ends, answersAfterByte, afterByte, ih, head?_ends]

theorem answersAnyEnd_ends (test : Bytes → Bool) (text : Bytes) :
    answersAnyEnd ((ends text).map test) = (ends text).map (anyEnd test) := by
  induction text with
  | nil => simp [ends, answersAnyEnd, anyEnd]
  | cons byte rest ih => simp [ends, answersAnyEnd, anyEnd, ih, head?_ends]

theorem answersAfterSeparator_ends (test : Bytes → Bool) (text : Bytes) :
    answersAfterSeparator text ((ends text).map test) =
      (ends text).map (anyAfterSeparator test) := by
  induction text with
  | nil => rfl
  | cons byte rest ih => simp [ends, answersAfterSeparator, anyAfterSeparator, ih, head?_ends]

theorem answersLeading_ends (test : Bytes → Bool) (text : Bytes) :
    answersLeading text ((ends text).map test) =
      (ends text).map fun text => test text || anyAfterSeparator test text := by
  rw [answersLeading, answersAfterSeparator_ends, List.zipWith_map, List.zipWith_self]

theorem answers_eq_map_ends (glob : Glob) (text : Bytes) :
    answers text glob = (ends text).map (fits glob) := by
  induction glob with
  | nil => rfl
  | cons segment rest ih =>
    cases segment <;>
      simp only [answers, answersStartedBy, ih, answersAfterByte_ends, answersAnyEnd_ends,
        answersLeading_ends] <;> rfl

theorem accepts_eq_fits (glob : Glob) (text : Bytes) : accepts glob text = fits glob text := by
  simp [accepts, answers_eq_map_ends, head?_ends]

end Glob
end FileSieve
