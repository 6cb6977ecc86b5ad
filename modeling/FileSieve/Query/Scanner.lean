import FileSieve.Query.Lexer
import FileSieve.Text.Slice

/-! The lexer with a place in its input. Every look at the input slices it at the place reached, and the lexeme of a
modifier is cut out of it. Every loop moves on, so that less and less of the input is left. -/

namespace FileSieve

namespace Scanner

def upperByte (byte : UInt8) : UInt8 := if 0x61 ≤ byte && byte ≤ 0x7A then byte - 0x20 else byte

def ofLetters? : Bytes → Option Keyword
  | [0x4F, 0x52] => some .or
  | [0x49, 0x46] => some .ifWord
  | [0x41, 0x4E, 0x44] => some .and
  | [0x58, 0x4F, 0x52] => some .xor
  | [0x4E, 0x4F, 0x54] => some .not
  | [0x45, 0x4C, 0x53, 0x45] => some .elseWord
  | _ => none

/-- Lookup by the number of bytes, then by each of them. -/
def keyword? (text : List Char) : Ranged (Option Keyword) :=
  let bytes := Utf8.encode text
  let upper (i : Nat) : Ranged UInt8 := bytes[i]?.map upperByte
  match bytes.length with
  | 2 => do return ofLetters? [← upper 0, ← upper 1]
  | 3 => do return ofLetters? [← upper 0, ← upper 1, ← upper 2]
  | 4 => do return ofLetters? [← upper 0, ← upper 1, ← upper 2, ← upper 3]
  | _ => return none

def wordToken? (text : List Char) (quoted : Bool) : Ranged Token := do
  if quoted then return .pattern (String.ofList text)
  else match text with
    | ['\x7b'] => return .keyword .openBrace (String.ofList text)
    | ['\x7d'] => return .keyword .closeBrace (String.ofList text)
    | text =>
      match ← keyword? text with
      | some kind => return .keyword kind (String.ofList text)
      | none => return .pattern (String.ofList text)

section

variable (input : List Char)

def peek? (place : Nat) : Ranged (Option Char) := (Slice.from? input place).map List.head?

variable {input} in
theorem lt_size_of_peek? {place : Nat} {c : Char} (found : peek? input place = some (some c)) :
    place < Slice.size input := by
  obtain ⟨rest, cut, first⟩ := Option.map_eq_some_iff.mp found
  obtain ⟨behind, rfl⟩ := List.head?_eq_some_iff.mp first
  have size := Slice.size_of_from? cut
  have positive := c.utf8Size_pos
  rw [Slice.size_cons] at size
  omega

def skip? (passes : Char → Bool) (place : Nat) : Ranged Nat :=
  match _found : peek? input place with
  | none => none
  | some none => some place
  | some (some c) => if passes c then skip? passes (place + c.utf8Size) else some place
termination_by Slice.size input - place
decreasing_by
  have inside := lt_size_of_peek? _found
  have positive := c.utf8Size_pos
  omega

variable {input} in
theorem skip?_stops {passes : Char → Bool} {place stop : Nat} (skipped : skip? input passes place = some stop) :
    place ≤ stop ∧ ∀ c, peek? input stop = some (some c) → passes c = false := by
  fun_induction skip? input passes place with
  | case1 => contradiction
  | case2 place found =>
    cases skipped
    refine ⟨Nat.le_refl _, fun c other => ?_⟩
    rw [found] at other
    cases other
  | case3 place c _ _ ih =>
    obtain ⟨further, stops⟩ := ih skipped
    exact ⟨Nat.le_trans (Nat.le_add_right ..) further, stops⟩
  | case4 place c found refused =>
    cases skipped
    refine ⟨Nat.le_refl _, fun d other => ?_⟩
    rw [found] at other
    cases other
    exact Bool.eq_false_iff.mpr refused

variable {input} in
theorem lt_of_skip? {passes : Char → Bool} {place stop : Nat} {c : Char} (found : peek? input place = some (some c))
    (pass : passes c = true) (skipped : skip? input passes place = some stop) : place < stop := by
  rw [skip?, found] at skipped
  dsimp only at skipped
  rw [if_pos pass] at skipped
  exact Nat.lt_of_lt_of_le (Nat.lt_add_of_pos_right c.utf8Size_pos) (skip?_stops skipped).1

def quote? (text : List Char) (place : Nat) : Ranged (Option (List Char × Nat)) :=
  match _found : peek? input place with
  | none => none
  | some none => some none
  | some (some c) =>
    if c = '"' then some (some (text, place + c.utf8Size))
    else quote? (text ++ [c]) (place + c.utf8Size)
termination_by Slice.size input - place
decreasing_by
  have inside := lt_size_of_peek? _found
  have positive := c.utf8Size_pos
  omega

variable {input} in
theorem lt_of_quote? {text whole : List Char} {place next : Nat}
    (closed : quote? input text place = some (some (whole, next))) : place < next := by
  fun_induction quote? input text place with
  | case1 => contradiction
  | case2 => cases closed
  | case3 text place =>
    cases closed
    exact Nat.lt_add_of_pos_right (Char.utf8Size_pos _)
  | case4 text place c _ _ ih => exact Nat.lt_of_le_of_lt (Nat.le_add_right ..) (ih closed)

def payload? (text : List Char) (place : Nat) : Ranged (Option (List Char × Nat)) :=
  match _found : peek? input place with
  | none => none
  | some none => some none
  | some (some c) =>
    if c = '#' then
      match peek? input (place + c.utf8Size) with
      | none => none
      | some (some '#') => payload? (text ++ ['#']) (place + c.utf8Size + c.utf8Size)
      | some _ => some (some (text, place + c.utf8Size))
    else payload? (text ++ [c]) (place + c.utf8Size)
termination_by Slice.size input - place
decreasing_by
  all_goals
    have inside := lt_size_of_peek? _found
    have positive := c.utf8Size_pos
    omega

variable {input} in
theorem lt_of_payload? {text whole : List Char} {place next : Nat}
    (closed : payload? input text place = some (some (whole, next))) : place < next := by
  fun_induction payload? input text place with
  | case1 => contradiction
  | case2 => cases closed
  | case3 => contradiction
  | case4 text place _ _ ih =>
    have further := ih closed
    omega
  | case5 =>
    cases closed
    exact Nat.lt_add_of_pos_right (Char.utf8Size_pos _)
  | case6 text place c _ _ ih => exact Nat.lt_of_le_of_lt (Nat.le_add_right ..) (ih closed)

def word? (text : List Char) (quoted : Bool) (place : Nat) : Ranged (Except LexError (Token × Nat)) :=
  match _found : peek? input place with
  | none => none
  | some none => do return .ok (← wordToken? text quoted, place)
  | some (some c) => do
    if isBlank c then return .ok (← wordToken? text quoted, place)
    else if c = '"' then
      match _closed : quote? input text (place + c.utf8Size) with
      | none => none
      | some none => return .error (.unterminatedQuote place)
      | some (some (text, next)) => word? text true next
    else word? (text ++ [c]) quoted (place + c.utf8Size)
termination_by Slice.size input - place
decreasing_by
  · have inside := lt_size_of_peek? _found
    have further := lt_of_quote? _closed
    omega
  · have inside := lt_size_of_peek? _found
    have positive := c.utf8Size_pos
    omega

variable {input} in
theorem word?_advances {text : List Char} {quoted : Bool} {place next : Nat} {token : Token}
    (read : word? input text quoted place = some (.ok (token, next))) :
    place ≤ next ∧ ∀ c, peek? input place = some (some c) → isBlank c = false → place < next := by
  fun_induction word? input text quoted place with
  | case1 => contradiction
  | case2 text quoted place found =>
    obtain ⟨word, _, result⟩ := Option.bind_eq_some_iff.mp read
    cases result
    refine ⟨Nat.le_refl _, fun c other => ?_⟩
    rw [found] at other
    cases other
  | case3 text quoted place d found blank =>
    obtain ⟨word, _, result⟩ := Option.bind_eq_some_iff.mp read
    cases result
    refine ⟨Nat.le_refl _, fun c other solid => ?_⟩
    rw [found] at other
    cases other
    exact absurd blank (Bool.eq_false_iff.mp solid)
  | case4 => contradiction
  | case5 => cases read
  | case6 text quoted place _ _ _ _ closed ih =>
    have further := lt_of_quote? closed
    have behind := (ih read).1
    have advances : place < next := by omega
    exact ⟨Nat.le_of_lt advances, fun _ _ _ => advances⟩
  | case7 text quoted place d _ _ _ ih =>
    have advances : place < next := Nat.lt_of_lt_of_le (Nat.lt_add_of_pos_right d.utf8Size_pos) (ih read).1
    exact ⟨Nat.le_of_lt advances, fun _ _ _ => advances⟩

def modifier? (start : Nat) : Ranged (Except LexError (Token × Nat)) := do
  let stop ← skip? input (fun c => !isBlank c && c != '#') start
  let lexeme ← Slice.between? input start stop
  match ← peek? input stop with
  | some '#' =>
    match ← payload? input [] (stop + 1) with
    | none => return .error (.unterminatedPayload stop)
    | some (text, place) => return .ok (Lexer.modifierToken lexeme (some text), place)
  | _ => return .ok (Lexer.modifierToken lexeme none, stop)

def token? (c : Char) (place : Nat) : Ranged (Except LexError (Token × Nat)) :=
  if c = '-' then modifier? input place else word? input [] false place

variable {input} in
theorem lt_of_token? {c : Char} {place next : Nat} {token : Token} (found : peek? input place = some (some c))
    (solid : isBlank c = false) (read : token? input c place = some (.ok (token, next))) : place < next := by
  rw [token?] at read
  split at read
  · rename_i dash
    obtain ⟨stop, skipped, read⟩ := Option.bind_eq_some_iff.mp read
    obtain ⟨lexeme, _, read⟩ := Option.bind_eq_some_iff.mp read
    obtain ⟨behind, _, read⟩ := Option.bind_eq_some_iff.mp read
    have further : place < stop := lt_of_skip? found (by rw [dash]; rfl) skipped
    split at read
    · obtain ⟨payload, closed, read⟩ := Option.bind_eq_some_iff.mp read
      split at read
      · cases read
      · cases read
        have advances := lt_of_payload? closed
        omega
    · cases read
      exact further
  · exact (word?_advances read).2 c found solid

def tokens? (place : Nat) : Ranged (Except LexError (List Token)) :=
  match _skipped : skip? input isBlank place with
  | none => none
  | some start =>
    match _found : peek? input start with
    | none => none
    | some none => some (.ok [])
    | some (some c) =>
      match _read : token? input c start with
      | none => none
      | some (.error error) => some (.error error)
      | some (.ok (token, next)) => do return (← tokens? next).map (token :: ·)
termination_by Slice.size input - place
decreasing_by
  -- No blank stands behind the blanks, so that the token there is not empty.
  have stops := skip?_stops _skipped
  have inside := lt_size_of_peek? _found
  have further := lt_of_token? _found (stops.2 c _found) _read
  omega

end

end Scanner

def Scanner.tokenizeFragment? (input : String) : Ranged (Except LexError (List Token)) :=
  Scanner.tokens? input.toList 0

end FileSieve
