import FileSieve.Text.Basic
import FileSieve.Text.Utf16

namespace FileSieve

/-- A string is a sequence of UTF-16 units, for an escape may stand for half a character; a number keeps the
spelling it has. -/
inductive JsonValue where
  | null
  | boolean (value : Bool)
  | number (spelling : List Char)
  | string (units : List Nat)
  | array (items : List JsonValue)
  | object (members : List (List Nat × JsonValue))
  deriving Repr

namespace JsonValue

def text? : JsonValue → Option (List Char)
  | string units => Utf16.characters? units
  | _ => none

end JsonValue

inductive JsonMark where
  | openBrace
  | closeBrace
  | openBracket
  | closeBracket
  | comma
  | colon
  deriving DecidableEq, Repr

inductive JsonToken where
  | mark (mark : JsonMark)
  | scalar (value : JsonValue)
  deriving Repr

/-- Where in a token the reading stands; what was read of it is kept backwards. -/
inductive JsonMode where
  | between
  | word (reversed : List Char)
  | number (reversed : List Char)
  | string (reversed : List Nat)
  | escape (reversed : List Nat)
  | unit (reversed : List Nat) (digits : List Char)
  deriving DecidableEq, Repr

namespace JsonToken

def isSpace (c : Char) : Bool := c = ' ' || c = '\t' || c = '\n' || c = '\r'

def isNumberChar (c : Char) : Bool := c.isDigit || c = '-' || c = '+' || c = '.' || c = 'e' || c = 'E'

def mark? (c : Char) : Option JsonMark :=
  if c = '\x7b' then some .openBrace
  else if c = '\x7d' then some .closeBrace
  else if c = '[' then some .openBracket
  else if c = ']' then some .closeBracket
  else if c = ',' then some .comma
  else if c = ':' then some .colon
  else none

def word? (word : List Char) : Option JsonValue :=
  match String.ofList word with
  | "null" => some .null
  | "true" => some (.boolean true)
  | "false" => some (.boolean false)
  | _ => none

def isDigits (text : List Char) : Bool := text ≠ [] && text.all Char.isDigit

def isExponent : List Char → Bool
  | '+' :: digits => isDigits digits
  | '-' :: digits => isDigits digits
  | digits => isDigits digits

def isFractional : List Char → Bool
  | [] => true
  | '.' :: rest =>
    match rest.takeWhile Char.isDigit, rest.dropWhile Char.isDigit with
    | [], _ => false
    | _, [] => true
    | _, letter :: exponent => (letter = 'e' || letter = 'E') && isExponent exponent
  | letter :: exponent => (letter = 'e' || letter = 'E') && isExponent exponent

/-- A number has no zero in front of its other digits. -/
def isNumber (spelling : List Char) : Bool :=
  let unsigned := if spelling.head? = some '-' then spelling.drop 1 else spelling
  let whole := unsigned.takeWhile Char.isDigit
  whole ≠ [] && (whole = ['0'] || whole.head? ≠ some '0') &&
    isFractional (unsigned.dropWhile Char.isDigit)

def escapeUnit? (c : Char) : Option Nat :=
  match c with
  | '"' => some 0x22
  | '\\' => some 0x5C
  | '/' => some 0x2F
  | 'b' => some 0x08
  | 'f' => some 0x0C
  | 'n' => some 0x0A
  | 'r' => some 0x0D
  | 't' => some 0x09
  | _ => none

def finish : JsonMode → Option (List JsonToken)
  | .between => some []
  | .word reversed => (word? reversed.reverse).map fun value => [.scalar value]
  | .number reversed =>
    let spelling := reversed.reverse
    if isNumber spelling then some [.scalar (.number spelling)] else none
  | _ => none

def start (c : Char) : Option (List JsonToken × JsonMode) :=
  if isSpace c then some ([], .between)
  else if c = '"' then some ([], .string [])
  else if c.isDigit || c = '-' then some ([], .number [c])
  else if c.isAlpha then some ([], .word [c])
  else (mark? c).map fun found => ([.mark found], .between)

def restart (mode : JsonMode) (c : Char) : Option (List JsonToken × JsonMode) := do
  let ended ← finish mode
  let (started, next) ← start c
  return (ended ++ started, next)

def step (c : Char) : JsonMode → Option (List JsonToken × JsonMode)
  | .between => start c
  | .word reversed => if c.isAlpha then some ([], .word (c :: reversed)) else restart (.word reversed) c
  | .number reversed =>
    if isNumberChar c then some ([], .number (c :: reversed)) else restart (.number reversed) c
  | .string reversed =>
    if c = '"' then some ([.scalar (.string reversed.reverse)], .between)
    else if c = '\\' then some ([], .escape reversed)
    else if c.toNat < 0x20 then none
    else some ([], .string ((Utf16.units c).reverse ++ reversed))
  | .escape reversed =>
    if c = 'u' then some ([], .unit reversed [])
    else (escapeUnit? c).map fun unit => ([], .string (unit :: reversed))
  | .unit reversed digits =>
    if digits.length < 3 then some ([], .unit reversed (digits ++ [c]))
    else match Hex.decode? (digits ++ [c]) with
      | some [high, low] => some ([], .string ((0x100 * high.toNat + low.toNat) :: reversed))
      | _ => none

def scan (mode : JsonMode) : List Char → Option (List JsonToken)
  | [] => finish mode
  | c :: rest => do
    let (tokens, next) ← step c mode
    let following ← scan next rest
    return tokens ++ following

end JsonToken
end FileSieve
