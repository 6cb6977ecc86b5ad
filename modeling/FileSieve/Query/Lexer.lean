import FileSieve.Text.Basic
import FileSieve.Query.Token

/-! The lexer. Blanks separate words; a word that starts with `-` is a modifier and may carry a
payload between hashes, where two hashes stand for one. Double quotes group text into a pattern.
The lexer reads one character at a time and knows only what it is inside of. -/

namespace FileSieve

inductive LexError where
  | unterminatedQuote (offset : Nat)
  | unterminatedPayload (offset : Nat)
  deriving DecidableEq, Repr

namespace Lexer

/-- What the next character is read inside of. Quotes and payloads remember the input from their
opening delimiter on, so that one left open can be reported where it starts. -/
inductive Mode where
  | between
  | word (text : List Char) (quoted : Bool)
  | quote (text opening : List Char)
  | modifier (lexeme : List Char)
  | payload (lexeme text opening : List Char)
  | hash (lexeme text opening : List Char)
  deriving DecidableEq, Repr

inductive Unclosed where
  | quote (opening : List Char)
  | payload (opening : List Char)
  deriving DecidableEq, Repr

def modifierToken (lexeme : List Char) (payload : Option (List Char)) : Token :=
  .modifier (String.ofList lexeme) (payload.map String.ofList)

def start (c : Char) (rest : List Char) : Mode :=
  if isBlank c then .between
  else if c = '-' then .modifier ['-']
  else if c = '"' then .quote [] (c :: rest)
  else .word [c] false

/-- A hash inside a payload closes it unless another hash follows at once. -/
def step (c : Char) (rest : List Char) : Mode → Mode × Option Token
  | .between => (start c rest, none)
  | .word text quoted =>
    if isBlank c then (.between, some (.ofWord text quoted))
    else if c = '"' then (.quote text (c :: rest), none)
    else (.word (text ++ [c]) quoted, none)
  | .quote text opening =>
    if c = '"' then (.word text true, none) else (.quote (text ++ [c]) opening, none)
  | .modifier lexeme =>
    if isBlank c then (.between, some (modifierToken lexeme none))
    else if c = '#' then (.payload lexeme [] (c :: rest), none)
    else (.modifier (lexeme ++ [c]), none)
  | .payload lexeme text opening =>
    if c = '#' then (.hash lexeme text opening, none)
    else (.payload lexeme (text ++ [c]) opening, none)
  | .hash lexeme text opening =>
    if c = '#' then (.payload lexeme (text ++ ['#']) opening, none)
    else (start c rest, some (modifierToken lexeme (some text)))

def finish : Mode → Except Unclosed (List Token)
  | .between => .ok []
  | .word text quoted => .ok [.ofWord text quoted]
  | .quote _ opening => .error (.quote opening)
  | .modifier lexeme => .ok [modifierToken lexeme none]
  | .payload _ _ opening => .error (.payload opening)
  | .hash lexeme text _ => .ok [modifierToken lexeme (some text)]

def read (mode : Mode) : List Char → Except Unclosed (List Token)
  | [] => finish mode
  | c :: rest =>
    match step c rest mode with
    | (next, none) => read next rest
    | (next, some token) => (read next rest).map (token :: ·)

def byteLength : List Char → Nat
  | [] => 0
  | c :: rest => c.utf8Size + byteLength rest

/-- Offsets count the UTF-8 bytes in front of the delimiter. -/
def Unclosed.report (input : List Char) : Unclosed → LexError
  | .quote opening => .unterminatedQuote (byteLength input - byteLength opening)
  | .payload opening => .unterminatedPayload (byteLength input - byteLength opening)

end Lexer

def tokenizeFragment (input : String) : Except LexError (List Token) :=
  (Lexer.read .between input.toList).mapError (Lexer.Unclosed.report input.toList)

def tokenize (input : String) : Except LexError (List Token) :=
  (tokenizeFragment input).map (· ++ [.finish])

end FileSieve
