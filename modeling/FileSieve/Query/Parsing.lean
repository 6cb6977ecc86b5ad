import FileSieve.Query.Parser

/-! The parser step by step. All tokens are kept, with a cursor at the next one; the tokens of a loadline are put
in at the cursor, and the names that the source has been asked for are noted. -/

namespace FileSieve

structure Parsing where
  tokens : List Token
  cursor : Nat
  asked : List String
  opened : Opened
  options : ScanOptions
  result : Option (Except ParseError (Criterion × ScanOptions))
  deriving Repr

namespace Parsing

def start (options : ScanOptions) (tokens : List Token) : Parsing :=
  { tokens, cursor := 0, asked := [], opened := .whole Chain.empty [], options, result := none }

/-- Behind the last token stands an end mark, whether it is written or not. -/
def peek (parsing : Parsing) : Token := parsing.tokens[parsing.cursor]?.getD .finish

def advance (parsing : Parsing) : Parsing :=
  if parsing.peek = .finish then parsing else { parsing with cursor := parsing.cursor + 1 }

def conclude (parsing : Parsing) (result : Except ParseError (Criterion × ScanOptions)) : Parsing :=
  { parsing with result := some result }

def splice (parsing : Parsing) (line : List Token) : Parsing :=
  { parsing with
    tokens := parsing.tokens.take parsing.cursor ++ (line ++ parsing.tokens.drop parsing.cursor) }

def note (parsing : Parsing) (name : String) : Parsing := { parsing with asked := parsing.asked ++ [name] }

section

variable (source : LoadlineSource) (now : Instant)

def ask (parsing : Parsing) (name : String) : Parsing :=
  if maxSplices ≤ parsing.asked.length then parsing.conclude (.error .loadlineDepth)
  else match Parser.loadlineTokens source name with
    | .error error => (parsing.note name).conclude (.error error)
    | .ok line => (parsing.note name).splice line

def request (parsing : Parsing) (lexeme : String) : Option String → Parsing
  | some name =>
    if name.isEmpty then parsing.conclude (.error (.missingArgument lexeme))
    else parsing.ask source name
  | none =>
    match parsing.peek with
    | .pattern name =>
      if name.isEmpty then parsing.advance.conclude (.error (.missingArgument lexeme))
      else parsing.advance.ask source name
    | _ => parsing.conclude (.error (.missingArgument lexeme))

def step (parsing : Parsing) : Parsing :=
  match parsing.result with
  | some _ => parsing
  | none =>
    match parsing.peek with
    | .finish => parsing.conclude (parsing.opened.finish.map (·, parsing.options))
    | .keyword kind spelling =>
      match parsing.opened.keyword spelling kind with
      | .error error => parsing.advance.conclude (.error error)
      | .ok opened => { parsing.advance with opened }
    | .pattern text =>
      let pattern := PathPattern.ofText text parsing.options.base
      { parsing.advance with opened := parsing.opened.add [.leaf (.wildcard pattern)] }
    | .modifier lexeme payload =>
      match Modifier.interpret lexeme payload now parsing.options with
      | .error error => parsing.advance.conclude (.error error)
      | .ok (.criteria items) => { parsing.advance with opened := parsing.opened.add items }
      | .ok (.options options) => { parsing.advance with options }
      | .ok (.loadline name) => parsing.advance.request source lexeme name

def run (parsing : Parsing) : Nat → Parsing
  | 0 => parsing
  | steps + 1 => run (parsing.step source now) steps

end

end Parsing

end FileSieve
