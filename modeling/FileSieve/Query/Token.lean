namespace FileSieve

inductive Keyword where
  | openBrace
  | closeBrace
  | and
  | or
  | xor
  | not
  | ifWord
  | elseWord
  deriving DecidableEq, Repr

/-- A structural word keeps its spelling, because letter case is free and messages quote it. -/
inductive Token where
  | keyword (kind : Keyword) (spelling : String)
  | pattern (text : String)
  | modifier (lexeme : String) (payload : Option String)
  | finish
  deriving DecidableEq, Repr

namespace Keyword

def ofText? (text : List Char) : Option Keyword :=
  match text.map Char.toUpper with
  | ['{'] => some openBrace
  | ['}'] => some closeBrace
  | ['A', 'N', 'D'] => some and
  | ['O', 'R'] => some or
  | ['X', 'O', 'R'] => some xor
  | ['N', 'O', 'T'] => some not
  | ['I', 'F'] => some ifWord
  | ['E', 'L', 'S', 'E'] => some elseWord
  | _ => none

def startsAtom : Keyword → Bool
  | openBrace | not | ifWord => true
  | _ => false

end Keyword

namespace Token

/-- Quoted text is a pattern even if it spells a structural word. -/
def ofWord (text : List Char) (quoted : Bool) : Token :=
  match if quoted then none else Keyword.ofText? text with
  | some kind => keyword kind (String.ofList text)
  | none => pattern (String.ofList text)

def lexeme : Token → String
  | keyword _ spelling => spelling
  | pattern text => text
  | modifier lexeme _ => lexeme
  | finish => ""

def startsAtom : Token → Bool
  | keyword kind _ => kind.startsAtom
  | pattern _ | modifier _ _ => true
  | finish => false

end Token
end FileSieve
