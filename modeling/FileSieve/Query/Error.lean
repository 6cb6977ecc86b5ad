import FileSieve.Query.Lexer

namespace FileSieve

inductive ParseError where
  | lex (error : LexError)
  | noQualifiers
  | unbalancedBrackets
  | trailingTokens (lexeme : String)
  | invalidModifier (lexeme : String)
  | missingArgument (lexeme : String)
  | invalidTypeLetter (letter : Char)
  | invalidSize (text : String)
  | invalidDate (text : String)
  | invalidNumber (modifier value : String)
  | invalidRegex (text : String)
  | invalidHash (text : String)
  | invalidHex (text : String)
  | invalidOption (modifier value : String)
  | loadline (name message : String)
  | loadlineDepth
  | tooDeep
  deriving DecidableEq, Repr

def maxSplices : Nat := 64

/-- Bound on the depth of a tree; every negation, condition, brace and operator adds a level. -/
def maxDepth : Nat := 256

def LexError.message : LexError → String
  | unterminatedQuote offset => "unterminated quote starting at offset " ++ toString offset
  | unterminatedPayload offset =>
    "unterminated #...# option payload starting at offset " ++ toString offset

/-- What is said of a refused command line; `refusal` is what the library of regular expressions says of a text. -/
def ParseError.message (refusal : String → String) : ParseError → String
  | lex error => error.message
  | noQualifiers => "no qualifiers: the expression selects nothing to search for"
  | unbalancedBrackets => "unbalanced brackets"
  | trailingTokens lexeme => "unexpected trailing input starting at '" ++ lexeme ++ "'"
  | invalidModifier lexeme => "invalid modifier '" ++ lexeme ++ "'"
  | missingArgument lexeme => "modifier '" ++ lexeme ++ "' requires an argument"
  | invalidTypeLetter letter => "invalid type letter '" ++ String.ofList [letter] ++ "'"
  | invalidSize text => "invalid size literal '" ++ text ++ "'"
  | invalidDate text => "invalid date literal '" ++ text ++ "'"
  | invalidNumber modifier value => "invalid number '" ++ value ++ "' for " ++ modifier
  | invalidRegex text => "invalid regular expression: " ++ refusal text
  | invalidHash text => "invalid hash '" ++ text ++ "'"
  | invalidHex text => "invalid hex string '" ++ text ++ "'"
  | invalidOption modifier value => "invalid value '" ++ value ++ "' for " ++ modifier
  | loadline name message => "loadline '" ++ name ++ "' failed: " ++ message
  | loadlineDepth => "loadline expansion exceeded " ++ toString maxSplices ++ " splices"
  | tooDeep => "expression nested deeper than " ++ toString maxDepth ++ " levels"

def ParseError.cause? (refusal : String → String) : ParseError → Option String
  | invalidRegex text => some (refusal text)
  | _ => none

end FileSieve
