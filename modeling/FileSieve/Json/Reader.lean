import FileSieve.Json.Token

namespace FileSieve

/-- An array or object around what is being read; its parts are kept backwards. -/
inductive JsonFrame where
  | array (items : List JsonValue)
  | member (members : List (List Nat × JsonValue)) (name : List Nat)
  deriving Repr

inductive JsonState where
  | value (outer : List JsonFrame)
  | firstItem (outer : List JsonFrame)
  | firstKey (outer : List JsonFrame)
  | key (members : List (List Nat × JsonValue)) (outer : List JsonFrame)
  | colon (members : List (List Nat × JsonValue)) (name : List Nat) (outer : List JsonFrame)
  | behindItem (items : List JsonValue) (outer : List JsonFrame)
  | behindMember (members : List (List Nat × JsonValue)) (outer : List JsonFrame)
  | whole (value : JsonValue)
  deriving Repr

namespace JsonState

def place (found : JsonValue) : List JsonFrame → JsonState
  | [] => whole found
  | .array items :: outer => behindItem (found :: items) outer
  | .member members name :: outer => behindMember ((name, found) :: members) outer

def startValue (outer : List JsonFrame) : JsonToken → Option JsonState
  | .scalar found => some (place found outer)
  | .mark .openBracket => some (firstItem outer)
  | .mark .openBrace => some (firstKey outer)
  | .mark _ => none

def step (token : JsonToken) : JsonState → Option JsonState
  | value outer => startValue outer token
  | firstItem outer =>
    match token with
    | .mark .closeBracket => some (place (.array []) outer)
    | token => startValue (.array [] :: outer) token
  | firstKey outer =>
    match token with
    | .mark .closeBrace => some (place (.object []) outer)
    | .scalar (.string name) => some (colon [] name outer)
    | _ => none
  | key members outer =>
    match token with
    | .scalar (.string name) => some (colon members name outer)
    | _ => none
  | colon members name outer =>
    match token with
    | .mark .colon => some (value (.member members name :: outer))
    | _ => none
  | behindItem items outer =>
    match token with
    | .mark .comma => some (value (.array items :: outer))
    | .mark .closeBracket => some (place (.array items.reverse) outer)
    | _ => none
  | behindMember members outer =>
    match token with
    | .mark .comma => some (key members outer)
    | .mark .closeBrace => some (place (.object members.reverse) outer)
    | _ => none
  | whole _ => none

def run (state : JsonState) : List JsonToken → Option JsonState
  | [] => some state
  | token :: rest => (state.step token).bind fun next => run next rest

end JsonState

def JsonValue.read? (text : List Char) : Option JsonValue := do
  match ← (JsonState.value []).run (← JsonToken.scan .between text) with
  | .whole value => some value
  | _ => none

end FileSieve
