/-!
# JSON values

JSON values and the tokens that write them. Members of an object keep their order, and a name may come twice; numbers
keep their spelling. The escapes in a string may name halves of a character that do not pair up: such a string is
well-formed but has no text.
-/

namespace SenderPolicy

/-- A JSON value. -/
inductive Json where
  | null
  | bool (b : Bool)
  | number (spelling : List Char)
  | string (text : Option String)
  | array (items : List Json)
  | object (members : List (Option String × Json))

namespace Json

/-- A token of JSON text. -/
inductive Token where
  | openArray
  | closeArray
  | openObject
  | closeObject
  | colon
  | comma
  | null
  | bool (b : Bool)
  | number (spelling : List Char)
  | string (text : Option String)
  deriving DecidableEq, Repr

mutual

/-- The tokens of a value. -/
def tokens : Json → List Token
  | null => [.null]
  | bool b => [.bool b]
  | number s => [.number s]
  | string s => [.string s]
  | array items => .openArray :: itemTokens items
  | object members => .openObject :: memberTokens members

/-- The tokens of the items of an array, up to its end. -/
def itemTokens : List Json → List Token
  | [] => [.closeArray]
  | [v] => v.tokens ++ [.closeArray]
  | v :: vs => v.tokens ++ .comma :: itemTokens vs

/-- The tokens of the members of an object, up to its end. -/
def memberTokens : List (Option String × Json) → List Token
  | [] => [.closeObject]
  | [(k, v)] => .string k :: .colon :: v.tokens ++ [.closeObject]
  | (k, v) :: ms => .string k :: .colon :: v.tokens ++ .comma :: memberTokens ms

end

end Json

end SenderPolicy
