import SenderPolicy.Json.Basic

/-!
# Writing JSON

Tokens are written one after the other. The compact layout puts nothing between them. The indented layout starts a line
for every item and member, two blanks further in than the line of the collection, and for the end of a collection that
is not empty; a blank follows every colon.
-/

namespace SenderPolicy.Json

/-- A character as it stands in a string. -/
def escape (c : Char) : List Char :=
  if c = '"' then ['\\', '"']
  else if c = '\\' then ['\\', '\\']
  else if c = '\x08' then ['\\', 'b']
  else if c = '\x0c' then ['\\', 'f']
  else if c = '\n' then ['\\', 'n']
  else if c = '\r' then ['\\', 'r']
  else if c = '\t' then ['\\', 't']
  else if c.toNat < 0x10 then ['\\', 'u', '0', '0', '0', c.toNat.digitChar]
  else if c.toNat < 0x20 then ['\\', 'u', '0', '0', '1', (c.toNat - 0x10).digitChar]
  else [c]

/-- A string in quotes. -/
def quote (s : List Char) : List Char :=
  '"' :: s.flatMap escape ++ ['"']

namespace Token

/-- The characters of a token. -/
def toChars : Token → List Char
  | openArray => ['[']
  | closeArray => [']']
  | openObject => ['\x7b']
  | closeObject => ['\x7d']
  | colon => [':']
  | comma => [',']
  | null => "null".toList
  | bool b => if b then "true".toList else "false".toList
  | number spelling => spelling
  | string text => quote (text.getD "").toList

/-- Whether a token starts a collection. -/
def opens (t : Token) : Bool :=
  t = openArray || t = openObject

/-- Whether a token ends a collection. -/
def closes (t : Token) : Bool :=
  t = closeArray || t = closeObject

end Token

/-- The start of a line, `depth` collections deep. -/
def newline (depth : Nat) : List Char :=
  '\n' :: List.replicate (2 * depth) ' '

/-- What stands between two tokens in the indented layout, where `depth` collections are open. -/
def spacing (depth : Nat) (t u : Token) : List Char :=
  if t.opens then if u.closes then [] else newline depth
  else if u.closes then newline (depth - 1)
  else if t = .comma then newline depth
  else if t = .colon then [' ']
  else []

/-- How many collections are open behind a token, where `depth` are open in front of it. -/
def depthAfter (depth : Nat) (t : Token) : Nat :=
  if t.opens then depth + 1 else if t.closes then depth - 1 else depth

/-- Tokens in the indented layout, where `depth` collections are open in front of them. -/
def indented (depth : Nat) : List Token → List Char
  | [] => []
  | [t] => t.toChars
  | t :: u :: ts =>
    let behind := depthAfter depth t
    t.toChars ++ spacing behind t u ++ indented behind (u :: ts)

/-- The value in the compact layout. -/
def compact (v : Json) : String :=
  String.ofList (v.tokens.flatMap Token.toChars)

/-- The value in the indented layout. -/
def pretty (v : Json) : String :=
  String.ofList (indented 0 v.tokens)

end SenderPolicy.Json
