import SenderPolicy.Json.Basic
import SenderPolicy.Text.Numeral

/-!
# Tokens of JSON text

The text is read once from left to right. A number ends at the first character that cannot continue it.

- `lexFrom_blank`: blanks between tokens do not count.
-/

namespace SenderPolicy.Json

open Text

/-! ## Strings -/

/-- What stands between the quotes of a string. -/
inductive Piece where
  | char (c : Char)
  /-- Sixteen bits given by an escape. -/
  | unit (bits : Nat)
  deriving DecidableEq, Repr

/-- Whether sixteen bits are the first half of a character. -/
def isHigh (n : Nat) : Bool :=
  0xD800 ≤ n && n ≤ 0xDBFF

/-- Whether sixteen bits are the second half of a character. -/
def isLow (n : Nat) : Bool :=
  0xDC00 ≤ n && n ≤ 0xDFFF

/-- The characters of the pieces of a string, if the halves among them pair up. -/
def pair : List Piece → Option (List Char)
  | [] => some []
  | .char c :: ps => (pair ps).map (c :: ·)
  | .unit n :: .unit m :: ps =>
    if isHigh n && isLow m then
      (pair ps).map (Char.ofNat (0x10000 + 0x400 * (n - 0xD800) + (m - 0xDC00)) :: ·)
    else if isHigh n || isLow n then none
    else (pair (.unit m :: ps)).map (Char.ofNat n :: ·)
  | .unit n :: ps => if isHigh n || isLow n then none else (pair ps).map (Char.ofNat n :: ·)

/-- The character that a backslash and a letter stand for. -/
def unescape? (c : Char) : Option Char :=
  [('"', '"'), ('\\', '\\'), ('/', '/'), ('b', '\x08'), ('f', '\x0c'), ('n', '\n'), ('r', '\r'), ('t', '\t')].lookup c

/-! ## Numbers -/

/-- Where a number is cut off. -/
inductive Phase where
  /-- After the minus sign. -/
  | minus
  /-- After a zero in front. -/
  | zero
  /-- In the digits of the whole part. -/
  | whole
  /-- After the point. -/
  | point
  /-- In the digits after the point. -/
  | fraction
  /-- After the letter of the exponent. -/
  | exponent
  /-- After the sign of the exponent. -/
  | sign
  /-- In the digits of the exponent. -/
  | power
  deriving DecidableEq, Repr

namespace Phase

/-- Whether a number may end here. -/
def isComplete (p : Phase) : Bool :=
  p = zero || p = whole || p = fraction || p = power

/-- Where one more character leads, if it continues the number. -/
def next? (c : Char) : Phase → Option Phase
  | minus => if c = '0' then zero else if c.isDigit then whole else none
  | zero => if c = '.' then point else if c = 'e' ∨ c = 'E' then exponent else none
  | whole => if c.isDigit then whole else if c = '.' then point else if c = 'e' ∨ c = 'E' then exponent else none
  | point => if c.isDigit then fraction else none
  | fraction => if c.isDigit then fraction else if c = 'e' ∨ c = 'E' then exponent else none
  | exponent => if c.isDigit then power else if c = '+' ∨ c = '-' then sign else none
  | sign | power => if c.isDigit then power else none

end Phase

/-! ## The reader -/

/-- The token at hand. Characters and pieces are held the last one first. -/
inductive Lexeme where
  /-- Between two tokens. -/
  | none
  /-- In a word of letters. -/
  | word (letters : List Char)
  | number (phase : Phase) (chars : List Char)
  | string (pieces : List Piece)
  /-- After a backslash. -/
  | escape (pieces : List Piece)
  /-- In an escape of four hexadecimal digits, `missing` and one of which are to come. -/
  | unit (pieces : List Piece) (missing bits : Nat)
  deriving DecidableEq, Repr

/-- Whether a character is a blank of JSON. -/
def isBlank (c : Char) : Bool :=
  c = ' ' || c = '\n' || c = '\t' || c = '\r'

/-- The token of one character. -/
def punctuation? (c : Char) : Option Token :=
  [('[', .openArray), (']', .closeArray), ('\x7b', .openObject), ('\x7d', .closeObject), (':', .colon),
    (',', .comma)].lookup c

/-- The token of a word. -/
def word? (s : List Char) : Option Token :=
  [("null".toList, .null), ("true".toList, .bool true), ("false".toList, .bool false)].lookup s

/-- The first character of a token, or a blank: the tokens that end with it, and the token at hand. -/
def start? (c : Char) : Option (List Token × Lexeme) :=
  if isBlank c then some ([], .none)
  else if c = '"' then some ([], .string [])
  else if c.isLower then some ([], .word [c])
  else if c = '-' then some ([], .number .minus [c])
  else if c = '0' then some ([], .number .zero [c])
  else if c.isDigit then some ([], .number .whole [c])
  else (punctuation? c).map fun t => ([t], .none)

/-- The token at hand, ended where the next character does not belong to it. -/
def Lexeme.finish? : Lexeme → Option (List Token)
  | none => some []
  | word letters => (word? letters.reverse).map fun t => [t]
  | number phase chars => if phase.isComplete then some [.number chars.reverse] else Option.none
  | _ => Option.none

/-- One more character: the tokens that end with it or before it, and the token at hand. -/
def Lexeme.step? (c : Char) : Lexeme → Option (List Token × Lexeme)
  | none => start? c
  | word letters =>
    if c.isLower then some ([], word (c :: letters))
    else do
      let ts ← (word letters).finish?
      let (us, l) ← start? c
      return (ts ++ us, l)
  | number phase chars =>
    match phase.next? c with
    | some p => some ([], number p (c :: chars))
    | Option.none => do
      let ts ← (number phase chars).finish?
      let (us, l) ← start? c
      return (ts ++ us, l)
  | string pieces =>
    if c = '"' then some ([.string ((pair pieces.reverse).map String.ofList)], none)
    else if c = '\\' then some ([], escape pieces)
    else if c.toNat < 0x20 then Option.none
    else some ([], string (.char c :: pieces))
  | escape pieces =>
    if c = 'u' then some ([], unit pieces 3 0)
    else (unescape? c).map fun e => ([], string (.char e :: pieces))
  | unit pieces missing bits => do
    let d ← digit? 16 c
    match missing with
    | 0 => return ([], string (.unit (0x10 * bits + d) :: pieces))
    | n + 1 => return ([], unit pieces n (0x10 * bits + d))

/-- The tokens of the text that follows the token at hand. -/
def lexFrom (l : Lexeme) : List Char → Option (List Token)
  | [] => l.finish?
  | c :: s => do
    let (ts, l') ← l.step? c
    let us ← lexFrom l' s
    return ts ++ us

/-- The tokens of a text. -/
def lex (s : List Char) : Option (List Token) :=
  lexFrom .none s

/-- Blanks between tokens do not count. -/
theorem lexFrom_blank {c : Char} (h : isBlank c = true) (s : List Char) :
    lexFrom .none (c :: s) = lexFrom .none s := by
  simp [lexFrom, Lexeme.step?, start?, h]

end SenderPolicy.Json
