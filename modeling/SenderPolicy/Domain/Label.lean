import SenderPolicy.Domain.Mapping
import SenderPolicy.Domain.Punycode
import SenderPolicy.Text.Joining
import SenderPolicy.Text.Mark
import SenderPolicy.Text.Normalization

/-!
# Labels

The labels of a domain, each in its own characters and in ASCII. A label of ASCII characters only loses its case. The
characters of any other label are mapped and put into composed form, and its ASCII form is `xn--` and its Punycode. A
label that comes with `xn--` has to be the Punycode of a label that mapping leaves alone.
-/

namespace SenderPolicy.Domain

open Text

/-- A label of a domain. -/
structure Label where
  /-- Its characters. -/
  chars : List Char
  /-- Its ASCII form. -/
  ascii : List Char
  deriving DecidableEq, Repr

/-- Whether every character is ASCII. -/
def isAscii (s : List Char) : Bool :=
  s.all (·.toNat < 0x80)

/-- What the ASCII form of a label starts with if the label is not ASCII. -/
def acePrefix : List Char :=
  "xn--".toList

/-- The ASCII form of a label. -/
def asciiForm (s : List Char) : List Char :=
  if isAscii s then s else acePrefix ++ Punycode.encode s

/-- The joiner that keeps two letters from joining. -/
def nonJoiner : Char :=
  Char.ofNat 0x200C

/-- The joiner that makes two letters join. -/
def joiner : Char :=
  Char.ofNat 0x200D

namespace Label

/-- How the first character that is not transparent joins. -/
def joining (s : List Char) : Joining :=
  ((s.map Joining.of).find? (· ≠ .transparent)).getD .none

/-- Whether a joiner fits between the characters before it, the last one first, and those behind it: after a virama, or
between letters that would join. -/
def joinerFits (c : Char) (before behind : List Char) : Bool :=
  match before.head? with
  | none => false
  | some p =>
    combiningClass p = virama ||
      (c = nonJoiner && (joining before).joinsForward && (joining behind).joinsBackward)

/-- Whether every joiner in the rest of a label fits; `before` holds the characters so far, the last one first. -/
def joinersFit (before : List Char) : List Char → Bool
  | [] => true
  | c :: s => (if c = nonJoiner ∨ c = joiner then joinerFits c before s else true) && joinersFit (c :: before) s

/-- The greatest length of a label that is not ASCII. -/
def maxLength : Nat :=
  1000

/-- The greatest length of Punycode that is read. -/
def maxEncodedLength : Nat :=
  2000

/-- Whether a label does not start with a mark, has fitting joiners only, and is not too long. -/
def isValid (s : List Char) : Bool :=
  !s.head?.any isMark && joinersFit [] s && (isAscii s || s.length ≤ maxLength)

/-- The label of ASCII characters in lower case that start with `xn--`. -/
def ofEncoded? (s : List Char) : Option Label := do
  let code := s.drop acePrefix.length
  if s.getLast? = some '-' ∨ maxEncodedLength < code.length then none
  else
    let chars ← Punycode.decode? code
    if chars.all isFixed && normalize chars = chars && isValid chars then some ⟨chars, s⟩ else none

/-- The label of mapped characters. -/
def ofMapped? (s : List Char) : Option Label :=
  if acePrefix.isPrefixOf s then if isAscii s then ofEncoded? s else none
  else if isValid s then some ⟨s, asciiForm s⟩
  else none

/-- The label of ASCII characters. -/
def ofAscii? (s : List Char) : Option Label :=
  let l := s.map Char.toLower
  if acePrefix.isPrefixOf l then ofEncoded? l else some ⟨l, l⟩

/-- The labels of what stands between two dots, more than one if a full stop of another script is among it. -/
def ofChars? (s : List Char) : Option (List Label) :=
  if isAscii s then (ofAscii? s).map fun l => [l]
  else do
    let mapped ← s.mapM map?
    ((normalize mapped.flatten).splitOn '.').mapM ofMapped?

end Label

end SenderPolicy.Domain
