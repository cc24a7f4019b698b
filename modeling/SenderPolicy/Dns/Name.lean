import SenderPolicy.Address.Basic
import SenderPolicy.Domain.Host
import SenderPolicy.Text.Blank
import SenderPolicy.Text.Numeric

/-!
# Names of the domain name system

The labels of a name as it is sent to a name server. In the text of a name a backslash takes a special meaning from the
character behind it, or stands with three octal digits for the character of that number. A label names a host, unless
it is a star or starts with an underscore.
-/

namespace SenderPolicy.Dns

/-- Why a text is no name. -/
inductive NameFault where
  | labelTooLong (length : Nat)
  | malformedLabel (label : List Char)
  /-- A label that is no name of a host. -/
  | flawedLabel (flaws : List Domain.Host.Flaw)
  /-- A blank, a control character, or no digit where one has to be. -/
  | unrecognized (c : Char)
  /-- No octal digit, or no character of the number that three of them make. -/
  | illegal (c : Char)
  | nameTooLong (length : Nat)
  deriving DecidableEq, Repr

/-- The wording of a fault. -/
def NameFault.message : NameFault → String
  | labelTooLong n => "label bytes exceed 63: " ++ n.repr
  | malformedLabel label => "Malformed label: " ++ String.ofList label
  | flawedLabel flaws =>
    "Label contains invalid characters: Err(Errors \x7b " ++ ", ".intercalate (flaws.map Domain.Host.Flaw.name) ++
      " \x7d)"
  | unrecognized c => "unrecognized char: " ++ c.toString
  | illegal c => "illegal char: " ++ c.toString
  | nameTooLong n => "name label data exceed 255: " ++ n.repr

/-- A name: its labels, the last one under the root. -/
structure Name where
  labels : List (List Char)
  deriving DecidableEq, Repr

namespace Name

/-! ## Labels -/

/-- Whether a character may stand in a plain label, behind its first character. -/
def isPlain (c : Char) : Bool :=
  c.isAlphanum || c = '-' || c = '_' || c = '.'

/-- Whether a label is plain: letters, digits, underscores, dots that a backslash lets in, hyphens but not in front, or
a star in front. -/
def isPlainLabel : List Char → Bool
  | [] => false
  | c :: s => ((isPlain c && c ≠ '-') || c = '*') && s.all isPlain

/-- A plain label of at most 63 bytes. -/
def plainLabel (s : List Char) : Except NameFault (List Char) :=
  let size := (String.ofList s).utf8ByteSize
  if 63 < size then .error (.labelTooLong size)
  else if isPlainLabel s then .ok s
  else .error (.malformedLabel s)

/-- The label of a text: that of a star, or of an underscore in front, is plain, and any other names a host. -/
def label (s : List Char) : Except NameFault (List Char) :=
  if s = ['*'] ∨ s.head? = some '_' then plainLabel s
  else
    match Domain.Host.toAscii s with
    | .ok t => plainLabel t
    | .error flaws => .error (.flawedLabel flaws)

/-! ## Names -/

/-- What a backslash has been followed by. -/
inductive Escape where
  /-- There is no backslash to deal with. -/
  | none
  | start
  /-- One octal digit. -/
  | one (d : Nat)
  /-- Two octal digits and the number they make. -/
  | two (n : Nat)
  deriving DecidableEq, Repr

/-- The octal digit that a character is. -/
def octal (c : Char) : Except NameFault Nat :=
  match Text.digit? 8 c with
  | some d => .ok d
  | none => .error (.illegal c)

/-- Whether a character is a control character. -/
def isControl (c : Char) : Bool :=
  c.toNat < 0x20 || (0x7F ≤ c.toNat && c.toNat < 0xA0)

/-- The bytes that labels take: one for each of them besides its characters. -/
def size (labels : List (List Char)) : Nat :=
  labels.flatten.length + labels.length

/-- How far a name has been read. -/
structure Reader where
  labels : List (List Char) := []
  /-- The characters of the label at hand. -/
  current : List Char := []
  escape : Escape := .none

namespace Reader

/-- The label at hand ends. The labels may not take more than 255 bytes. -/
def endLabel (r : Reader) : Except NameFault Reader := do
  let labels := r.labels ++ [← label r.current]
  if 255 < size labels then .error (.nameTooLong (size labels)) else .ok { labels := labels }

/-- A character of the label at hand. -/
def push (r : Reader) (c : Char) : Reader :=
  { r with current := r.current ++ [c], escape := .none }

/-- One more character. -/
def step (r : Reader) (c : Char) : Except NameFault Reader :=
  match r.escape with
  | .none =>
    if c = '.' then r.endLabel
    else if c = '\\' then .ok { r with escape := .start }
    else if isControl c || Text.isBlank c then .error (.unrecognized c)
    else .ok (r.push c)
  | .start =>
    if Text.isNumeric c then do return { r with escape := .one (← octal c) } else .ok (r.push c)
  | .one d =>
    if Text.isNumeric c then do return { r with escape := .two (8 * d + (← octal c)) }
    else .error (.unrecognized c)
  | .two n =>
    if Text.isNumeric c then do return r.push (Char.ofNat (8 * n + (← octal c))) else .error (.unrecognized c)

/-- The text ends. -/
def finish (r : Reader) : Except NameFault Reader :=
  if r.current = [] then .ok r else r.endLabel

end Reader

/-- The name of a text. A single dot is the root. With the byte of the root a name may take 255 bytes. -/
def ofChars (s : List Char) : Except NameFault Name := do
  if s = ['.'] then return ⟨[]⟩
  let r ← (← s.foldlM Reader.step {}).finish
  let total := size r.labels + 1
  if 255 < total then .error (.nameTooLong total) else .ok ⟨r.labels⟩

/-- The text with a dot at its end. -/
def absolute (s : List Char) : List Char :=
  if s.getLast? = some '.' then s else s ++ ['.']

/-- The text without the dot at its end. -/
def relative (s : String) : String :=
  match s.toList.reverse with
  | '.' :: t => String.ofList t.reverse
  | _ => s

/-- The name in lower case without the dot at its end. -/
def text (n : Name) : String :=
  String.ofList (['.'].intercalate (n.labels.map fun l => l.map Char.toLower))

/-- The name under which the names of an address are found: its octets or hexadecimal digits, the last one first. -/
def ofAddress : Address → Name
  | .v4 a => ⟨(Address.octets a).reverse.map (Nat.toDigits 10) ++ ["in-addr".toList, "arpa".toList]⟩
  | .v6 a => ⟨(Address.parts 16 32 a.toNat).reverse.map (Nat.toDigits 16) ++ ["ip6".toList, "arpa".toList]⟩

end Name

end SenderPolicy.Dns
