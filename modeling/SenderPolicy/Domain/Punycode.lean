import SenderPolicy.Text.Numeral

/-!
# Punycode

A label of any characters in letters, digits and hyphens: its ASCII characters come first, a hyphen closes them if
there are any, and numbers of base 36 tell which other characters stand where. How many digits a number takes adapts to
the numbers before it.

- `threshold_pos`: every digit but the last of a number is at least one.
-/

namespace SenderPolicy.Domain.Punycode

/-- The number of different digits. -/
def base : Nat :=
  36

/-- The bias of the first number. -/
def initialBias : Nat :=
  72

/-- The first code point that is written by a number. -/
def initialCode : Nat :=
  0x80

/-- The least value that lets a digit at position `k` be followed by another. -/
def threshold (k bias : Nat) : Nat :=
  max 1 (min 26 (k - bias))

/-- A number scaled down until the digits behind the first have little left to tell. -/
def scale (k delta : Nat) : Nat :=
  if delta ≤ 455 then k + base * delta / (delta + 38) else scale (k + base) (delta / 35)
  termination_by delta

/-- The bias after a number, when `length` characters are in place. -/
def adapt (delta length : Nat) (isFirst : Bool) : Nat :=
  let d := if isFirst then delta / 700 else delta / 2
  scale 0 (d + d / length)

/-- The digit of a value below the base. -/
def digitChar (d : Nat) : Char :=
  Char.ofNat (if d < 26 then 'a'.toNat + d else '0'.toNat + (d - 26))

/-- The value of a digit; letters of both cases count. -/
def digitValue? (c : Char) : Option Nat :=
  let l := c.toLower
  if 'a' ≤ l ∧ l ≤ 'z' then some (l.toNat - 'a'.toNat)
  else if c.isDigit then some (c.toNat - '0'.toNat + 26)
  else none

/-- Every digit but the last of a number is at least one. -/
theorem threshold_pos (k bias : Nat) : 0 < threshold k bias := by
  unfold threshold
  omega

/-! ## Writing -/

/-- The digits of a number, from position `k` on. -/
def digits (bias k q : Nat) : List Char :=
  let t := threshold k bias
  if q < t then [digitChar q]
  else digitChar (t + (q - t) % (base - t)) :: digits bias (k + base) ((q - t) / (base - t))
  termination_by q
  decreasing_by
    have ht := threshold_pos k bias
    have := Nat.div_le_self (q - threshold k bias) (base - threshold k bias)
    omega

/-- How far a label has been written. -/
structure Writer where
  bias : Nat
  /-- The number that comes next. -/
  delta : Nat
  /-- How many characters are in place. -/
  placed : Nat
  output : List Char

/-- One character of the label, while those of `code` are written. -/
def Writer.visit (basic code : Nat) (w : Writer) (c : Char) : Writer :=
  if c.toNat < code then { w with delta := w.delta + 1 }
  else if c.toNat = code then
    { bias := adapt w.delta (w.placed + 1) (w.placed = basic)
      delta := 0
      placed := w.placed + 1
      output := w.output ++ digits w.bias base w.delta }
  else w

/-- The numbers for the places of the characters of each code in `codes`, in ascending order, all at least `start`. -/
def writeCodes (label : List Char) (basic : Nat) : (start : Nat) → List Nat → Writer → List Char
  | _, [], w => w.output
  | start, code :: codes, w =>
    let w := { w with delta := w.delta + (code - start) * (w.placed + 1) }
    let w := label.foldl (Writer.visit basic code) w
    writeCodes label basic (code + 1) codes { w with delta := w.delta + 1 }

/-- The code points of a label above ASCII, each once, in ascending order. -/
def codes (label : List Char) : List Nat :=
  ((label.map Char.toNat).filter (initialCode ≤ ·)).mergeSort.eraseDups

/-- The written form of a label. -/
def encode (label : List Char) : List Char :=
  let basic := label.filter (·.toNat < initialCode)
  let hyphen := if basic = [] then [] else ['-']
  basic ++ hyphen ++ writeCodes label basic.length initialCode (codes label) ⟨initialBias, 0, basic.length, []⟩

/-! ## Reading -/

/-- How far a label has been read. -/
structure Reader where
  label : List Char
  code : Nat
  bias : Nat
  /-- The number at hand added to the place it counts from. -/
  place : Nat
  /-- The place that the number at hand counts from. -/
  start : Nat
  /-- What the next digit counts. -/
  weight : Nat
  /-- The position of the next digit. -/
  position : Nat

/-- Numbers stay below this bound. -/
def bound : Nat :=
  UInt32.size

/-- The character of a code point. -/
def char? (n : Nat) : Option Char :=
  if h : n.isValidChar then some (Char.ofNatAux n h) else none

/-- A number has ended: its character takes its place. -/
def Reader.insert? (r : Reader) : Option Reader := do
  let length := r.label.length + 1
  let code := r.code + r.place / length
  let place := r.place % length
  let c ← char? code
  return {
    label := r.label.take place ++ c :: r.label.drop place
    code := code
    bias := adapt (r.place - r.start) length (r.start = 0)
    place := place + 1
    start := place + 1
    weight := 1
    position := base }

/-- One more digit. -/
def Reader.step? (r : Reader) (c : Char) : Option Reader := do
  let d ← digitValue? c
  let place := r.place + d * r.weight
  let t := threshold r.position r.bias
  if bound ≤ place then none
  else if d < t then Reader.insert? { r with place := place }
  else
    let weight := r.weight * (base - t)
    if bound ≤ weight then none
    else some { r with place := place, weight := weight, position := r.position + base }

/-- The label that ASCII characters and digits write; it may not end inside a number. -/
def read? (basic digits : List Char) : Option (List Char) := do
  let r ← digits.foldlM Reader.step? ⟨basic, initialCode, initialBias, 0, 0, 1, base⟩
  if r.position = base then some r.label else none

/-- The label of a written form: the last hyphen, unless nothing comes before it, closes the ASCII characters. -/
def decode? (s : List Char) : Option (List Char) :=
  let digits := (s.reverse.takeWhile (· ≠ '-')).reverse
  let basic := s.take (s.length - digits.length - 1)
  if basic = [] then read? [] s else read? (basic.map Char.toLower) digits

end SenderPolicy.Domain.Punycode
