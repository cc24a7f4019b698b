import SenderPolicy.Address.Reader
import SenderPolicy.Text.Blank

/-!
# Networks

A network is a block of addresses of one family that agree in their first bits. It is written as an address, a slash
and the number of those bits; an IPv4 network may have a netmask in place of the number, and a network without a slash
is a single address.
-/

namespace SenderPolicy

open Text

/-- The addresses of `w` bits that agree with `base` in their first `length` bits. -/
structure Block (w : Nat) where
  base : BitVec w
  length : Nat
  length_le : length ≤ w
  deriving DecidableEq, Repr

namespace Block

variable {w : Nat}

/-- Whether an address is in the block. -/
def contains (b : Block w) (a : BitVec w) : Bool :=
  a >>> (w - b.length) == b.base >>> (w - b.length)

/-- The block of the addresses that agree with `base` in `length` bits, if there are as many. -/
def ofLength? (base : BitVec w) (length : Nat) : Option (Block w) :=
  if h : length ≤ w then some ⟨base, length, h⟩ else none

end Block

/-- A block of addresses of one of the two families. -/
inductive Network where
  | v4 (block : Block 32)
  | v6 (block : Block 128)
  deriving DecidableEq, Repr

namespace Network

/-- Whether an address is in the network; one of the other family is not. -/
def contains : Network → Address → Bool
  | v4 b, .v4 a => b.contains a
  | v6 b, .v6 a => b.contains a
  | _, _ => false

/-- The number of ones at the front of a netmask, which has only zeros after them. -/
def maskLength? (mask : BitVec 32) : Option Nat :=
  (List.range 33).find? fun n => mask = BitVec.allOnes 32 <<< (32 - n)

/-- The number of bits that the text after a slash gives, if an octet can hold it. -/
def length? (s : List Char) : Option Nat :=
  (readUnsigned? s).filter (· < 0x100)

/-- The number of bits that the text after the slash of an IPv4 network gives. -/
def v4Length? (s : List Char) : Option Nat :=
  match Address.v4? s with
  | some mask => maskLength? mask
  | none => length? s

/-- The network of an address text and a length text. -/
def ofParts? (address length : List Char) : Option Network :=
  match Address.ofChars? address with
  | some (.v4 a) => (v4Length? length).bind fun n => (Block.ofLength? a n).map v4
  | some (.v6 a) => (length? length).bind fun n => (Block.ofLength? a n).map v6
  | none => none

/-- The network that characters with exactly one slash write. -/
def ofChars? (s : List Char) : Option Network :=
  match s.splitOn '/' with
  | [address, length] => ofParts? address length
  | _ => none

/-- The text with the length of a single address where it has none. -/
def withLength (s : List Char) : List Char :=
  if '/' ∈ s then s else if ':' ∈ s then s ++ "/128".toList else s ++ "/32".toList

/-- What a network text stands for, or the text that is no network. Blanks around it do not count. -/
def ofText (s : String) : Except String Network :=
  let t := withLength (trim s.toList)
  match ofChars? t with
  | some n => .ok n
  | none => .error (String.ofList t)

end Network

end SenderPolicy
