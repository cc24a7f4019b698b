import SenderPolicy.Address.Printer
import SenderPolicy.Address.Reader

/-!
# Endpoints

An address and a port, written with a colon between them. An IPv6 address stands in brackets and may carry the number
of its scope after a percent sign.
-/

namespace SenderPolicy

open Text

/-- Where a server listens. -/
inductive Endpoint where
  | v4 (address : BitVec 32) (port : UInt16)
  | v6 (address : BitVec 128) (scope : UInt32) (port : UInt16)
  deriving DecidableEq, Repr

namespace Endpoint

/-- The characters of an endpoint; scope zero is left out. -/
def toChars : Endpoint → List Char
  | v4 a port => Address.v4Chars a ++ ':' :: Nat.toDigits 10 port.toNat
  | v6 a scope port =>
    let zone := if scope = 0 then [] else '%' :: Nat.toDigits 10 scope.toNat
    '[' :: Address.v6Chars a ++ zone ++ ']' :: ':' :: Nat.toDigits 10 port.toNat

/-- The text of an endpoint. -/
def text (e : Endpoint) : String :=
  String.ofList e.toChars

/-- The port written in decimal. -/
def port? (s : List Char) : Option UInt16 :=
  ((readNat? 10 s).filter (· < UInt16.size)).map UInt16.ofNat

/-- The scope written in decimal. -/
def scope? (s : List Char) : Option UInt32 :=
  ((readNat? 10 s).filter (· < UInt32.size)).map UInt32.ofNat

/-- The address and scope inside the brackets. -/
def scoped? (s : List Char) : Option (BitVec 128 × UInt32) :=
  match s.splitOn '%' with
  | [address] => (Address.v6? address).map (·, 0)
  | [address, scope] => do some (← Address.v6? address, ← scope? scope)
  | _ => none

/-- The endpoint that characters write. -/
def ofChars? (s : List Char) : Option Endpoint :=
  match s.splitOn ']' with
  | ['[' :: inner, ':' :: port] => do
    let (address, scope) ← scoped? inner
    some (v6 address scope (← port? port))
  | [t] =>
    match t.splitOn ':' with
    | [address, port] => do some (v4 (← Address.v4? address) (← port? port))
    | _ => none
  | _ => none

/-- The endpoint that a text writes. -/
def ofText? (s : String) : Option Endpoint :=
  ofChars? s.toList

end Endpoint

end SenderPolicy
