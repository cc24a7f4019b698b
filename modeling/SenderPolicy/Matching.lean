import SenderPolicy.Macro
import SenderPolicy.Network
import SenderPolicy.Resolver

/-!
# Matching

Whether a sender is one of those that the value of a directive stands for. Addresses are compared in canonical form.

- `matchesNetwork_eq_ok_iff`: there is an answer exactly if the text stands for a network;
- `matchesAddress_eq`, `matchesExchange_eq`, `matchesPointer_eq`, `matchesExists_eq`: what is asked, and what is made of
  the answers.
-/

namespace SenderPolicy

/-- Whether the sender is in the network that a text writes. -/
def matchesNetwork (sender : Address) (value : String) : Except Error Bool :=
  match Network.ofText value with
  | .ok n => .ok (n.contains sender.canonical)
  | .error text => .error (.invalidNetwork value text)

/-- There is an answer exactly if the text stands for a network, and it says whether the sender is in it. -/
theorem matchesNetwork_eq_ok_iff {sender : Address} {value : String} {b : Bool} :
    matchesNetwork sender value = .ok b ↔
      ∃ n, Network.ofText value = .ok n ∧ n.contains sender.canonical = b := by
  cases h : Network.ofText value <;> simp [matchesNetwork, h]

/-- A text that stands for no network is the only error. -/
theorem matchesNetwork_eq_error_iff {sender : Address} {value : String} {e : Error} :
    matchesNetwork sender value = .error e ↔
      ∃ text, Network.ofText value = .error text ∧ e = .invalidNetwork value text := by
  cases h : Network.ofText value <;> simp [matchesNetwork, h, eq_comm]

section

variable (r : Resolver) (sender : Address)

/-- Whether the sender is one of the addresses of a domain. -/
def matchesAddress (domain : String) : Run Error Bool := do
  let answers ← r.askIp domain
  return answers.any (·.canonical = sender.canonical)

/-- Whether the sender is one of the addresses of the first mail exchange of a domain. -/
def matchesExchange (domain : String) : Run Error Bool := do
  match ← r.askMx domain with
  | [] => return false
  | mx :: _ => matchesAddress r sender mx.exchange

/-- Whether a domain is one of the names of the sender. -/
def matchesPointer (domain : String) : Run Error Bool := do
  return (← r.askPtr sender).contains domain

/-- Whether the name made from the template and the sender has an address. -/
def matchesExists (template : String) : Run Error Bool := do
  return !(← r.askIp (Macro.expand template sender)).isEmpty

/-! ## Laws -/

theorem matchesAddress_eq (domain : String) :
    matchesAddress r sender domain =
      ⟨(r.ip domain).map fun answers => answers.any (·.canonical = sender.canonical), [.ip domain]⟩ := by
  rw [matchesAddress, Run.bind_pure_eq]
  rfl

theorem queries_matchesAddress (domain : String) : (matchesAddress r sender domain).queries = [.ip domain] := by
  rw [matchesAddress_eq]

/-- The addresses are asked for only where there is an exchange. -/
theorem matchesExchange_eq (domain : String) :
    matchesExchange r sender domain =
      match r.mx domain with
      | .error e => ⟨.error e, [.mx domain]⟩
      | .ok [] => ⟨.ok false, [.mx domain]⟩
      | .ok (mx :: _) =>
        ⟨(matchesAddress r sender mx.exchange).result,
          .mx domain :: (matchesAddress r sender mx.exchange).queries⟩ := by
  rw [matchesExchange]
  cases h : r.mx domain with
  | error e => rw [Run.bind_of_error (e := e) (by rw [Resolver.askMx, Run.ask, h])]; rfl
  | ok answers =>
    rw [Run.bind_of_ok (a := answers) (by rw [Resolver.askMx, Run.ask, h])]
    cases answers <;> rfl

theorem matchesPointer_eq (domain : String) :
    matchesPointer r sender domain = ⟨(r.ptr sender).map fun names => names.contains domain, [.ptr sender]⟩ := by
  rw [matchesPointer, Run.bind_pure_eq]
  rfl

theorem matchesExists_eq (template : String) :
    matchesExists r sender template =
      ⟨(r.ip (Macro.expand template sender)).map fun answers => !answers.isEmpty,
        [.ip (Macro.expand template sender)]⟩ := by
  rw [matchesExists, Run.bind_pure_eq]
  rfl

end

end SenderPolicy
