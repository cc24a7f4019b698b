import SenderPolicy.Error
import SenderPolicy.Record.Basic
import SenderPolicy.Run

/-!
# Name service

What a name service answers, and the questions put to it. A name without data has an empty answer; an error is a
failure of the service.

- `queries_policyText`: the policy of a domain is looked for with one question;
- `result_policyText_eq_ok_iff`: it is the first text at the domain that carries the mark;
- `result_policyText_eq_error_iff`: there is none where the question fails, or where no text carries the mark.
-/

namespace SenderPolicy

/-- A host that takes mail for a domain. -/
structure MailExchange where
  preference : UInt16
  exchange : String
  deriving DecidableEq, Repr

/-- By preference, then by the code points of the host. -/
def MailExchange.le (a b : MailExchange) : Bool :=
  a.preference < b.preference || (a.preference == b.preference && a.exchange ≤ b.exchange)

/-- The answers of a name service. -/
structure Resolver where
  txt : String → Except Error (List String)
  ip : String → Except Error (List Address)
  mx : String → Except Error (List MailExchange)
  ptr : Address → Except Error (List String)

namespace Resolver

variable (r : Resolver)

/-- Asks for the texts at a name. -/
def askTxt (name : String) : Run Error (List String) :=
  .ask (.txt name) (r.txt name)

/-- Asks for the addresses of a name. -/
def askIp (name : String) : Run Error (List Address) :=
  .ask (.ip name) (r.ip name)

/-- Asks for the mail exchanges of a name. -/
def askMx (name : String) : Run Error (List MailExchange) :=
  .ask (.mx name) (r.mx name)

/-- Asks for the names of an address. -/
def askPtr (address : Address) : Run Error (List String) :=
  .ask (.ptr address) (r.ptr address)

/-- The first text at a domain that carries the mark of a policy. -/
def policyText (domain : String) : Run Error String := do
  let texts ← r.askTxt domain
  match texts.find? Record.isMarked with
  | some text => return text
  | none => .fail (.noPolicy domain)

/-- The first address of a domain, if it has one. -/
def firstAddress (domain : String) : Run Error (Option Address) := do
  return (← r.askIp domain).head?

/-- The policy of a domain is looked for with one question. -/
theorem queries_policyText (domain : String) : (r.policyText domain).queries = [.txt domain] := by
  rw [policyText, Run.queries_bind]
  cases h : (r.askTxt domain).result with
  | error e => rfl
  | ok texts => cases hf : texts.find? Record.isMarked <;> simp [askTxt, Run.ask, hf, Run.fail, Run.ofExcept]

/-- The policy of a domain is the first text at the domain that carries the mark. -/
theorem result_policyText_eq_ok_iff {domain text : String} :
    (r.policyText domain).result = .ok text ↔
      ∃ texts, r.txt domain = .ok texts ∧ texts.find? Record.isMarked = some text := by
  rw [policyText, Run.result_bind]
  cases h : r.txt domain with
  | error e => simp [askTxt, Run.ask, h, bind, Except.bind]
  | ok texts =>
    cases hf : texts.find? Record.isMarked <;>
      simp [askTxt, Run.ask, h, hf, bind, Except.bind, Run.fail, Run.ofExcept]

/-- There is no policy where the question fails, or where no text carries the mark. -/
theorem result_policyText_eq_error_iff {domain : String} {e : Error} :
    (r.policyText domain).result = .error e ↔ r.txt domain = .error e ∨
      ∃ texts, r.txt domain = .ok texts ∧ (∀ t ∈ texts, Record.isMarked t = false) ∧ e = .noPolicy domain := by
  rw [policyText, Run.result_bind]
  cases h : r.txt domain with
  | error e => simp [askTxt, Run.ask, h, bind, Except.bind]
  | ok texts =>
    cases hf : texts.find? Record.isMarked with
    | none =>
      have unmarked : ∀ t ∈ texts, Record.isMarked t = false := by simpa using List.find?_eq_none.1 hf
      simp only [askTxt, Run.ask, h, hf, bind, Except.bind, Run.fail, Run.ofExcept, Except.error.injEq,
        reduceCtorEq, false_or]
      constructor
      · rintro rfl
        exact ⟨texts, rfl, unmarked, rfl⟩
      · rintro ⟨_, -, -, rfl⟩
        rfl
    | some text =>
      have marked := List.find?_some hf
      have hm := List.mem_of_find?_eq_some hf
      simp only [askTxt, Run.ask, h, hf, bind, Except.bind, Run.result_pure, reduceCtorEq, false_or, false_iff]
      rintro ⟨_, ht, unmarked, -⟩
      cases ht
      rw [unmarked text hm] at marked
      cases marked

end Resolver

end SenderPolicy
