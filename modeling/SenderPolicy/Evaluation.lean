import SenderPolicy.Matching
import SenderPolicy.Record.Parser

/-!
# Evaluation

The directives of a policy are tried from left to right, and the first that says something gives the verdict. An
`include` or `redirect` takes the verdict of the policy at another domain, where a pass counts as the qualifier of the
directive itself. A budget limits how deep policies are nested.

- `onMatch_eq`, `onVerdict_eq`: a directive asks what its test or the nested policy asks;
- `firstVerdict_append`, `firstVerdict_cons_of_ne`: directives without a verdict are passed over, and the first one with
  a verdict or an error ends the walk;
- `consult_succ`: the verdict of a nested policy, unfolded one level.
-/

namespace SenderPolicy

/-- How deep policies may be nested: a number of levels, or without a limit where the number is negative. -/
structure Budget where
  depth : Int32
  deriving DecidableEq, Repr

namespace Budget

/-- The budget of a number of 32 bits. -/
def ofInt (n : Int) : Budget :=
  ⟨.ofInt n⟩

/-- What is left for a nested policy: one level less, where the least number stays as it is. -/
def spend (b : Budget) : Budget :=
  if b.depth = Int32.minValue then b else ⟨b.depth - 1⟩

/-- How many policies one in the other are looked at; as many as `fuel` says where there is no limit. -/
def levels (b : Budget) (fuel : Nat) : Nat :=
  if b.depth < 0 then fuel else b.depth.toInt.toNat + 1

theorem depth_eq_zero_iff {b : Budget} : b.depth = 0 ↔ b.depth.toInt = 0 := by
  rw [← Int32.toInt_inj]; rfl

theorem depth_lt_zero_iff {b : Budget} : b.depth < 0 ↔ b.depth.toInt < 0 := by
  rw [Int32.lt_iff_toInt_lt]; rfl

/-- Where there is no limit, there is none for a nested policy. -/
theorem spend_of_neg {b : Budget} (h : b.depth.toInt < 0) : b.spend.depth.toInt < 0 := by
  unfold spend
  split
  · exact h
  · rename_i hm
    have hm : b.depth.toInt ≠ Int32.minValue.toInt := fun he => hm (Int32.toInt_inj.1 he)
    have h₀ : Int32.minValue.toInt = -2147483648 := rfl
    have h₁ : (1 : Int32).toInt = 1 := rfl
    have hl := Int32.le_toInt b.depth
    rw [Int32.toInt_sub, h₁, Int.bmod_def]
    omega

/-- A limit that is not spent goes down by one. -/
theorem toInt_spend_of_pos {b : Budget} (h : 0 < b.depth.toInt) : b.spend.depth.toInt = b.depth.toInt - 1 := by
  have hm : b.depth ≠ Int32.minValue := by
    intro he
    rw [he] at h
    exact absurd h (by decide)
  have h₁ : (1 : Int32).toInt = 1 := rfl
  have hu := Int32.toInt_lt b.depth
  rw [spend, if_neg hm, Int32.toInt_sub, h₁, Int.bmod_def]
  omega

theorem levels_of_neg {b : Budget} (h : b.depth.toInt < 0) (fuel : Nat) : b.levels fuel = fuel :=
  if_pos (depth_lt_zero_iff.2 h)

theorem levels_of_nonneg {b : Budget} (h : 0 ≤ b.depth.toInt) (fuel : Nat) :
    b.levels fuel = b.depth.toInt.toNat + 1 :=
  if_neg fun hn => by have := depth_lt_zero_iff.1 hn; omega

/-- One level less is followed in a nested policy. -/
theorem levels_spend {b : Budget} (h : b.depth ≠ 0) (fuel : Nat) : b.spend.levels (fuel - 1) = b.levels fuel - 1 := by
  have h₀ : b.depth.toInt ≠ 0 := fun hz => h (depth_eq_zero_iff.2 hz)
  rcases Int.lt_or_gt_of_ne h₀ with hn | hp
  · rw [levels_of_neg (spend_of_neg hn), levels_of_neg hn]
  · have hs := toInt_spend_of_pos hp
    rw [levels_of_nonneg (by omega), levels_of_nonneg (by omega)]
    omega

end Budget

/-- Why a walk through policies ends without a verdict. -/
inductive Halt where
  | failure (error : Error)
  /-- There are policies nested deeper than the walk goes. -/
  | unfinished
  deriving DecidableEq, Repr

/-- What a walk comes to; none if it does not come to an end. -/
def Run.outcome? {α : Type} (x : Run Halt α) : Option (Except Error α) :=
  match x.result with
  | .ok a => some (.ok a)
  | .error (.failure e) => some (.error e)
  | .error .unfinished => none

theorem Run.outcome?_eq_none_iff {α : Type} {x : Run Halt α} : x.outcome? = none ↔ x.result = .error .unfinished := by
  unfold outcome?
  split <;> simp_all

section

variable {ε : Type} (verdict : Directive → Run ε Qualifier)

/-- The first verdict that is not `none`, or `none`. -/
def firstVerdict : List Directive → Run ε Qualifier
  | [] => pure .none
  | d :: ds => do
    let q ← verdict d
    if q = .none then firstVerdict ds else pure q

variable {verdict}

/-- A directive with a verdict or an error ends the walk. -/
theorem firstVerdict_cons_of_ne {d : Directive} (h : (verdict d).result ≠ .ok .none) (ds : List Directive) :
    firstVerdict verdict (d :: ds) = verdict d := by
  rw [firstVerdict]
  cases hr : (verdict d).result with
  | error e => rw [Run.bind_of_error hr, ← hr]
  | ok q =>
    have hq : q ≠ .none := fun hq => h (by rw [hr, hq])
    rw [Run.bind_of_ok hr, if_neg hq, Run.result_pure, Run.queries_pure, List.append_nil, ← hr]

/-- Directives without a verdict are passed over, and what they ask is asked before the rest. -/
theorem firstVerdict_append {before : List Directive} (h : ∀ d ∈ before, (verdict d).result = .ok .none)
    (ds : List Directive) :
    firstVerdict verdict (before ++ ds) =
      ⟨(firstVerdict verdict ds).result,
        before.flatMap (fun d => (verdict d).queries) ++ (firstVerdict verdict ds).queries⟩ := by
  induction before with
  | nil => rfl
  | cons d before ih =>
    have hd := h d (by simp)
    rw [List.cons_append, firstVerdict, Run.bind_of_ok hd, if_pos rfl, ih fun e he => h e (by simp [he])]
    simp

/-- Directives without a verdict have none together. -/
theorem firstVerdict_of_forall {ds : List Directive} (h : ∀ d ∈ ds, (verdict d).result = .ok .none) :
    firstVerdict verdict ds = ⟨.ok .none, ds.flatMap fun d => (verdict d).queries⟩ := by
  have ha := firstVerdict_append h []
  rw [List.append_nil] at ha
  rw [ha, firstVerdict]
  simp

/-- Directives have no verdict, or there is a first one with a verdict or an error. -/
theorem forall_or_exists_first (verdict : Directive → Run ε Qualifier) (ds : List Directive) :
    (∀ d ∈ ds, (verdict d).result = .ok .none) ∨
      ∃ before d after, ds = before ++ d :: after ∧ (∀ e ∈ before, (verdict e).result = .ok .none) ∧
        (verdict d).result ≠ .ok .none := by
  induction ds with
  | nil => exact .inl (by simp)
  | cons d ds ih =>
    by_cases hd : (verdict d).result = .ok .none
    · rcases ih with h | ⟨before, e, after, rfl, hb, he⟩
      · exact .inl (by simpa [hd] using h)
      · exact .inr ⟨d :: before, e, after, rfl, by simpa [hd] using hb, he⟩
    · exact .inr ⟨[], d, ds, rfl, by simp, hd⟩

end

namespace Directive

/-- The verdict of a directive that matches or does not. -/
def onMatch (d : Directive) (test : Run Error Bool) : Run Halt Qualifier :=
  (do return if ← test then d.qualifier else .none : Run Error Qualifier).mapError .failure

/-- The verdict of a directive that takes that of a nested policy. -/
def onVerdict (d : Directive) (nested : Run Halt Qualifier) : Run Halt Qualifier := do
  let q ← nested
  return if q = .pass then d.qualifier else q

/-- A directive asks what its test asks. -/
theorem onMatch_eq (d : Directive) (test : Run Error Bool) :
    d.onMatch test =
      ⟨(test.result.map fun b => if b then d.qualifier else .none).mapError .failure, test.queries⟩ := by
  rw [onMatch, Run.bind_pure_eq]
  rfl

/-- A directive asks what the nested policy asks. -/
theorem onVerdict_eq (d : Directive) (nested : Run Halt Qualifier) :
    d.onVerdict nested =
      ⟨nested.result.map fun q => if q = .pass then d.qualifier else q, nested.queries⟩ := by
  rw [onVerdict, Run.bind_pure_eq]

/-- The domain that a directive is about: its value, or the domain that publishes it. -/
def target (d : Directive) (domain : String) : String :=
  if d.value = "" then domain else d.value

end Directive

section

variable (r : Resolver) (sender : Address)

/-- Whether a directive published at `domain` matches the sender; none for one that takes the verdict of a nested
policy. -/
def Directive.test? (domain : String) (d : Directive) : Option (Run Error Bool) :=
  match d.mechanism with
  | .all => some (pure true)
  | .ip4 | .ip6 => some (.ofExcept (matchesNetwork sender d.value))
  | .a => some (matchesAddress r sender (d.target domain))
  | .mx => some (matchesExchange r sender (d.target domain))
  | .ptr => some (matchesPointer r sender (d.target domain))
  | .exists => some (matchesExists r sender d.value)
  | .include | .redirect => none

/-- The verdict of a directive published at `domain`, where `nested` gives the verdict of the policy at another
domain. -/
def execute (nested : String → Run Halt Qualifier) (domain : String) (d : Directive) : Run Halt Qualifier :=
  match d.test? r sender domain with
  | some test => d.onMatch test
  | none => d.onVerdict (nested d.value)

/-- The verdict of the nested policy at a domain, if the budget allows one; at most `levels` policies one in the other
are looked at. -/
def consult : (levels : Nat) → Budget → (domain : String) → Run Halt Qualifier
  | 0, _, _ => .fail .unfinished
  | levels + 1, b, domain =>
    if b.depth = 0 then .fail (.failure .tooDeep)
    else do
      let text ← (r.policyText domain).mapError .failure
      let record ← (Run.ofExcept (Record.parse text)).mapError .failure
      firstVerdict (execute r sender (consult levels b.spend) domain) record.directives

/-- The verdict of a record published at `domain`. -/
def walk (levels : Nat) (b : Budget) (domain : String) (record : Record) : Run Halt Qualifier :=
  firstVerdict (execute r sender (consult r sender levels b) domain) record.directives

/-- The verdict of a policy text published at `domain`. -/
def walkText (levels : Nat) (b : Budget) (domain text : String) : Run Halt Qualifier := do
  let record ← (Run.ofExcept (Record.parse text)).mapError .failure
  walk r sender levels b domain record

/-- The verdict of the policy that a domain publishes. -/
def walkDomain (levels : Nat) (b : Budget) (domain : String) : Run Halt Qualifier := do
  let text ← (r.policyText domain).mapError .failure
  walkText r sender levels b domain text

/-- With a level left, a budget that is spent fails before any question; otherwise the policy of the domain is fetched
and walked with the budget for nested policies. -/
theorem consult_succ (levels : Nat) (b : Budget) (domain : String) :
    consult r sender (levels + 1) b domain =
      if b.depth = 0 then .fail (.failure .tooDeep) else walkDomain r sender levels b.spend domain := rfl

end

/-- A sender to be judged: who answers questions, and how deep policies may be nested. -/
structure Inquiry where
  resolver : Resolver
  sender : Address
  budget : Budget
  /-- How many levels are followed where the budget sets no limit. -/
  fuel : Nat

namespace Inquiry

variable (i : Inquiry)

/-- How many nested policies, one in the other, are looked at. -/
def levels : Nat :=
  i.budget.levels i.fuel

/-- The verdict of a policy nested in the one at hand. -/
def nested (domain : String) : Run Halt Qualifier :=
  consult i.resolver i.sender i.levels i.budget domain

/-- The verdict of one directive published at `domain`. -/
def execute (domain : String) (d : Directive) : Run Halt Qualifier :=
  SenderPolicy.execute i.resolver i.sender i.nested domain d

/-- The verdict of a record published at `domain`. -/
def evaluate (domain : String) (record : Record) : Run Halt Qualifier :=
  walk i.resolver i.sender i.levels i.budget domain record

/-- The verdict of a policy text published at `domain`. -/
def validateText (domain text : String) : Run Halt Qualifier :=
  walkText i.resolver i.sender i.levels i.budget domain text

/-- The verdict of the policy that a domain publishes. -/
def validate (domain : String) : Run Halt Qualifier :=
  walkDomain i.resolver i.sender i.levels i.budget domain

end Inquiry

end SenderPolicy
