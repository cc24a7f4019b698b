import SenderPolicy.Proofs.Depth

/-!
# Policies without cycles

Where no policy is nested in itself, not even through others, a walk without a limit comes to an end. It is then the same
walk for all budgets without a limit, and for all limits that the nesting does not exceed. The least number is no
exception, as a budget without a limit stays one.

- `Resolver.Ranked`: a rank of the domains that goes down from a policy to those nested in it;
- `validate_eq_of_follows`: two inquiries that both follow the nesting of a domain make the same walk;
- `validate_of_ranked`: the walk without a limit.
-/

namespace SenderPolicy

/-! ## Ranks -/

/-- Domains can be ranked so that each policy nests only policies of lower rank. -/
def Resolver.Ranked (r : Resolver) (rank : String → Nat) : Prop :=
  ∀ domain record, r.Publishes domain record → ∀ d ∈ record.directives, d.nests = true → rank d.value < rank domain

namespace Inquiry

variable {i j : Inquiry} {n : Nat} {rank : String → Nat}

/-! ## Walks that follow the whole nesting -/

/-- Two inquiries that follow the nesting of a domain make the same walk. -/
theorem validate_eq_of_follows (ranked : i.resolver.Ranked rank) (resolver : j.resolver = i.resolver)
    (sender : j.sender = i.sender) {domain : String} (hn : rank domain ≤ n) (hi : i.Follows n) (hj : j.Follows n) :
    j.validate domain = i.validate domain := by
  induction n using Nat.strongRecOn generalizing i j domain with
  | ind n ih =>
    rw [validate_eq, validate_eq, resolver]
    cases hp : i.resolver.policy domain with
    | error e => rfl
    | ok record =>
      have lower := ranked domain record (Resolver.policy_eq_ok_iff.1 hp)
      have same : j.evaluate domain record = i.evaluate domain record := by
        rw [evaluate_eq, evaluate_eq]
        refine firstVerdict_rel (fun _ => rfl) (fun hx hf => by rw [hx, funext hf]) fun d hd => ?_
        cases hnest : d.nests with
        | false => exact execute_eq_of_not_nests resolver sender hnest domain
        | true =>
          have hlt := lower d hd hnest
          obtain ⟨m, rfl⟩ : ∃ m, n = m + 1 := ⟨n - 1, by omega⟩
          have nested : j.deeper.validate d.value = i.deeper.validate d.value :=
            ih m (by omega) (i := i.deeper) (j := j.deeper) ranked resolver sender (by omega) hi.deeper hj.deeper
          rw [execute_of_nests hnest, execute_of_nests hnest, nested_of_canNest hi.canNest,
            nested_of_canNest hj.canNest, nested]
      simp only [same]

/-- A walk that follows the nesting of the domain comes to an end. -/
theorem validate_ne_unfinished_of_follows (ranked : i.resolver.Ranked rank) {domain : String} (hn : rank domain ≤ n)
    (hi : i.Follows n) : (i.validate domain).result ≠ .error .unfinished := by
  induction n using Nat.strongRecOn generalizing i domain with
  | ind n ih =>
    intro he
    rcases validate_error_cases he with ⟨_, -, h, -⟩ | ⟨record, before, d, after, published, split, -, hd, -⟩
    · cases h
    · have lower := ranked domain record published d (by simp [split])
      rcases execute_error_cases hd with ⟨_, _, -, -, h, -⟩ | ⟨nests, hc⟩
      · cases h
      · have hlt := lower nests
        obtain ⟨m, rfl⟩ : ∃ m, n = m + 1 := ⟨n - 1, by omega⟩
        rcases hc with ⟨hl, -⟩ | ⟨-, h⟩ | ⟨-, hr, -⟩
        · exact hi.canNest.1 hl
        · cases h
        · exact ih m (by omega) (i := i.deeper) ranked (by omega) hi.deeper hr

end Inquiry

/-! ## Walks without a limit -/

/-- Where there is no limit, there is none for any policy that a walk comes to. -/
theorem Reaches.unlimited {i : Inquiry} {publisher : String} {record : Record} {outer : List Directive}
    {asked : List Query} {v : Visit} (h : Reaches i publisher record outer asked v)
    (hb : i.budget.depth.toInt < 0) : v.inquiry.budget.depth.toInt < 0 := by
  induction h with
  | here => exact hb
  | inside _ _ _ _ _ _ ih => exact ih (Budget.spend_of_neg hb)

namespace Inquiry

variable {i : Inquiry}

/-- Without a limit no policy is nested too deep; only a question can fail so. -/
theorem exists_fails_of_tooDeep (unlimited : i.budget.depth.toInt < 0) {domain : String}
    (h : (i.validate domain).result = .error (.failure .tooDeep)) :
    ∃ q ∈ (i.validate domain).queries, i.resolver.Fails q .tooDeep := by
  rcases i.exists_spoils_or_raises h with ⟨q, hq, hs⟩ | ⟨_, _, _, v, -, hv, ⟨-, _, -, he⟩ | ⟨-, spent, -⟩⟩
  · exact ⟨q, hq, Resolver.fails_tooDeep_of_spoils hs⟩
  · cases he
  · have hn := hv.unlimited unlimited
    have hz := Budget.depth_eq_zero_iff.1 spent
    omega

/-- **Without cycles, a walk needs no limit.** Where domains can be ranked, there is one walk for a domain that every
budget without a limit leads to, down to the least number, once as many levels are followed as the rank says. It comes to
an end, no policy in it is nested too deep, and it is the walk under every limit from the rank on. -/
theorem validate_of_ranked (r : Resolver) (rank : String → Nat) (ranked : r.Ranked rank) (sender : Address)
    (domain : String) :
    ∃ walk : Run Halt Qualifier,
      walk.result ≠ .error .unfinished ∧
      (walk.result = .error (.failure .tooDeep) → ∃ q ∈ walk.queries, r.Fails q .tooDeep) ∧
      (∀ b fuel, b.depth.toInt < 0 → rank domain ≤ fuel → (Inquiry.mk r sender b fuel).validate domain = walk) ∧
      ∀ b fuel, (rank domain : Int) ≤ b.depth.toInt → (Inquiry.mk r sender b fuel).validate domain = walk := by
  let i : Inquiry := ⟨r, sender, .ofInt (-1), rank domain⟩
  have free : i.budget.depth.toInt < 0 := show (Budget.ofInt (-1)).depth.toInt < 0 by decide
  have follows : i.Follows (rank domain) := .inr ⟨free, Nat.le_refl _⟩
  have same : ∀ b fuel, (Inquiry.mk r sender b fuel).Follows (rank domain) →
      (Inquiry.mk r sender b fuel).validate domain = i.validate domain := by
    intro b fuel h
    exact validate_eq_of_follows (i := i) (j := ⟨r, sender, b, fuel⟩) ranked rfl rfl (Nat.le_refl _) follows h
  have ends : (i.validate domain).result ≠ .error .unfinished :=
    validate_ne_unfinished_of_follows (i := i) ranked (Nat.le_refl _) follows
  have deep : (i.validate domain).result = .error (.failure .tooDeep) →
      ∃ q ∈ (i.validate domain).queries, r.Fails q .tooDeep := exists_fails_of_tooDeep (i := i) free
  refine ⟨i.validate domain, ends, deep, ?_, ?_⟩
  · intro b fuel hn hf
    exact same b fuel (.inr ⟨hn, hf⟩)
  · intro b fuel hl
    exact same b fuel (.inl hl)

end Inquiry

/-- A rank of the domains of the chain. -/
def Zone.chainRank (domain : String) : Nat :=
  if domain = "a.example" then 2 else if domain = "b.example" then 1 else 0

theorem Zone.ranked_chain : Zone.chain.resolver.Ranked Zone.chainRank := by
  intro domain record published
  rcases publishes_chain published with ⟨rfl, rfl⟩ | ⟨rfl, rfl⟩ | ⟨rfl, rfl⟩ <;> decide

namespace Inquiry

theorem validate_of_ranked_chain :
    (⟨Zone.chain.resolver, .v4 0xC0000201#32, ⟨Int32.minValue⟩, 2⟩ : Inquiry).validate "a.example" =
      (Zone.chain.inquiry 2 0).validate "a.example" ∧
    ((Zone.chain.inquiry 2 0).validate "a.example").result = .ok .neutral := by
  obtain ⟨walk, -, -, free, limited⟩ :=
    validate_of_ranked Zone.chain.resolver Zone.chainRank Zone.ranked_chain (.v4 0xC0000201#32) "a.example"
  have least := free ⟨Int32.minValue⟩ 2 (by decide) (by decide)
  have two := limited (.ofInt 2) 0 (by decide)
  exact ⟨least.trans two.symm, rfl⟩

end Inquiry

end SenderPolicy
