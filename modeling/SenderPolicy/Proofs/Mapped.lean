import SenderPolicy.Proofs.Failure

/-!
# The form of a sender

Directives compare senders in canonical form, so the IPv4 form of an address and its IPv6 form are the same sender to
them. Only `ptr` and `exists` put the address into a question, as it is given. A walk that comes to neither of them, in
any policy, is therefore the same walk for both forms.

- `matchesNetwork_congr`, `matchesAddress_congr`, `matchesExchange_congr`: tests that compare addresses;
- `firstVerdict_congr`: the verdict of directives depends on those that are come to;
- `validate_judging`: a walk for another form of the sender;
- `validate_mapped`: the two forms of an IPv4 address.
-/

namespace SenderPolicy

/-! ## Tests that compare addresses -/

section

variable {s t : Address}

theorem matchesNetwork_congr (h : t.canonical = s.canonical) (value : String) :
    matchesNetwork t value = matchesNetwork s value := by
  unfold matchesNetwork
  rw [h]

theorem matchesAddress_congr (h : t.canonical = s.canonical) (r : Resolver) (domain : String) :
    matchesAddress r t domain = matchesAddress r s domain := by
  unfold matchesAddress
  rw [h]

theorem matchesExchange_congr (h : t.canonical = s.canonical) (r : Resolver) (domain : String) :
    matchesExchange r t domain = matchesExchange r s domain := by
  rw [matchesExchange_eq, matchesExchange_eq]
  cases r.mx domain with
  | error e => rfl
  | ok answers =>
    cases answers with
    | nil => rfl
    | cons mx others => simp only [matchesAddress_congr h]

/-- The test of a directive depends on the canonical form of the sender, unless it asks for the sender itself. -/
theorem Directive.test?_congr {d : Directive} (h : t.canonical = s.canonical) (ptr : d.mechanism ≠ .ptr)
    («exists» : d.mechanism ≠ .exists) (r : Resolver) (publisher : String) :
    d.test? r t publisher = d.test? r s publisher := by
  cases hm : d.mechanism with
  | all | «include» | redirect => simp only [test?, hm]
  | ip4 | ip6 => simp only [test?, hm, matchesNetwork_congr h]
  | a => simp only [test?, hm, matchesAddress_congr h]
  | mx => simp only [test?, hm, matchesExchange_congr h]
  | ptr => exact absurd hm ptr
  | «exists» => exact absurd hm «exists»

end

/-! ## Directives that are come to -/

/-- The verdict of directives depends on those that are come to: those in front of which no other has a verdict. -/
theorem firstVerdict_congr {ε : Type} {v w : Directive → Run ε Qualifier} {ds : List Directive}
    (h : ∀ before d after, ds = before ++ d :: after → (∀ e ∈ before, (v e).result = .ok .none) → w d = v d) :
    firstVerdict w ds = firstVerdict v ds := by
  induction ds with
  | nil => rfl
  | cons d ds ih =>
    have hd : w d = v d := h [] d ds rfl (by simp)
    by_cases hv : (v d).result = .ok .none
    · have rest : firstVerdict w ds = firstVerdict v ds := by
        apply ih
        intro before e after split missed
        apply h (d :: before) e after (by rw [split, List.cons_append])
        intro f hf
        rcases List.mem_cons.1 hf with rfl | hf
        · exact hv
        · exact missed f hf
      rw [firstVerdict, firstVerdict, hd, Run.bind_of_ok hv, Run.bind_of_ok hv, if_pos rfl, if_pos rfl, rest]
    · rw [firstVerdict_cons_of_ne hv, firstVerdict_cons_of_ne (by rwa [hd]), hd]

/-- The policy in which a directive stands that a walk comes to. -/
theorem Reaches.mem {i : Inquiry} {publisher : String} {record : Record} {outer : List Directive} {asked : List Query}
    {v : Visit} (h : Reaches i publisher record outer asked v) :
    v.directive ∈ record.directives ∨
      ∃ domain policy, i.resolver.Publishes domain policy ∧ v.directive ∈ policy.directives := by
  induction h with
  | here split _ =>
    rw [split]
    simp
  | inside _ _ _ _ published _ ih =>
    rcases ih with hm | ⟨domain, policy, hp, hm⟩
    · exact .inr ⟨_, _, published, hm⟩
    · exact .inr ⟨domain, policy, hp, hm⟩

namespace Inquiry

/-- The walk for a domain executes a directive, in its policy or in one nested there. -/
def Executes (i : Inquiry) (domain : String) (d : Directive) : Prop :=
  ∃ record outer asked v, i.resolver.Publishes domain record ∧ Reaches i domain record outer asked v ∧ v.directive = d

/-- A directive that is executed stands in a published policy. -/
theorem Executes.exists_publishes {i : Inquiry} {domain : String} {d : Directive} (h : i.Executes domain d) :
    ∃ name policy, i.resolver.Publishes name policy ∧ d ∈ policy.directives := by
  obtain ⟨record, outer, asked, v, published, hv, rfl⟩ := h
  rcases hv.mem with hm | found
  · exact ⟨domain, record, published, hm⟩
  · exact found

/-! ## Walks for two forms -/

/-- The inquiry about another sender. -/
def judging (i : Inquiry) (sender : Address) : Inquiry :=
  { i with sender := sender }

/-- One directive is the same for both forms, if the policies nested in it are. -/
theorem execute_judging {i : Inquiry} {s : Address} (h : s.canonical = i.sender.canonical) {publisher : String}
    {d : Directive} (ptr : d.mechanism ≠ .ptr) («exists» : d.mechanism ≠ .exists)
    (nested : d.nests = true → i.CanNest → (i.deeper.judging s).validate d.value = i.deeper.validate d.value) :
    (i.judging s).execute publisher d = i.execute publisher d := by
  cases hd : d.nests with
  | false =>
    obtain ⟨test, ht⟩ := Directive.exists_test_of_not_nests hd i.resolver i.sender publisher
    have ht' : d.test? (i.judging s).resolver (i.judging s).sender publisher = some test :=
      (Directive.test?_congr h ptr «exists» i.resolver publisher).trans ht
    rw [execute_of_test ht, execute_of_test ht']
  | true =>
    have hn : (i.judging s).nested d.value = i.nested d.value :=
      nested_rel (P := fun x y => x = y) (i := i.judging s) (j := i) rfl rfl (fun _ => rfl) (nested hd)
    rw [execute_of_nests hd, execute_of_nests hd, hn]

/-- A walk is the same for all senders of one canonical form, if it comes to no directive that asks for the sender
itself. -/
theorem validate_judging (i : Inquiry) : ∀ {s : Address} {domain : String}, s.canonical = i.sender.canonical →
    (∀ d, i.Executes domain d → d.mechanism ≠ .ptr ∧ d.mechanism ≠ .exists) →
    (i.judging s).validate domain = i.validate domain := by
  induction i using nesting_induction with
  | step i ih =>
    intro s domain h blind
    cases hp : i.resolver.policy domain with
    | error e => rw [validate_of_policy_error hp, validate_of_policy_error (i := i.judging s) hp]
    | ok record =>
      have published := Resolver.policy_eq_ok_iff.1 hp
      have walk : (i.judging s).evaluate domain record = i.evaluate domain record := by
        apply firstVerdict_congr
        intro before d after split missed
        obtain ⟨ptr, «exists»⟩ := blind d ⟨record, _, _, _, published, .here split missed, rfl⟩
        apply execute_judging h ptr «exists»
        intro nests canNest
        apply ih canNest h
        -- what the nested walk executes, the whole walk executes
        rintro _ ⟨nested, outer, asked, v, hn, hv, rfl⟩
        exact blind _ ⟨record, _, _, v, published, .inside split missed nests canNest hn hv, rfl⟩
      rw [validate_of_publishes published, validate_of_publishes (i := i.judging s) published, walk]

/-- **An IPv4 address and its IPv6 form are the same sender.** If the walk for the IPv4 address executes no `ptr` and no
`exists`, in whatever policy, then the walk for the IPv6 form asks the same questions in the same order and has the same
result, errors included; and it has one, where the nesting is limited. -/
theorem validate_mapped (r : Resolver) (a : BitVec 32) (domain : String) (b : Budget) (fuel : Nat)
    (blind : ∀ d, (Inquiry.mk r (.v4 a) b fuel).Executes domain d → d.mechanism ≠ .ptr ∧ d.mechanism ≠ .exists) :
    (Inquiry.mk r (.v6 (Address.mapped a)) b fuel).validate domain = (Inquiry.mk r (.v4 a) b fuel).validate domain ∧
    (0 ≤ b.depth.toInt → ((Inquiry.mk r (.v6 (Address.mapped a)) b fuel).validate domain).result ≠ .error .unfinished) :=
  ⟨validate_judging ⟨r, .v4 a, b, fuel⟩ (Address.canonical_mapped a) blind,
    fun limited => validate_ne_unfinished ⟨r, .v6 (Address.mapped a), b, fuel⟩ limited domain⟩

/-- Three policies, one in the other, with networks of both families. -/
theorem validate_mapped_chain :
    ((Zone.chain.inquiry 2 0).validate "a.example").result = .ok .neutral ∧
      (Inquiry.mk Zone.chain.resolver (.v6 0xFFFFC0000201#128) (.ofInt 2) 0).validate "a.example" =
        (Zone.chain.inquiry 2 0).validate "a.example" ∧
      ((Inquiry.mk Zone.chain.resolver (.v6 0xFFFFC0000201#128) (.ofInt 2) 0).validate "a.example").result ≠
        .error .unfinished := by
  have blind (d : Directive) (executed : (Zone.chain.inquiry 2 0).Executes "a.example" d) :
      d.mechanism ≠ .ptr ∧ d.mechanism ≠ .exists := by
    obtain ⟨name, policy, published, hd⟩ := executed.exists_publishes
    have all : ∀ e ∈ policy.directives, e.mechanism ≠ .ptr ∧ e.mechanism ≠ .exists := by
      rcases Zone.publishes_chain published with ⟨-, rfl⟩ | ⟨-, rfl⟩ | ⟨-, rfl⟩ <;> decide
    exact all d hd
  obtain ⟨same, finished⟩ := validate_mapped Zone.chain.resolver 0xC0000201#32 "a.example" (.ofInt 2) 0 blind
  exact ⟨rfl, same, finished (by decide)⟩

end Inquiry

end SenderPolicy
