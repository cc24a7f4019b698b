import SenderPolicy.Proofs.Walk

/-!
# Questions for the root

The root of all domains has an empty name. An `a`, `mx` or `ptr` without a value is about the domain that publishes it, so
that it does not ask the root. Three other things do: an `exists` without a value, an `include` or `redirect` without a
value, and a first mail exchange without a name.

- `Query.IsRoot`: a question for the root;
- `Visit.LeadsToRoot`: a directive that asks the root where a walk comes to it;
- `exists_isRoot_iff`: a walk asks the root exactly if it comes to such a directive;
- `not_forall_not_isRoot`: there are such walks, also from a domain with a name.
-/

namespace SenderPolicy

/-- A question for the root: it is about an empty name. -/
def Query.IsRoot : Query → Prop
  | txt name | ip name | mx name => name = ""
  | ptr _ => False

namespace Directive

/-- It is an `exists` without a value. -/
def IsEmptyTemplate (d : Directive) : Prop :=
  d.mechanism = .exists ∧ d.value = ""

/-- It is an `mx` about a domain of which the first mail exchange has no name. -/
def HasNamelessExchange (r : Resolver) (publisher : String) (d : Directive) : Prop :=
  d.mechanism = .mx ∧ ∃ mx others, r.mx (d.target publisher) = .ok (mx :: others) ∧ mx.exchange = ""

variable {r : Resolver} {sender : Address} {publisher : String} {d : Directive} {test : Run Error Bool}

/-- A directive is never about the root where a domain with a name publishes it. -/
theorem target_ne_empty (h : publisher ≠ "") : d.target publisher ≠ "" := by
  unfold target
  split
  · exact h
  · assumption

/-- The test of a mail exchange asks the root exactly if the first one has no name. -/
theorem exists_isRoot_matchesExchange_iff {domain : String} (h : domain ≠ "") :
    (∃ q ∈ (matchesExchange r sender domain).queries, q.IsRoot) ↔
      ∃ mx others, r.mx domain = .ok (mx :: others) ∧ mx.exchange = "" := by
  rw [matchesExchange_eq]
  cases hm : r.mx domain with
  | error e => simp [Query.IsRoot, h]
  | ok answers =>
    cases answers with
    | nil => simp [Query.IsRoot, h]
    | cons mx others => simp [Query.IsRoot, h, queries_matchesAddress]

/-- The test of a directive asks the root exactly if it is an `exists` without a value, or an `mx` of which the first
mail exchange has no name. -/
theorem exists_isRoot_test_iff (ht : d.test? r sender publisher = some test) (h : publisher ≠ "") :
    (∃ q ∈ test.queries, q.IsRoot) ↔ d.IsEmptyTemplate ∨ d.HasNamelessExchange r publisher := by
  have about : d.target publisher ≠ "" := target_ne_empty h
  rcases test?_cases ht with ⟨hm, rfl⟩ | ⟨hm, rfl⟩ | ⟨hm, rfl⟩ | ⟨hm, rfl⟩ | ⟨hm, rfl⟩ | ⟨hm, rfl⟩
  · simp [IsEmptyTemplate, HasNamelessExchange, hm]
  · rcases hm with hm | hm <;> simp [IsEmptyTemplate, HasNamelessExchange, hm]
  · simp [IsEmptyTemplate, HasNamelessExchange, hm, queries_matchesAddress, Query.IsRoot, about]
  · rw [exists_isRoot_matchesExchange_iff about]
    simp [IsEmptyTemplate, HasNamelessExchange, hm]
  · rw [matchesPointer_eq]
    simp [IsEmptyTemplate, HasNamelessExchange, hm, Query.IsRoot]
  · rw [matchesExists_eq]
    simp [IsEmptyTemplate, HasNamelessExchange, hm, Query.IsRoot, Macro.expand_eq_empty_iff]

end Directive

/-- A directive that asks the root where a walk comes to it: an `exists` without a value, an `mx` of which the first
mail exchange has no name, or a directive that nests a policy, has no value, and is followed. -/
def Visit.LeadsToRoot (v : Visit) : Prop :=
  v.directive.IsEmptyTemplate ∨ v.directive.HasNamelessExchange v.inquiry.resolver v.publisher ∨
    v.directive.nests = true ∧ v.inquiry.CanNest ∧ v.directive.value = ""

namespace Inquiry

variable {i : Inquiry}

/-- What a directive asks that nests a policy is asked for that policy, and the policy is followed. -/
theorem mem_queries_execute_of_nests {publisher : String} {d : Directive} {q : Query} (hd : d.nests = true) :
    q ∈ (i.execute publisher d).queries ↔ i.CanNest ∧ q ∈ (i.deeper.validate d.value).queries := by
  rw [execute_of_nests hd, Directive.onVerdict_eq]
  by_cases hc : i.CanNest
  · rw [nested_of_canNest hc]
    simp [hc]
  · simp [hc, queries_nested_of_not_canNest hc]

/-- A directive that leads to the root asks the root. -/
theorem exists_isRoot_of_leadsToRoot {v : Visit} (h : v.LeadsToRoot) : ∃ q ∈ v.run.queries, q.IsRoot := by
  rcases h with ⟨hm, hv⟩ | ⟨hm, mx, others, ha, hx⟩ | ⟨nests, canNest, hv⟩
  · have ht : v.directive.test? v.inquiry.resolver v.inquiry.sender v.publisher =
        some (matchesExists v.inquiry.resolver v.inquiry.sender v.directive.value) := by
      simp only [Directive.test?, hm]
    rw [Visit.run, execute_of_test ht, Directive.onMatch_eq, matchesExists_eq]
    refine ⟨.ip (Macro.expand v.directive.value v.inquiry.sender), by simp, ?_⟩
    exact Macro.expand_eq_empty_iff.2 hv
  · have ht : v.directive.test? v.inquiry.resolver v.inquiry.sender v.publisher =
        some (matchesExchange v.inquiry.resolver v.inquiry.sender (v.directive.target v.publisher)) := by
      simp only [Directive.test?, hm]
    rw [Visit.run, execute_of_test ht, Directive.onMatch_eq, matchesExchange_eq, ha]
    refine ⟨.ip mx.exchange, ?_, hx⟩
    simp [queries_matchesAddress]
  · exact ⟨.txt v.directive.value,
      (mem_queries_execute_of_nests nests).2 ⟨canNest, txt_mem_queries_validate _ _⟩, hv⟩

/-- A walk that asks the root comes to a directive that leads there, where a domain with a name publishes the
policy. -/
theorem exists_leadsToRoot (i : Inquiry) : ∀ {publisher : String} {record : Record} {q : Query}, publisher ≠ "" →
    q ∈ (i.evaluate publisher record).queries → q.IsRoot →
      ∃ outer asked v, Reaches i publisher record outer asked v ∧ v.LeadsToRoot := by
  induction i using nesting_induction with
  | step i ih =>
    intro publisher record q named hq root
    obtain ⟨before, d, after, split, missed, hd⟩ := mem_queries_evaluate_iff.1 hq
    have here : Reaches i publisher record [] (i.asks publisher before) ⟨i, publisher, d⟩ := .here split missed
    cases nests : d.nests with
    | false =>
      obtain ⟨test, ht⟩ := Directive.exists_test_of_not_nests nests i.resolver i.sender publisher
      rw [execute_of_test ht, Directive.onMatch_eq] at hd
      rcases (Directive.exists_isRoot_test_iff ht named).1 ⟨q, hd, root⟩ with hv | hv
      · exact ⟨[], _, _, here, .inl hv⟩
      · exact ⟨[], _, _, here, .inr (.inl hv)⟩
    | true =>
      obtain ⟨canNest, hn⟩ := (mem_queries_execute_of_nests nests).1 hd
      by_cases hv : d.value = ""
      · exact ⟨[], _, _, here, .inr (.inr ⟨nests, canNest, hv⟩)⟩
      -- the question for the nested policy has a name, so it is not the one for the root
      rw [validate_eq] at hn
      cases hp : i.deeper.resolver.policy d.value with
      | error e =>
        rw [hp] at hn
        obtain rfl : q = .txt d.value := by simpa using hn
        exact absurd root hv
      | ok nested =>
        rw [hp] at hn
        rcases List.mem_cons.1 hn with rfl | hn
        · exact absurd root hv
        · obtain ⟨outer, asked, v, hr, leads⟩ := ih canNest hv hn root
          exact ⟨d :: outer, _, v, .inside split missed nests canNest (Resolver.policy_eq_ok_iff.1 hp) hr, leads⟩

/-- **When a walk asks the root.** From a policy text or from the policy of a domain, where the domain has a name, a walk
asks the root exactly if it comes to an `exists` without a value, to an `mx` of which the first mail exchange has no name,
or to an `include` or `redirect` without a value for which a level is left. -/
theorem exists_isRoot_iff (i : Inquiry) (domain text : String) (named : domain ≠ "") :
    ((∃ q ∈ (i.validateText domain text).queries, q.IsRoot) ↔
      ∃ record outer asked v, Record.parse text = .ok record ∧ Reaches i domain record outer asked v ∧
        v.LeadsToRoot) ∧
    ((∃ q ∈ (i.validate domain).queries, q.IsRoot) ↔
      ∃ record outer asked v, i.resolver.Publishes domain record ∧ Reaches i domain record outer asked v ∧
        v.LeadsToRoot) := by
  have asks : ∀ record, (∃ q ∈ (i.evaluate domain record).queries, q.IsRoot) ↔
      ∃ outer asked v, Reaches i domain record outer asked v ∧ v.LeadsToRoot := by
    intro record
    constructor
    · rintro ⟨q, hq, root⟩
      exact exists_leadsToRoot i named hq root
    · rintro ⟨outer, asked, v, hv, leads⟩
      obtain ⟨q, hq, root⟩ := exists_isRoot_of_leadsToRoot leads
      exact ⟨q, hv.queries_subset hq, root⟩
  constructor
  · cases hp : Record.parse text with
    | error e => simp [validateText_of_parse_error hp]
    | ok record =>
      rw [validateText_of_parse hp, asks record]
      simp
  · rw [validate_eq]
    cases hp : i.resolver.policy domain with
    | error e =>
      have unpublished : ∀ record, ¬ i.resolver.Publishes domain record := fun record h => by
        rw [Resolver.policy_eq_ok_iff.2 h] at hp
        cases hp
      simp [unpublished, Query.IsRoot, named]
    | ok record =>
      have published : ∀ record', i.resolver.Publishes domain record' ↔ record = record' := fun record' => by
        rw [← Resolver.policy_eq_ok_iff, hp, Except.ok.injEq]
      simp only [published, exists_and_left, exists_eq_left', ← asks record]
      simp [Query.IsRoot, named]

end Inquiry

/-- A domain with a name that publishes an `exists` without a value, and takes no mail. -/
def Zone.noMail : Zone where
  txt := [("a.example", ["v=spf1 exists mx -all"])]
  mx := [("a.example", [⟨0, ""⟩])]

namespace Inquiry

theorem exists_isRoot_iff_noMail :
    "a.example" ≠ "" ∧ ∃ record outer asked v, Zone.noMail.resolver.Publishes "a.example" record ∧
      Reaches (Zone.noMail.inquiry 10 0) "a.example" record outer asked v ∧ v.LeadsToRoot := by
  have asked : ((Zone.noMail.inquiry 10 0).validate "a.example").queries =
      [.txt "a.example", .ip "", .mx "a.example", .ip ""] := rfl
  have named : "a.example" ≠ "" := by decide
  refine ⟨named, ((exists_isRoot_iff (Zone.noMail.inquiry 10 0) "a.example" "" named).2).1 ⟨.ip "", ?_, rfl⟩⟩
  rw [asked]
  simp

/-- It is not so that a walk never asks the root: from a domain with a name, the question for an `exists` without a
value has no name, and neither has the one for a mail exchange without a name. -/
theorem not_forall_not_isRoot :
    ((Zone.noMail.inquiry 10 0).validate "a.example") =
      ⟨.ok .fail, [.txt "a.example", .ip "", .mx "a.example", .ip ""]⟩ ∧
    ¬ ∀ (i : Inquiry) (domain text : String), domain ≠ "" → 0 ≤ i.budget.depth.toInt →
      (∀ q ∈ (i.validateText domain text).queries, ¬ q.IsRoot) ∧ ∀ q ∈ (i.validate domain).queries, ¬ q.IsRoot := by
  have run : (Zone.noMail.inquiry 10 0).validate "a.example" =
      ⟨.ok .fail, [.txt "a.example", .ip "", .mx "a.example", .ip ""]⟩ := rfl
  refine ⟨run, fun never => ?_⟩
  have hn := (never (Zone.noMail.inquiry 10 0) "a.example" "" (by decide) (by decide)).2 (.ip "")
  rw [run] at hn
  exact hn (by simp) rfl

end Inquiry

end SenderPolicy
