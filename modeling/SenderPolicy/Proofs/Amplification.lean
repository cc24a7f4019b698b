import Mathlib.Algebra.BigOperators.Intervals
import Mathlib.Algebra.Order.BigOperators.Group.List
import Mathlib.Tactic.Ring
import SenderPolicy.Proofs.Canonical
import SenderPolicy.Proofs.Failure

/-!
# How many questions a policy costs

A directive asks two questions at most, or one for a nested policy and then those of that policy. So the number of
questions grows with the depth of the nesting like a power of the number of directives, also where policies are nested in
each other. There are policies that cost so much: in a tower of them every directive misses, so that all are tried.

- `mostQuestions`: the number of questions, `2 l ^ (d + 1) + l ^ d + ... + l`;
- `length_queries_evaluate_le`: no walk asks more;
- `Tower.evaluate_policy`: a walk through a tower of policies asks so many;
- `length_queries_le_and_attained`: both.
-/

namespace SenderPolicy

open Finset

/-! ## The number of questions -/

/-- The most questions that a policy costs, where policies have at most `l` directives and are nested at most `d`
deep. -/
def mostQuestions (l d : Nat) : Nat :=
  2 * l ^ (d + 1) + ∑ k ∈ Icc 1 d, l ^ k

example : mostQuestions 3 2 = 66 := rfl

theorem mostQuestions_zero (l : Nat) : mostQuestions l 0 = l * 2 := by
  simp [mostQuestions, Nat.mul_comm]

theorem sum_powers_succ (l d : Nat) : ∑ k ∈ Icc 1 (d + 1), l ^ k = l * (1 + ∑ k ∈ Icc 1 d, l ^ k) := by
  induction d with
  | zero => simp
  | succ d ih =>
    calc ∑ k ∈ Icc 1 (d + 1 + 1), l ^ k
      _ = l * (1 + ∑ k ∈ Icc 1 d, l ^ k) + l ^ (d + 1 + 1) := by rw [sum_Icc_succ_top (by omega), ih]
      _ = l * (1 + (∑ k ∈ Icc 1 d, l ^ k + l ^ (d + 1))) := by ring
      _ = l * (1 + ∑ k ∈ Icc 1 (d + 1), l ^ k) := by rw [sum_Icc_succ_top (by omega)]

/-- One level more costs, for each directive, a question and what the level below costs. -/
theorem mostQuestions_succ (l d : Nat) : mostQuestions l (d + 1) = l * (1 + mostQuestions l d) := by
  rw [mostQuestions, mostQuestions, sum_powers_succ]
  ring

theorem le_mostQuestions {l : Nat} (pos : 1 ≤ l) (d : Nat) : 1 ≤ mostQuestions l d := by
  have : 1 ≤ l ^ (d + 1) := Nat.one_le_pow _ _ pos
  unfold mostQuestions
  omega

/-! ## No walk asks more -/

/-- The test of a directive asks at most two questions. -/
theorem Directive.length_queries_test_le {r : Resolver} {sender : Address} {publisher : String} {d : Directive}
    {test : Run Error Bool} (h : d.test? r sender publisher = some test) : test.queries.length ≤ 2 := by
  rcases test?_cases h with ⟨-, rfl⟩ | ⟨-, rfl⟩ | ⟨-, rfl⟩ | ⟨-, rfl⟩ | ⟨-, rfl⟩ | ⟨-, rfl⟩
  · simp
  · simp
  · rw [matchesAddress_eq]
    simp
  · rw [matchesExchange_eq]
    cases r.mx (d.target publisher) with
    | error e => simp
    | ok answers =>
      cases answers with
      | nil => simp
      | cons mx others =>
        simp [queries_matchesAddress]
  · rw [matchesPointer_eq]
    simp
  · rw [matchesExists_eq]
    simp

namespace Inquiry

/-- A walk meets only policies of at most `l` directives: the record at hand, and each policy that it asks for. -/
def MeetsAtMost (i : Inquiry) (l : Nat) (publisher : String) (record : Record) : Prop :=
  record.directives.length ≤ l ∧ ∀ name nested, .txt name ∈ (i.evaluate publisher record).queries →
    i.resolver.Publishes name nested → nested.directives.length ≤ l

variable {i : Inquiry} {l : Nat} {publisher : String} {record : Record}

/-- With a limit on the nesting the walk of a record comes to an end. -/
theorem evaluate_ne_unfinished (limited : 0 ≤ i.budget.depth.toInt) (publisher : String) (record : Record) :
    (i.evaluate publisher record).result ≠ .error .unfinished := by
  intro he
  rcases i.evaluate_cases publisher record with ⟨-, hv⟩ | ⟨before, d, after, -, -, -, hv⟩
  · rw [hv] at he
    cases he
  · rw [hv] at he
    rcases execute_error_cases he with ⟨_, _, -, -, h, -⟩ | ⟨-, ⟨hl, -⟩ | ⟨-, h⟩ | ⟨canNest, hr, -⟩⟩
    · cases h
    · exact levels_ne_zero_of_nonneg limited hl
    · cases h
    · exact i.deeper.validate_ne_unfinished (limited_deeper limited canNest) d.value hr

/-- The walk of a nested policy meets only policies that the whole walk meets. -/
theorem MeetsAtMost.deeper (h : i.MeetsAtMost l publisher record) {d : Directive} {nested : Record}
    (asked : (i.execute publisher d).queries ⊆ (i.evaluate publisher record).queries) (nests : d.nests = true)
    (canNest : i.CanNest) (published : i.resolver.Publishes d.value nested) :
    i.deeper.MeetsAtMost l d.value nested := by
  rw [execute_of_publishes nests canNest published] at asked
  refine ⟨h.2 d.value nested (asked (by simp)) published, fun name inner hq hp => ?_⟩
  exact h.2 name inner (asked (List.mem_cons_of_mem _ hq)) hp

/-- Directives that ask at most `m` questions each ask at most so many together. -/
theorem length_asks_le {ds : List Directive} {m : Nat} (h : ∀ d ∈ ds, (i.execute publisher d).queries.length ≤ m) :
    (i.asks publisher ds).length ≤ ds.length * m := by
  induction ds with
  | nil => simp [asks]
  | cons d ds ih =>
    have first := h d (by simp)
    have rest : (i.asks publisher ds).length ≤ ds.length * m := ih fun e he => h e (by simp [he])
    have split : i.asks publisher (d :: ds) = (i.execute publisher d).queries ++ i.asks publisher ds := rfl
    rw [split, List.length_append, List.length_cons, Nat.add_mul]
    omega

/-- What each directive of a policy may cost: two questions, or one and what the nested policy costs. -/
theorem exists_share (limited : 0 ≤ i.budget.depth.toInt) (pos : 1 ≤ l) :
    ∃ m, mostQuestions l i.budget.depth.toInt.toNat = l * m ∧ 2 ≤ m ∧
      (i.CanNest → m = 1 + mostQuestions l i.deeper.budget.depth.toInt.toNat) := by
  cases hd : i.budget.depth.toInt.toNat with
  | zero =>
    refine ⟨2, mostQuestions_zero l, Nat.le_refl 2, fun canNest => ?_⟩
    exact absurd (Budget.depth_eq_zero_iff.2 (by omega)) canNest.2
  | succ d =>
    have below := le_mostQuestions pos d
    refine ⟨1 + mostQuestions l d, mostQuestions_succ l d, by omega, fun canNest => ?_⟩
    have hb := toInt_deeper limited canNest
    have hn : i.deeper.budget.depth.toInt.toNat = d := by omega
    rw [hn]

/-- A directive asks at most `m` questions if the policies nested in it leave one for themselves. -/
theorem length_queries_execute_le {d : Directive} {m : Nat} (two : 2 ≤ m)
    (inner : ∀ nested, d.nests = true → i.CanNest → i.resolver.Publishes d.value nested →
      (i.deeper.evaluate d.value nested).queries.length + 1 ≤ m) : (i.execute publisher d).queries.length ≤ m := by
  cases nests : d.nests with
  | false =>
    obtain ⟨test, ht⟩ := Directive.exists_test_of_not_nests nests i.resolver i.sender publisher
    have := Directive.length_queries_test_le ht
    rw [execute_of_test ht, Directive.onMatch_eq]
    show test.queries.length ≤ m
    omega
  | true =>
    by_cases canNest : i.CanNest
    · cases hp : i.deeper.resolver.policy d.value with
      | error e =>
        rw [execute_of_nests nests, nested_of_canNest canNest, validate_of_policy_error hp, Directive.onVerdict_eq]
        show 1 ≤ m
        omega
      | ok nested =>
        have published : i.resolver.Publishes d.value nested := Resolver.policy_eq_ok_iff.1 hp
        rw [execute_of_publishes nests canNest published]
        exact inner nested nests canNest published
    · rw [execute_of_nests nests, Directive.onVerdict_eq]
      simp [queries_nested_of_not_canNest canNest]

/-- No walk asks more questions. -/
theorem length_queries_evaluate_le (i : Inquiry) : ∀ {publisher : String} {record : Record},
    0 ≤ i.budget.depth.toInt → 1 ≤ l → i.MeetsAtMost l publisher record →
      (i.evaluate publisher record).queries.length ≤ mostQuestions l i.budget.depth.toInt.toNat := by
  induction i using nesting_induction with
  | step i ih =>
    intro publisher record limited pos small
    obtain ⟨m, hm, two, nest⟩ := exists_share limited pos
    obtain ⟨reached, hreached, hq⟩ := i.exists_queries_evaluate_eq_asks publisher record
    have each : ∀ d ∈ reached, (i.execute publisher d).queries.length ≤ m := by
      intro d hd
      have asked : (i.execute publisher d).queries ⊆ (i.evaluate publisher record).queries := by
        rw [hq]
        exact fun q h => List.mem_flatMap.2 ⟨d, hd, h⟩
      apply length_queries_execute_le two
      intro nested nests canNest published
      have inner := ih canNest (limited_deeper limited canNest) pos (small.deeper asked nests canNest published)
      rw [nest canNest]
      omega
    calc (i.evaluate publisher record).queries.length
      _ = (i.asks publisher reached).length := by rw [hq]
      _ ≤ reached.length * m := length_asks_le each
      _ ≤ l * m := Nat.mul_le_mul_right m (hreached.length_le.trans small.1)
      _ = mostQuestions l i.budget.depth.toInt.toNat := hm.symm

end Inquiry

/-! ## A tower of policies -/

namespace Tower

/-- The name of the policy with `k` levels below it. -/
def name (k : Nat) : String :=
  String.ofList (List.replicate (k + 1) 'a')

/-- The policy with `k` levels below it: each directive nests the policy one level below; on the ground each asks for a
mail exchange. -/
def policy (l : Nat) : Nat → Record
  | 0 => ⟨List.replicate l ⟨.pass, .mx, name 0⟩⟩
  | k + 1 => ⟨List.replicate l ⟨.pass, .include, name k⟩⟩

/-- A name service with a policy for each level, at the name of that length; a mail exchange has no address. -/
def resolver (l : Nat) : Resolver where
  txt n := .ok [(policy l (n.toList.length - 1)).text]
  ip _ := .ok []
  mx _ := .ok [⟨0, name 0⟩]
  ptr _ := .ok []

variable {l : Nat}

theorem length_policy (k : Nat) : (policy l k).directives.length = l := by
  cases k <;> simp [policy]

theorem isCanonical_policy (k : Nat) : (policy l k).IsCanonical := by
  have plain : ∀ k, ∀ c ∈ (name k).toList, c ≠ ' ' ∧ c ≠ '\r' ∧ c ≠ '\n' := by
    intro k c hc
    rw [name, String.toList_ofList] at hc
    rw [List.eq_of_mem_replicate hc]
    decide
  refine ⟨(policy l k).directives, [], by simp, ?_, ?_, by simp, by simp⟩
  · intro d hd
    cases k with
    | zero => rw [List.eq_of_mem_replicate hd]; exact plain 0
    | succ k => rw [List.eq_of_mem_replicate hd]; exact plain k
  · intro d hd
    cases k with
    | zero => rw [List.eq_of_mem_replicate hd]; decide
    | succ k => rw [List.eq_of_mem_replicate hd]; simp

theorem publishes (n : String) : (resolver l).Publishes n (policy l (n.toList.length - 1)) := by
  refine ⟨_, _, rfl, ?_, (isCanonical_policy _).parse_text⟩
  exact List.find?_cons_of_pos (Record.isMarked_text _)

theorem publishes_name (k : Nat) : (resolver l).Publishes (name k) (policy l k) := by
  have h := publishes (l := l) (name k)
  rwa [name, String.toList_ofList, List.length_replicate, Nat.add_sub_cancel] at h

theorem length_of_publishes {n : String} {record : Record} (h : (resolver l).Publishes n record) :
    record.directives.length = l := by
  have same := (Resolver.policy_eq_ok_iff.2 (publishes (l := l) n)).symm.trans (Resolver.policy_eq_ok_iff.2 h)
  rw [← Except.ok.inj same, length_policy]

/-- On the ground, each directive asks two questions and misses. -/
theorem execute_mx {i : Inquiry} (hi : i.resolver = resolver l) (publisher : String) :
    i.execute publisher ⟨.pass, .mx, name 0⟩ = ⟨.ok .none, [.mx (name 0), .ip (name 0)]⟩ := by
  obtain ⟨r, sender, b, fuel⟩ := i
  obtain rfl : r = resolver l := hi
  have ht : (⟨.pass, .mx, name 0⟩ : Directive).test? (resolver l) sender publisher =
      some (matchesExchange (resolver l) sender (name 0)) := rfl
  rw [Inquiry.execute_of_test ht, Directive.onMatch_eq, matchesExchange_eq]
  rfl

/-- A directive that misses, repeated, asks its questions each time. -/
theorem evaluate_replicate {i : Inquiry} {publisher : String} {record : Record} {e : Directive} {qs : List Query}
    (hr : record.directives = List.replicate l e) (he : i.execute publisher e = ⟨.ok .none, qs⟩) :
    (i.evaluate publisher record).result = .ok .none ∧
      (i.evaluate publisher record).queries.length = l * qs.length := by
  have missed : ∀ c ∈ record.directives, (i.execute publisher c).result = .ok .none := by
    intro c hc
    rw [hr] at hc
    rw [List.eq_of_mem_replicate hc, he]
  rw [Inquiry.evaluate_eq, firstVerdict_of_forall missed, hr]
  simp [he]

/-- A walk through the tower asks the most questions, and all directives miss. -/
theorem evaluate_policy (d : Nat) : ∀ {i : Inquiry}, i.resolver = resolver l → i.budget.depth.toInt = d →
    ∀ publisher, (i.evaluate publisher (policy l d)).result = .ok .none ∧
      (i.evaluate publisher (policy l d)).queries.length = mostQuestions l d := by
  induction d with
  | zero =>
    intro i hi hb publisher
    have flat : (policy l 0).directives = List.replicate l ⟨.pass, .mx, name 0⟩ := rfl
    obtain ⟨hr, hq⟩ := evaluate_replicate flat (execute_mx hi publisher)
    exact ⟨hr, by rw [hq, mostQuestions_zero]; rfl⟩
  | succ d ih =>
    intro i hi hb publisher
    have canNest : i.CanNest :=
      ⟨Inquiry.levels_ne_zero_of_nonneg (by omega), fun hz => by have := Budget.depth_eq_zero_iff.1 hz; omega⟩
    have hd : i.deeper.budget.depth.toInt = d := by rw [Inquiry.toInt_deeper (by omega) canNest, hb]; simp
    obtain ⟨below, hl⟩ := ih (i := i.deeper) hi hd (name d)
    have published : i.resolver.Publishes (name d) (policy l d) := hi ▸ publishes_name d
    have each := Inquiry.execute_of_publishes (d := ⟨.pass, .include, name d⟩) rfl canNest published publisher
    rw [below] at each
    have flat : (policy l (d + 1)).directives = List.replicate l ⟨.pass, .include, name d⟩ := rfl
    obtain ⟨hr, hq⟩ := evaluate_replicate flat each
    refine ⟨hr, ?_⟩
    rw [hq, List.length_cons, hl, mostQuestions_succ, Nat.add_comm]

end Tower

namespace Inquiry

/-- **What a policy costs, and no less.** With a limit `d` on the nesting, where every policy that a walk meets has at most
`l` directives, the walk comes to an end after at most `2 l ^ (d + 1) + l ^ d + ... + l` questions; and there is such a walk
with exactly so many. -/
theorem length_queries_le_and_attained (l : Nat) (b : Budget) (pos : 1 ≤ l) (limited : 0 ≤ b.depth.toInt) :
    (∀ r sender fuel publisher record, (Inquiry.mk r sender b fuel).MeetsAtMost l publisher record →
      ((Inquiry.mk r sender b fuel).evaluate publisher record).result ≠ .error .unfinished ∧
      ((Inquiry.mk r sender b fuel).evaluate publisher record).queries.length ≤
        mostQuestions l b.depth.toInt.toNat) ∧
    ∃ r record, ∀ sender fuel publisher, (Inquiry.mk r sender b fuel).MeetsAtMost l publisher record ∧
      ((Inquiry.mk r sender b fuel).evaluate publisher record).queries.length =
        mostQuestions l b.depth.toInt.toNat := by
  constructor
  · intro r sender fuel publisher record small
    exact ⟨evaluate_ne_unfinished (i := ⟨r, sender, b, fuel⟩) limited publisher record,
      length_queries_evaluate_le ⟨r, sender, b, fuel⟩ limited pos small⟩
  · refine ⟨Tower.resolver l, Tower.policy l b.depth.toInt.toNat, fun sender fuel publisher => ⟨⟨?_, ?_⟩, ?_⟩⟩
    · exact (Tower.length_policy _).le
    · intro name nested _ published
      exact (Tower.length_of_publishes published).le
    · exact (Tower.evaluate_policy _ (i := ⟨Tower.resolver l, sender, b, fuel⟩) rfl
        (Int.toNat_of_nonneg limited).symm publisher).2

end Inquiry

/-- A domain of which the policy nests itself. -/
def Zone.cycle : Zone where
  txt := [("a.example", ["v=spf1 mx include:a.example -all"])]

/-- The policy of that domain. -/
def Record.cycle : Record :=
  ⟨[⟨.pass, .mx, ""⟩, ⟨.pass, .include, "a.example"⟩, ⟨.fail, .all, ""⟩]⟩

namespace Inquiry

theorem length_queries_le_and_attained_cycle :
    ((Zone.cycle.inquiry 2 0).evaluate "a.example" Record.cycle).queries =
        [.mx "a.example", .txt "a.example", .mx "a.example", .txt "a.example", .mx "a.example"] ∧
    ((Zone.cycle.inquiry 2 0).evaluate "a.example" Record.cycle).queries.length ≤ mostQuestions 3 2 ∧
    ∃ r record, ((Inquiry.mk r (.v4 0xC0000201#32) (.ofInt 2) 0).evaluate "a.example" record).queries.length =
      mostQuestions 3 2 := by
  obtain ⟨most, r, record, attained⟩ := length_queries_le_and_attained 3 (.ofInt 2) (by decide) (by decide)
  have small : (Zone.cycle.inquiry 2 0).MeetsAtMost 3 "a.example" Record.cycle := by
    refine ⟨by decide, fun name nested hq published => ?_⟩
    have asked : .txt name ∈ [Query.mx "a.example", .txt "a.example", .mx "a.example", .txt "a.example",
        .mx "a.example"] := hq
    obtain rfl : name = "a.example" := by simpa using asked
    obtain rfl : nested = Record.cycle :=
      Except.ok.inj ((Resolver.policy_eq_ok_iff.2 published).symm.trans rfl)
    decide
  exact ⟨rfl, (most _ _ 0 "a.example" _ small).2, r, record, (attained _ _ _).2⟩

end Inquiry

end SenderPolicy
