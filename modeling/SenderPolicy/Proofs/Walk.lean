import SenderPolicy.Evaluation
import SenderPolicy.Zone

/-!
# Walks through nested policies

How a walk through policies goes, said once for all later statements.

- `firstVerdict_rel`: what is kept by one run after another is kept by the directives of a policy;
- `nesting_induction`: what is shown of an inquiry from the inquiry for nested policies holds of every inquiry;
- `nested_eq`, `validate_eq`: a nested policy is fetched, read and walked, if the budget allows one;
- `evaluate_of_split`, `evaluate_cases`: a walk passes over directives without a verdict and ends at the first other one;
- `mem_queries_evaluate_iff`: a walk asks what the directives ask that it comes to;
- `execute_error_cases`, `validate_error_cases`: how a directive and how a walk fails;
- `Reaches`: how a walk comes to a directive, through which enclosing directives and after which questions;
- `Reaches.evaluate_of_error`: an error of a directive that a walk comes to is the error of the walk;
- `Reaches.queries_subset`: what such a directive asks, the walk asks.
-/

namespace SenderPolicy

/-! ## Directives one after the other -/

/-- What holds of directives one by one, and is kept by one run after another, holds of them together. -/
theorem firstVerdict_rel {ε δ : Type} {P : Run ε Qualifier → Run δ Qualifier → Prop} (hp : ∀ q, P (pure q) (pure q))
    (hb : ∀ {x y f g}, P x y → (∀ q : Qualifier, P (f q) (g q)) → P (x >>= f) (y >>= g))
    {v : Directive → Run ε Qualifier} {w : Directive → Run δ Qualifier} {ds : List Directive}
    (h : ∀ d ∈ ds, P (v d) (w d)) : P (firstVerdict v ds) (firstVerdict w ds) := by
  induction ds with
  | nil => exact hp .none
  | cons d ds ih =>
    have rest := ih fun e he => h e (by simp [he])
    rw [firstVerdict, firstVerdict]
    refine hb (h d (by simp)) fun q => ?_
    split
    · exact rest
    · exact hp q

/-! ## Published policies -/

namespace Resolver

variable (r : Resolver)

/-- The policy of a domain: the first text at the domain that carries the mark, read. -/
def Publishes (domain : String) (record : Record) : Prop :=
  ∃ texts text, r.txt domain = .ok texts ∧ texts.find? Record.isMarked = some text ∧ Record.parse text = .ok record

/-- What is found where a policy is looked for. -/
def policy (domain : String) : Except Error Record := do
  let text ← (r.policyText domain).result
  Record.parse text

/-- The policy of a domain depends on nothing but the first text there that carries the mark. -/
theorem policy_eq (r : Resolver) (domain : String) :
    r.policy domain = (r.txt domain).map (List.find? Record.isMarked) >>= fun found =>
      found.elim (.error (.noPolicy domain)) Record.parse := by
  rw [policy, policyText, Run.result_bind]
  cases ht : r.txt domain with
  | error e => simp [askTxt, Run.ask, ht, bind, Except.bind, Except.map]
  | ok texts =>
    cases hf : texts.find? Record.isMarked <;>
      simp [askTxt, Run.ask, ht, hf, bind, Except.bind, Except.map, Run.fail, Run.ofExcept]

variable {r}

theorem policy_eq_ok_iff {domain : String} {record : Record} :
    r.policy domain = .ok record ↔ r.Publishes domain record := by
  rw [policy, Except.bind_eq_ok_iff]
  constructor
  · rintro ⟨text, h, hp⟩
    obtain ⟨texts, ht, hf⟩ := r.result_policyText_eq_ok_iff.1 h
    exact ⟨texts, text, ht, hf, hp⟩
  · rintro ⟨texts, text, ht, hf, hp⟩
    exact ⟨text, r.result_policyText_eq_ok_iff.2 ⟨texts, ht, hf⟩, hp⟩

/-- No policy is found where the question fails, where no text carries the mark, or where the first that does cannot be
read. -/
theorem policy_eq_error_iff {domain : String} {e : Error} :
    r.policy domain = .error e ↔ r.txt domain = .error e ∨ ∃ texts, r.txt domain = .ok texts ∧
      ((∀ t ∈ texts, Record.isMarked t = false) ∧ e = .noPolicy domain ∨
        ∃ text, texts.find? Record.isMarked = some text ∧ Record.parse text = .error e) := by
  rw [policy, Except.bind_eq_error_iff, result_policyText_eq_error_iff]
  constructor
  · rintro ((ht | ⟨texts, ht, hn⟩) | ⟨text, h, hp⟩)
    · exact .inl ht
    · exact .inr ⟨texts, ht, .inl hn⟩
    · obtain ⟨texts, ht, hf⟩ := r.result_policyText_eq_ok_iff.1 h
      exact .inr ⟨texts, ht, .inr ⟨text, hf, hp⟩⟩
  · rintro (ht | ⟨texts, ht, hn | ⟨text, hf, hp⟩⟩)
    · exact .inl (.inl ht)
    · exact .inl (.inr ⟨texts, ht, hn⟩)
    · exact .inr ⟨text, r.result_policyText_eq_ok_iff.2 ⟨texts, ht, hf⟩, hp⟩

end Resolver

/-! ## Tests -/

namespace Directive

variable {r : Resolver} {sender : Address} {publisher : String} {d : Directive}

/-- How a directive tests the sender itself. -/
theorem test?_cases {test : Run Error Bool} (h : d.test? r sender publisher = some test) :
    d.mechanism = .all ∧ test = pure true ∨
    (d.mechanism = .ip4 ∨ d.mechanism = .ip6) ∧ test = .ofExcept (matchesNetwork sender d.value) ∨
    d.mechanism = .a ∧ test = matchesAddress r sender (d.target publisher) ∨
    d.mechanism = .mx ∧ test = matchesExchange r sender (d.target publisher) ∨
    d.mechanism = .ptr ∧ test = matchesPointer r sender (d.target publisher) ∨
    d.mechanism = .exists ∧ test = matchesExists r sender d.value := by
  cases hm : d.mechanism <;> simp only [test?, hm, Option.some.injEq, reduceCtorEq] at h <;> simp [← h]

theorem test?_of_nests (h : d.nests = true) : d.test? r sender publisher = none := by
  simp only [nests, Bool.or_eq_true, decide_eq_true_eq] at h
  rcases h with h | h <;> simp only [test?, h]

theorem exists_test_of_not_nests (h : d.nests = false) (r : Resolver) (sender : Address) (publisher : String) :
    ∃ test, d.test? r sender publisher = some test := by
  simp only [nests, Bool.or_eq_false_iff, decide_eq_false_iff_not] at h
  rw [← Option.isSome_iff_exists]
  cases hm : d.mechanism with
  | «include» => exact absurd hm h.1
  | redirect => exact absurd hm h.2
  | all | ip4 | ip6 | a | mx | ptr | «exists» => simp only [test?, hm, Option.isSome_some]

end Directive

namespace Inquiry

variable (i : Inquiry)

/-! ## Nested policies -/

/-- The inquiry on behalf of a nested policy. -/
def deeper : Inquiry :=
  { i with budget := i.budget.spend, fuel := i.fuel - 1 }

/-- Whether a nested policy is looked at. -/
def CanNest : Prop :=
  i.levels ≠ 0 ∧ i.budget.depth ≠ 0

variable {i}

theorem levels_deeper (h : i.budget.depth ≠ 0) : i.deeper.levels = i.levels - 1 :=
  Budget.levels_spend h i.fuel

theorem levels_ne_zero_of_nonneg (h : 0 ≤ i.budget.depth.toInt) : i.levels ≠ 0 := by
  rw [levels, Budget.levels_of_nonneg h]
  omega

theorem toInt_deeper (limited : 0 ≤ i.budget.depth.toInt) (h : i.CanNest) :
    i.deeper.budget.depth.toInt = i.budget.depth.toInt - 1 := by
  have h₀ : i.budget.depth.toInt ≠ 0 := fun hz => h.2 (Budget.depth_eq_zero_iff.2 hz)
  exact Budget.toInt_spend_of_pos (b := i.budget) (by omega)

theorem limited_deeper (limited : 0 ≤ i.budget.depth.toInt) (h : i.CanNest) : 0 ≤ i.deeper.budget.depth.toInt := by
  have h₀ : i.budget.depth.toInt ≠ 0 := fun hz => h.2 (Budget.depth_eq_zero_iff.2 hz)
  have := toInt_deeper limited h
  omega

/-- Induction on the nesting of policies. -/
theorem nesting_induction {P : Inquiry → Prop} (step : ∀ i : Inquiry, (i.CanNest → P i.deeper) → P i) (i : Inquiry) :
    P i := by
  induction h : i.levels generalizing i with
  | zero => exact step i fun hc => absurd h hc.1
  | succ n ih => exact step i fun hc => ih i.deeper (by rw [levels_deeper hc.2, h]; rfl)

variable (i)

/-- A nested policy is validated with what is left of the budget. -/
theorem nested_eq (domain : String) :
    i.nested domain =
      if i.levels = 0 then .fail .unfinished
      else if i.budget.depth = 0 then .fail (.failure .tooDeep)
      else i.deeper.validate domain := by
  rw [nested]
  cases h : i.levels with
  | zero => rfl
  | succ n =>
    rw [consult_succ, if_neg (Nat.succ_ne_zero n)]
    split
    · rfl
    · rename_i hb
      rw [validate, levels_deeper hb, h]
      rfl

variable {i}

theorem nested_of_canNest (h : i.CanNest) (domain : String) : i.nested domain = i.deeper.validate domain := by
  rw [nested_eq, if_neg h.1, if_neg h.2]

theorem nested_of_spent (h : i.budget.depth = 0) (domain : String) : i.nested domain = .fail (.failure .tooDeep) := by
  have h₀ : i.budget.depth.toInt = 0 := Budget.depth_eq_zero_iff.1 h
  rw [nested_eq, if_neg (levels_ne_zero_of_nonneg (by omega)), if_pos h]

/-- What holds of failures, and of a nested policy where it is looked at, holds of what comes of nesting it. -/
theorem nested_rel {P : Run Halt Qualifier → Run Halt Qualifier → Prop} {i j : Inquiry} (budget : j.budget = i.budget)
    (fuel : j.fuel = i.fuel) (hf : ∀ h, P (.fail h) (.fail h)) {domain : String}
    (hn : i.CanNest → P (i.deeper.validate domain) (j.deeper.validate domain)) :
    P (i.nested domain) (j.nested domain) := by
  have levels : j.levels = i.levels := by rw [Inquiry.levels, Inquiry.levels, budget, fuel]
  rw [nested_eq, nested_eq, levels, budget]
  split
  · exact hf .unfinished
  · split
    · exact hf (.failure .tooDeep)
    · exact hn ⟨‹_›, ‹_›⟩

/-- Nothing is asked for a nested policy that is not looked at. -/
theorem queries_nested_of_not_canNest (h : ¬ i.CanNest) (domain : String) : (i.nested domain).queries = [] :=
  nested_rel (P := fun x _ => x.queries = []) (j := i) rfl rfl (fun _ => rfl) fun hc => absurd hc h

theorem canNest_of_ok {domain : String} {q : Qualifier} (h : (i.nested domain).result = .ok q) : i.CanNest := by
  rw [nested_eq] at h
  split at h
  · cases h
  · split at h
    · cases h
    · exact ⟨‹_›, ‹_›⟩

/-! ## Directives and policies -/

theorem execute_of_test {domain : String} {d : Directive} {test : Run Error Bool}
    (h : d.test? i.resolver i.sender domain = some test) : i.execute domain d = d.onMatch test := by
  rw [execute, SenderPolicy.execute, h]

theorem execute_of_nests {d : Directive} (h : d.nests = true) (domain : String) :
    i.execute domain d = d.onVerdict (i.nested d.value) := by
  rw [execute, SenderPolicy.execute, Directive.test?_of_nests h]

/-- The policy of a domain is looked for with one question; then it is walked. -/
theorem validate_eq (i : Inquiry) (domain : String) :
    i.validate domain =
      match i.resolver.policy domain with
      | .ok record => ⟨(i.evaluate domain record).result, .txt domain :: (i.evaluate domain record).queries⟩
      | .error e => ⟨.error (.failure e), [.txt domain]⟩ := by
  have hq := i.resolver.queries_policyText domain
  rw [validate, walkDomain, Resolver.policy]
  cases ht : (i.resolver.policyText domain).result with
  | error e =>
    rw [Run.bind_of_error (e := .failure e) (by rw [Run.result_mapError, ht]; rfl), Run.queries_mapError, hq]
    rfl
  | ok text =>
    rw [Run.bind_of_ok (a := text) (by rw [Run.result_mapError, ht]; rfl), Run.queries_mapError, hq, walkText]
    cases hp : Record.parse text with
    | error e =>
      rw [Run.bind_of_error (e := .failure e) rfl]
      simp only [bind, Except.bind, hp]
      rfl
    | ok record =>
      rw [Run.bind_of_ok (a := record) rfl]
      simp only [bind, Except.bind, hp]
      rfl

/-- The first question of a walk is the one for the policy of the domain. -/
theorem txt_mem_queries_validate (i : Inquiry) (domain : String) : .txt domain ∈ (i.validate domain).queries := by
  rw [validate_eq]
  split <;> simp

theorem validate_of_publishes {domain : String} {record : Record} (h : i.resolver.Publishes domain record) :
    i.validate domain =
      ⟨(i.evaluate domain record).result, .txt domain :: (i.evaluate domain record).queries⟩ := by
  rw [validate_eq, Resolver.policy_eq_ok_iff.2 h]

/-- A directive that nests a published policy asks for it and then what that policy asks. -/
theorem execute_of_publishes {d : Directive} {record : Record} (nests : d.nests = true) (canNest : i.CanNest)
    (published : i.resolver.Publishes d.value record) (domain : String) :
    i.execute domain d =
      ⟨(i.deeper.evaluate d.value record).result.map fun q => if q = .pass then d.qualifier else q,
        .txt d.value :: (i.deeper.evaluate d.value record).queries⟩ := by
  rw [execute_of_nests nests, nested_of_canNest canNest, Directive.onVerdict_eq,
    validate_of_publishes (i := i.deeper) published]

theorem validate_of_policy_error {domain : String} {e : Error} (h : i.resolver.policy domain = .error e) :
    i.validate domain = ⟨.error (.failure e), [.txt domain]⟩ := by
  rw [validate_eq, h]

theorem publishes_of_validate_ok {domain : String} {q : Qualifier} (h : (i.validate domain).result = .ok q) :
    ∃ record, i.resolver.Publishes domain record ∧ (i.evaluate domain record).result = .ok q := by
  rw [validate_eq] at h
  cases hp : i.resolver.policy domain with
  | error e => rw [hp] at h; cases h
  | ok record =>
    rw [hp] at h
    exact ⟨record, Resolver.policy_eq_ok_iff.1 hp, h⟩

theorem parse_of_validateText_ok {domain text : String} {q : Qualifier}
    (h : (i.validateText domain text).result = .ok q) :
    ∃ record, Record.parse text = .ok record ∧ (i.evaluate domain record).result = .ok q := by
  rw [validateText, walkText, Run.result_bind] at h
  obtain ⟨record, hp, he⟩ := Except.bind_eq_ok_iff.1 h
  exact ⟨record, Except.mapError_eq_ok_iff.1 hp, he⟩

theorem validateText_of_parse {domain text : String} {record : Record} (h : Record.parse text = .ok record) :
    i.validateText domain text = i.evaluate domain record := by
  rw [validateText, walkText, h]
  exact Run.pure_bind record _

theorem validateText_of_parse_error {domain text : String} {e : Error} (h : Record.parse text = .error e) :
    i.validateText domain text = ⟨.error (.failure e), []⟩ := by
  rw [validateText, walkText, h]
  rfl

/-- A directive that tests the sender itself depends on nothing else. -/
theorem execute_eq_of_not_nests {i j : Inquiry} (resolver : j.resolver = i.resolver) (sender : j.sender = i.sender)
    {d : Directive} (hd : d.nests = false) (publisher : String) : j.execute publisher d = i.execute publisher d := by
  obtain ⟨test, ht⟩ := Directive.exists_test_of_not_nests hd i.resolver i.sender publisher
  have ht' : d.test? j.resolver j.sender publisher = some test := by rw [resolver, sender, ht]
  rw [execute_of_test ht, execute_of_test ht']

/-! ## One policy -/

/-- What the directives of a policy ask. -/
def asks (i : Inquiry) (publisher : String) (ds : List Directive) : List Query :=
  ds.flatMap fun d => (i.execute publisher d).queries

theorem evaluate_eq (i : Inquiry) (publisher : String) (record : Record) :
    i.evaluate publisher record = firstVerdict (i.execute publisher) record.directives := rfl

/-- A walk ends at the first directive with a verdict or an error. -/
theorem evaluate_of_split {publisher : String} {record : Record} {before after : List Directive} {d : Directive}
    (split : record.directives = before ++ d :: after)
    (missed : ∀ e ∈ before, (i.execute publisher e).result = .ok .none)
    (stop : (i.execute publisher d).result ≠ .ok .none) :
    i.evaluate publisher record =
      ⟨(i.execute publisher d).result, i.asks publisher before ++ (i.execute publisher d).queries⟩ := by
  rw [evaluate_eq, split, firstVerdict_append missed, firstVerdict_cons_of_ne stop]
  rfl

/-- How a walk of one policy goes: it passes over all directives, or it ends at the first one with a verdict or an
error. -/
theorem evaluate_cases (i : Inquiry) (publisher : String) (record : Record) :
    ((∀ d ∈ record.directives, (i.execute publisher d).result = .ok .none) ∧
      i.evaluate publisher record = ⟨.ok .none, i.asks publisher record.directives⟩) ∨
    ∃ before d after, record.directives = before ++ d :: after ∧
      (∀ e ∈ before, (i.execute publisher e).result = .ok .none) ∧
      (i.execute publisher d).result ≠ .ok .none ∧
      i.evaluate publisher record =
        ⟨(i.execute publisher d).result, i.asks publisher before ++ (i.execute publisher d).queries⟩ := by
  rcases forall_or_exists_first (i.execute publisher) record.directives with h | ⟨before, d, after, hs, hb, hd⟩
  · exact .inl ⟨h, firstVerdict_of_forall h⟩
  · exact .inr ⟨before, d, after, hs, hb, hd, evaluate_of_split hs hb hd⟩

/-- A walk asks what the first directives of the policy ask, up to one of them. -/
theorem exists_queries_evaluate_eq_asks (i : Inquiry) (publisher : String) (record : Record) :
    ∃ reached, reached <+: record.directives ∧ (i.evaluate publisher record).queries = i.asks publisher reached := by
  rcases i.evaluate_cases publisher record with ⟨-, he⟩ | ⟨before, d, after, split, -, -, he⟩
  · exact ⟨record.directives, List.prefix_refl _, by rw [he]⟩
  · refine ⟨before ++ [d], ⟨after, by rw [split]; simp⟩, ?_⟩
    rw [he]
    simp [asks]

/-- What directives ask that have no verdict is asked by one of them, and those in front have no verdict. -/
theorem exists_split_of_mem_asks {publisher : String} {ds : List Directive} {q : Query}
    (missed : ∀ e ∈ ds, (i.execute publisher e).result = .ok .none) (hq : q ∈ i.asks publisher ds) :
    ∃ before d after, ds = before ++ d :: after ∧ (∀ e ∈ before, (i.execute publisher e).result = .ok .none) ∧
      q ∈ (i.execute publisher d).queries := by
  obtain ⟨d, hd, hasked⟩ := List.mem_flatMap.1 hq
  obtain ⟨before, after, rfl⟩ := List.append_of_mem hd
  exact ⟨before, d, after, rfl, fun e he => missed e (by simp [he]), hasked⟩

/-- A walk asks what the directives ask that it comes to. -/
theorem mem_queries_evaluate_iff {publisher : String} {record : Record} {q : Query} :
    q ∈ (i.evaluate publisher record).queries ↔ ∃ before d after, record.directives = before ++ d :: after ∧
      (∀ e ∈ before, (i.execute publisher e).result = .ok .none) ∧ q ∈ (i.execute publisher d).queries := by
  constructor
  · intro hq
    rcases i.evaluate_cases publisher record with ⟨missed, he⟩ | ⟨before, d, after, split, missed, -, he⟩
    · rw [he] at hq
      exact exists_split_of_mem_asks missed hq
    · rw [he] at hq
      rcases List.mem_append.1 hq with hq | hq
      · obtain ⟨front, c, back, rfl, hfront, hc⟩ := exists_split_of_mem_asks missed hq
        exact ⟨front, c, back ++ d :: after, by rw [split]; simp, hfront, hc⟩
      · exact ⟨before, d, after, split, missed, hq⟩
  · rintro ⟨before, d, after, split, missed, hq⟩
    rw [evaluate_eq, split, firstVerdict_append missed]
    refine List.mem_append_right _ ?_
    rw [firstVerdict, Run.queries_bind]
    exact List.mem_append_left _ hq

/-! ## Errors -/

/-- How a directive fails: by its own test, because its policy is nested too deep, or by that policy. -/
theorem execute_error_cases {publisher : String} {d : Directive} {h : Halt}
    (he : (i.execute publisher d).result = .error h) :
    (∃ test e, d.test? i.resolver i.sender publisher = some test ∧ test.result = .error e ∧ h = .failure e ∧
      (i.execute publisher d).queries = test.queries) ∨
    d.nests = true ∧
      (i.levels = 0 ∧ h = .unfinished ∨
        i.budget.depth = 0 ∧ h = .failure .tooDeep ∨
        i.CanNest ∧ (i.deeper.validate d.value).result = .error h ∧
          (i.execute publisher d).queries = (i.deeper.validate d.value).queries) := by
  cases hd : d.nests with
  | false =>
    obtain ⟨test, ht⟩ := Directive.exists_test_of_not_nests hd i.resolver i.sender publisher
    rw [execute_of_test ht, Directive.onMatch_eq] at he ⊢
    obtain ⟨e, hr, rfl⟩ := Except.mapError_eq_error_iff.1 he
    exact .inl ⟨test, e, ht, Except.map_eq_error_iff.1 hr, rfl, rfl⟩
  | true =>
    refine .inr ⟨rfl, ?_⟩
    rw [execute_of_nests hd, Directive.onVerdict_eq] at he ⊢
    have hn := Except.map_eq_error_iff.1 he
    by_cases hl : i.levels = 0
    · rw [nested_eq, if_pos hl] at hn
      cases hn
      exact .inl ⟨hl, rfl⟩
    by_cases hb : i.budget.depth = 0
    · rw [nested_of_spent hb] at hn
      cases hn
      exact .inr (.inl ⟨hb, rfl⟩)
    rw [nested_of_canNest ⟨hl, hb⟩] at hn ⊢
    exact .inr (.inr ⟨⟨hl, hb⟩, hn, rfl⟩)

/-- How a walk fails: there is no policy that can be read, or a directive fails and those in front have no
verdict. -/
theorem validate_error_cases {domain : String} {h : Halt} (he : (i.validate domain).result = .error h) :
    (∃ e, i.resolver.policy domain = .error e ∧ h = .failure e ∧ (i.validate domain).queries = [.txt domain]) ∨
    ∃ record before d after, i.resolver.Publishes domain record ∧ record.directives = before ++ d :: after ∧
      (∀ e ∈ before, (i.execute domain e).result = .ok .none) ∧ (i.execute domain d).result = .error h ∧
      (i.validate domain).queries = .txt domain :: (i.asks domain before ++ (i.execute domain d).queries) := by
  cases hp : i.resolver.policy domain with
  | error e =>
    rw [validate_of_policy_error hp] at he ⊢
    cases he
    exact .inl ⟨e, rfl, rfl, rfl⟩
  | ok record =>
    have published := Resolver.policy_eq_ok_iff.1 hp
    rw [validate_of_publishes published] at he ⊢
    rcases i.evaluate_cases domain record with ⟨-, hv⟩ | ⟨before, d, after, split, missed, -, hv⟩
    · rw [hv] at he
      cases he
    · rw [hv] at he ⊢
      exact .inr ⟨record, before, d, after, published, split, missed, he, rfl⟩

end Inquiry

/-! ## The way to a directive -/

/-- A directive that a walk has come to. -/
structure Visit where
  /-- The inquiry with what is left of the budget. -/
  inquiry : Inquiry
  /-- The domain that publishes the directive. -/
  publisher : String
  directive : Directive

/-- What comes of the directive. -/
def Visit.run (v : Visit) : Run Halt Qualifier :=
  v.inquiry.execute v.publisher v.directive

/-- A walk comes to a directive: through the `outer` directives, from the outside to the inside, and after the
questions `asked`. In each policy on the way the directives in front have no verdict. -/
inductive Reaches : Inquiry → String → Record → (outer : List Directive) → (asked : List Query) → Visit → Prop
  | here {i : Inquiry} {publisher : String} {record : Record} {before after : List Directive} {d : Directive}
      (split : record.directives = before ++ d :: after)
      (missed : ∀ e ∈ before, (i.execute publisher e).result = .ok .none) :
      Reaches i publisher record [] (i.asks publisher before) ⟨i, publisher, d⟩
  | inside {i : Inquiry} {publisher : String} {record nested : Record} {before after outer : List Directive}
      {d : Directive} {asked : List Query} {v : Visit}
      (split : record.directives = before ++ d :: after)
      (missed : ∀ e ∈ before, (i.execute publisher e).result = .ok .none)
      (nests : d.nests = true) (canNest : i.CanNest) (published : i.resolver.Publishes d.value nested)
      (inner : Reaches i.deeper d.value nested outer asked v) :
      Reaches i publisher record (d :: outer) (i.asks publisher before ++ .txt d.value :: asked) v

namespace Reaches

variable {i : Inquiry} {publisher : String} {record : Record} {outer : List Directive} {asked : List Query} {v : Visit}

/-- Each enclosing directive takes one level of a limited budget. -/
theorem depth (h : Reaches i publisher record outer asked v) (hb : 0 ≤ i.budget.depth.toInt) :
    v.inquiry.budget.depth.toInt + outer.length = i.budget.depth.toInt ∧ 0 ≤ v.inquiry.budget.depth.toInt := by
  induction h with
  | here => simpa using hb
  | @inside i _ _ _ _ _ _ _ _ _ _ _ _ canNest _ _ ih =>
    have hd := Inquiry.toInt_deeper hb canNest
    obtain ⟨hl, hn⟩ := ih (Inquiry.limited_deeper hb canNest)
    simp only [List.length_cons]
    omega

/-- An error of a directive that a walk comes to is the error of the walk, and nothing is asked behind it. -/
theorem evaluate_of_error (h : Reaches i publisher record outer asked v) {e : Halt} (hv : v.run.result = .error e) :
    i.evaluate publisher record = ⟨.error e, asked ++ v.run.queries⟩ := by
  induction h with
  | @here i publisher _ before _ d split missed =>
    have he : (i.execute publisher d).result = .error e := hv
    rw [Inquiry.evaluate_of_split split missed (by rw [he]; simp), he]
    rfl
  | @inside i publisher _ _ before _ _ d asked v split missed nests canNest published _ ih =>
    -- the enclosing directive fails with the policy that it nests, after the question for that policy
    have hx : i.execute publisher d = ⟨.error e, .txt d.value :: (asked ++ v.run.queries)⟩ := by
      rw [Inquiry.execute_of_publishes nests canNest published, ih hv]
      rfl
    rw [Inquiry.evaluate_of_split split missed (by rw [hx]; simp), hx]
    simp

/-- What a directive asks that a walk comes to, the walk asks. -/
theorem queries_subset (h : Reaches i publisher record outer asked v) :
    v.run.queries ⊆ (i.evaluate publisher record).queries := by
  induction h with
  | here split missed =>
    intro q hq
    exact Inquiry.mem_queries_evaluate_iff.2 ⟨_, _, _, split, missed, hq⟩
  | inside split missed nests canNest published _ ih =>
    intro q hq
    refine Inquiry.mem_queries_evaluate_iff.2 ⟨_, _, _, split, missed, ?_⟩
    rw [Inquiry.execute_of_publishes nests canNest published]
    exact List.mem_cons_of_mem _ (ih hq)

end Reaches

/-! ## Three policies -/

/-- The policies of three domains, each but the last nesting the next one. -/
def Zone.chain : Zone where
  txt := [("a.example", ["v=spf1 mx ?include:b.example -all"]), ("b.example", ["v=spf1 redirect=c.example"]),
    ("c.example", ["v=spf1 -ip6:::/0 ip4:192.0.2.0/24 -all"])]

/-- What the three domains publish, and no other domain publishes anything. -/
theorem Zone.publishes_chain {domain : String} {record : Record} (published : chain.resolver.Publishes domain record) :
    domain = "a.example" ∧ record = ⟨[⟨.pass, .mx, ""⟩, ⟨.neutral, .include, "b.example"⟩, ⟨.fail, .all, ""⟩]⟩ ∨
      domain = "b.example" ∧ record = ⟨[⟨.pass, .redirect, "c.example"⟩]⟩ ∨
      domain = "c.example" ∧ record = ⟨[⟨.fail, .ip6, "::/0"⟩, ⟨.pass, .ip4, "192.0.2.0/24"⟩, ⟨.fail, .all, ""⟩]⟩ := by
  have hp := Resolver.policy_eq_ok_iff.2 published
  by_cases ha : domain = "a.example"
  · subst ha
    exact .inl ⟨rfl, Except.ok.inj (hp.symm.trans rfl)⟩
  by_cases hb : domain = "b.example"
  · subst hb
    exact .inr (.inl ⟨rfl, Except.ok.inj (hp.symm.trans rfl)⟩)
  by_cases hc : domain = "c.example"
  · subst hc
    exact .inr (.inr ⟨rfl, Except.ok.inj (hp.symm.trans rfl)⟩)
  · obtain ⟨texts, text, ht, hf, -⟩ := published
    have unknown : chain.txt.lookup domain = none := by
      simp only [chain, List.lookup_cons, List.lookup_nil, beq_eq_false_iff_ne.2 ha, beq_eq_false_iff_ne.2 hb,
        beq_eq_false_iff_ne.2 hc]
    have answer : chain.resolver.txt domain = .ok [] := by
      show Except.ok ((chain.txt.lookup domain).getD []) = _
      rw [unknown]
      rfl
    rw [answer] at ht
    cases ht
    cases hf

/-- A zone asked on behalf of the sender 192.0.2.1. -/
def Zone.inquiry (z : Zone) (depth : Int) (fuel : Nat) : Inquiry :=
  ⟨z.resolver, .v4 0xC0000201#32, .ofInt depth, fuel⟩

end SenderPolicy
