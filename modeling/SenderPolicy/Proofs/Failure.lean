import SenderPolicy.Proofs.Walk

/-!
# Where errors come from

Every error of a walk has a cause, and every cause is an error of the walk: a question that fails ends it, and so does a
domain without a policy that can be read. Without such an answer only a value that is no network or a policy nested too
deep ends a walk with an error.

- `Run.Heeds`: a run ends at the first answer that is bad, with its error;
- `heeds_validate`: a walk ends at the first question that fails and at the first domain without a readable policy;
- `exists_spoils_or_raises`: an error of a walk comes from the answer to a question or from a directive;
- `validate_ne_unfinished`: with a limit on the nesting every walk comes to an end;
- `validate_failure`: errors are neither swallowed nor invented.
-/

namespace SenderPolicy

/-! ## Runs that heed bad answers -/

namespace Run

variable {ε δ α β : Type} {bad : Query → ε → Prop}

/-- A run ends at the first answer that is bad, with its error. -/
def Heeds (bad : Query → ε → Prop) (x : Run ε α) : Prop :=
  ∀ before q after e, x.queries = before ++ q :: after → bad q e → after = [] ∧ x.result = .error e

theorem heeds_of_no_queries {x : Run ε α} (h : x.queries = []) : x.Heeds bad := by
  intro before q after e hq
  rw [h] at hq
  simp at hq

theorem heeds_of_query {x : Run ε α} {q : Query} (h : x.queries = [q]) (hr : ∀ e, bad q e → x.result = .error e) :
    x.Heeds bad := by
  intro before p after e hq hb
  rw [h] at hq
  rcases before with _ | ⟨b, before⟩
  · obtain ⟨rfl, rfl⟩ := List.cons.inj hq
    exact ⟨rfl, hr e hb⟩
  · obtain ⟨-, hq⟩ := List.cons.inj hq
    simp at hq

/-- A run of one question, of which only the value is used further, heeds that question. -/
theorem heeds_of_answer {q : Query} {x : Except ε α} (f : α → β) (h : ∀ e, bad q e → x = .error e) :
    Heeds bad (⟨x.map f, [q]⟩ : Run ε β) :=
  heeds_of_query rfl fun e he => Except.map_eq_error_iff.2 (h e he)

theorem Heeds.cons {x : Run ε α} (h : x.Heeds bad) {q : Query} (hq : ∀ e, ¬ bad q e) :
    Heeds bad (⟨x.result, q :: x.queries⟩ : Run ε α) := by
  intro before p after e hp hb
  rcases before with _ | ⟨b, before⟩
  · obtain ⟨rfl, -⟩ := List.cons.inj hp
    exact absurd hb (hq e)
  · obtain ⟨-, hp⟩ := List.cons.inj hp
    exact h before p after e hp hb

/-- One run after another heeds what both heed. -/
theorem Heeds.bind {x : Run ε α} {f : α → Run ε β} (hx : x.Heeds bad)
    (hf : ∀ a, x.result = .ok a → (f a).Heeds bad) : (x >>= f).Heeds bad := by
  intro before q after e hq hb
  cases h : x.result with
  | error e' =>
    rw [bind_of_error h] at hq ⊢
    obtain ⟨ha, hr⟩ := hx before q after e hq hb
    rw [h] at hr
    exact ⟨ha, congrArg _ (Except.error.inj hr)⟩
  | ok a =>
    rw [bind_of_ok h] at hq ⊢
    rcases List.append_eq_append_iff.1 hq with ⟨rest, -, hr⟩ | ⟨rest, hr, hs⟩
    · exact hf a h rest q after e hr hb
    · cases rest with
      | nil => exact hf a h [] q after e hs.symm hb
      | cons p rest =>
        -- the first run would have ended with an error
        obtain ⟨rfl, -⟩ := List.cons.inj hs
        have he := (hx before q rest e hr hb).2
        rw [h] at he
        cases he

/-- A run seen through a change of the error heeds the same answers. -/
theorem Heeds.map {x : Run ε α} {y : Run δ β} (h : x.Heeds bad) {f : ε → δ} (hq : y.queries = x.queries)
    (hr : ∀ e, x.result = .error e → y.result = .error (f e)) : y.Heeds fun q d => ∃ e, d = f e ∧ bad q e := by
  rintro before q after d hs ⟨e, rfl, hb⟩
  rw [hq] at hs
  obtain ⟨ha, he⟩ := h before q after e hs hb
  exact ⟨ha, hr e he⟩

theorem heeds_firstVerdict {verdict : Directive → Run ε Qualifier} (h : ∀ d, (verdict d).Heeds bad)
    (ds : List Directive) : (firstVerdict verdict ds).Heeds bad :=
  firstVerdict_rel (P := fun x (_ : Run ε Qualifier) => x.Heeds bad) (w := verdict)
    (fun _ => heeds_of_no_queries rfl) (fun hx hf => hx.bind fun q _ => hf q) fun d _ => h d

end Run

/-! ## Answers that end a walk -/

namespace Resolver

/-- A question fails with an error. -/
def Fails (r : Resolver) : Query → Error → Prop
  | .txt name, e => r.txt name = .error e
  | .ip name, e => r.ip name = .error e
  | .mx name, e => r.mx name = .error e
  | .ptr address, e => r.ptr address = .error e

/-- The answer to a question ends a walk with an error: the question fails, or the texts at a domain hold no policy that
can be read. -/
def Spoils (r : Resolver) : Query → Error → Prop
  | .txt name, e => r.policy name = .error e
  | .ip name, e => r.ip name = .error e
  | .mx name, e => r.mx name = .error e
  | .ptr address, e => r.ptr address = .error e

variable {r : Resolver}

theorem spoils_of_fails {q : Query} {e : Error} (h : r.Fails q e) : r.Spoils q e := by
  cases q with
  | txt name => exact policy_eq_error_iff.2 (.inl h)
  | ip | mx | ptr => exact h

theorem exists_publishes_of_not_spoils {name : String} (h : ∀ e, ¬ r.Spoils (.txt name) e) :
    ∃ record, r.Publishes name record := by
  cases hp : r.policy name with
  | error e => exact absurd hp (h e)
  | ok record => exact ⟨record, policy_eq_ok_iff.1 hp⟩

end Resolver

/-! ## Directives that test the sender -/

namespace Directive

variable {r : Resolver} {sender : Address} {publisher : String} {d : Directive} {test : Run Error Bool}

theorem heeds_matchesAddress (r : Resolver) (sender : Address) (domain : String) :
    (matchesAddress r sender domain).Heeds r.Spoils := by
  rw [matchesAddress_eq]
  exact Run.heeds_of_answer _ fun _ he => he

/-- The test of a directive heeds the questions that fail. -/
theorem heeds_test (h : d.test? r sender publisher = some test) : test.Heeds r.Spoils := by
  rcases test?_cases h with ⟨-, rfl⟩ | ⟨-, rfl⟩ | ⟨-, rfl⟩ | ⟨-, rfl⟩ | ⟨-, rfl⟩ | ⟨-, rfl⟩
  · exact Run.heeds_of_no_queries rfl
  · exact Run.heeds_of_no_queries rfl
  · exact heeds_matchesAddress r sender _
  · rw [matchesExchange_eq]
    cases hm : r.mx (d.target publisher) with
    | error e =>
      refine Run.heeds_of_query rfl fun e' he => ?_
      have hr : r.mx (d.target publisher) = .error e' := he
      rw [hr] at hm
      cases hm
      rfl
    | ok answers =>
      have good : ∀ e, ¬ r.Spoils (.mx (d.target publisher)) e := fun e he => by
        have hr : r.mx (d.target publisher) = .error e := he
        rw [hr] at hm
        cases hm
      cases answers with
      | nil => exact Run.heeds_of_query rfl fun e he => absurd he (good e)
      | cons mx others => exact (heeds_matchesAddress r sender mx.exchange).cons good
  · rw [matchesPointer_eq]
    exact Run.heeds_of_answer _ fun _ he => he
  · rw [matchesExists_eq]
    exact Run.heeds_of_answer _ fun _ he => he

/-- The value of a directive about networks is no network. -/
def IsNoNetwork (d : Directive) (e : Error) : Prop :=
  (d.mechanism = .ip4 ∨ d.mechanism = .ip6) ∧
    ∃ text, Network.ofText d.value = .error text ∧ e = .invalidNetwork d.value text

theorem spoils_of_matchesAddress {domain : String} {e : Error}
    (h : (matchesAddress r sender domain).result = .error e) : r.Spoils (.ip domain) e := by
  rw [matchesAddress_eq] at h
  exact Except.map_eq_error_iff.1 h

/-- The test of a directive fails only with the error of a question, or on a value that is no network. -/
theorem exists_spoils_or_isNoNetwork (h : d.test? r sender publisher = some test) {e : Error}
    (he : test.result = .error e) : (∃ q ∈ test.queries, r.Spoils q e) ∨ d.IsNoNetwork e := by
  rcases test?_cases h with ⟨-, rfl⟩ | ⟨hm, rfl⟩ | ⟨-, rfl⟩ | ⟨-, rfl⟩ | ⟨-, rfl⟩ | ⟨-, rfl⟩
  · cases he
  · rw [Run.result_ofExcept] at he
    obtain ⟨text, ht, rfl⟩ := matchesNetwork_eq_error_iff.1 he
    exact .inr ⟨hm, text, ht, rfl⟩
  · exact .inl ⟨_, by rw [matchesAddress_eq]; simp, spoils_of_matchesAddress he⟩
  · rw [matchesExchange_eq] at he ⊢
    cases hm : r.mx (d.target publisher) with
    | error e' =>
      rw [hm] at he
      cases he
      exact .inl ⟨.mx (d.target publisher), by simp, hm⟩
    | ok answers =>
      rw [hm] at he
      cases answers with
      | nil => cases he
      | cons mx others =>
        refine .inl ⟨.ip mx.exchange, ?_, spoils_of_matchesAddress he⟩
        show _ ∈ _ :: (matchesAddress r sender mx.exchange).queries
        rw [matchesAddress_eq]
        simp
  · rw [matchesPointer_eq] at he ⊢
    exact .inl ⟨.ptr sender, by simp, Except.map_eq_error_iff.1 he⟩
  · rw [matchesExists_eq] at he ⊢
    exact .inl ⟨.ip (Macro.expand d.value sender), by simp, Except.map_eq_error_iff.1 he⟩

end Directive

/-! ## Walks -/

/-- A directive that a walk comes to fails by itself: its value is no network, or it nests a policy and no level is
left for it. -/
def Visit.Raises (v : Visit) (e : Error) : Prop :=
  v.directive.IsNoNetwork e ∨ v.directive.nests = true ∧ v.inquiry.budget.depth = 0 ∧ e = .tooDeep

namespace Inquiry

variable {i : Inquiry}

/-- The answers that end a walk, with the error of the walk. -/
def Ends (i : Inquiry) (q : Query) (h : Halt) : Prop :=
  ∃ e, h = .failure e ∧ i.resolver.Spoils q e

/-- One directive heeds the answers that end a walk, if the policies nested in it do. -/
theorem heeds_execute (nested : i.CanNest → ∀ domain, (i.deeper.validate domain).Heeds i.Ends) (publisher : String)
    (d : Directive) : (i.execute publisher d).Heeds i.Ends := by
  cases hd : d.nests with
  | false =>
    obtain ⟨test, ht⟩ := Directive.exists_test_of_not_nests hd i.resolver i.sender publisher
    rw [execute_of_test ht, Directive.onMatch_eq]
    exact (Directive.heeds_test ht).map rfl fun e he => by rw [he]; rfl
  | true =>
    have hn : (i.nested d.value).Heeds i.Ends :=
      nested_rel (P := fun x _ => x.Heeds i.Ends) (j := i) rfl rfl (fun _ => Run.heeds_of_no_queries rfl)
        fun hc => nested hc d.value
    rw [execute_of_nests hd, Directive.onVerdict]
    exact hn.bind fun q _ => Run.heeds_of_no_queries rfl

/-- A walk heeds every answer: it ends at the first question that fails and at the first domain without a policy that
can be read, with the error of that answer. -/
theorem heeds_validate (i : Inquiry) : ∀ domain, (i.validate domain).Heeds i.Ends := by
  induction i using nesting_induction with
  | step i ih =>
    intro domain
    rw [validate_eq]
    cases hp : i.resolver.policy domain with
    | error e =>
      refine Run.heeds_of_query rfl ?_
      rintro _ ⟨e', rfl, he⟩
      have hs : i.resolver.policy domain = .error e' := he
      rw [hs] at hp
      cases hp
      rfl
    | ok record =>
      refine Run.Heeds.cons (Run.heeds_firstVerdict (heeds_execute ih domain) record.directives) ?_
      rintro _ ⟨e, rfl, he⟩
      have hs : i.resolver.policy domain = .error e := he
      rw [hs] at hp
      cases hp

/-- An error of a walk has a cause: the answer to a question, or a directive that the walk comes to. -/
theorem exists_spoils_or_raises (i : Inquiry) : ∀ {domain : String} {e : Error},
    (i.validate domain).result = .error (.failure e) →
      (∃ q ∈ (i.validate domain).queries, i.resolver.Spoils q e) ∨
        ∃ record outer asked v, i.resolver.Publishes domain record ∧ Reaches i domain record outer asked v ∧
          v.Raises e := by
  induction i using nesting_induction with
  | step i ih =>
    intro domain e he
    rcases validate_error_cases he with ⟨e', hp, h, hq⟩ | ⟨record, before, d, after, hp, split, missed, hd, hq⟩
    · cases h
      exact .inl ⟨.txt domain, by simp [hq], hp⟩
    · rw [hq]
      rcases execute_error_cases hd with ⟨test, e', ht, hr, h, hqs⟩ |
        ⟨nests, ⟨-, h⟩ | ⟨spent, h⟩ | ⟨canNest, hr, hqs⟩⟩
      · cases h
        rcases Directive.exists_spoils_or_isNoNetwork ht hr with ⟨q, hm, hs⟩ | hv
        · exact .inl ⟨q, by simp [hqs, hm], hs⟩
        · exact .inr ⟨record, [], _, _, hp, .here split missed, .inl hv⟩
      · cases h
      · cases h
        exact .inr ⟨record, [], _, _, hp, .here split missed, .inr ⟨nests, spent, rfl⟩⟩
      · rcases ih canNest hr with ⟨q, hm, hs⟩ | ⟨nested, outer, asked, v, published, hv, raises⟩
        · exact .inl ⟨q, by simp [hqs, hm], hs⟩
        · exact .inr ⟨record, d :: outer, _, v, hp, .inside split missed nests canNest published hv, raises⟩

/-- With a limit on the nesting every walk comes to an end. -/
theorem validate_ne_unfinished (i : Inquiry) : 0 ≤ i.budget.depth.toInt →
    ∀ domain, (i.validate domain).result ≠ .error .unfinished := by
  induction i using nesting_induction with
  | step i ih =>
    intro limited domain he
    rcases validate_error_cases he with ⟨_, -, h, -⟩ | ⟨_, _, d, _, -, -, -, hd, -⟩
    · cases h
    · rcases execute_error_cases hd with ⟨_, _, -, -, h, -⟩ | ⟨-, ⟨hl, -⟩ | ⟨-, h⟩ | ⟨canNest, hr, -⟩⟩
      · cases h
      · exact levels_ne_zero_of_nonneg limited hl
      · cases h
      · exact ih canNest (limited_deeper limited canNest) d.value hr

/-- Why a walk fails although no question does, by the questions that it asked: the last one was for a policy where
there is none, or none that can be read, or a directive fails behind the last question. -/
inductive Cause (i : Inquiry) (domain : String) : List Query → Error → Prop
  | noPolicy {before : List Query} {name : String} {texts : List String} (answer : i.resolver.txt name = .ok texts)
      (unmarked : ∀ t ∈ texts, Record.isMarked t = false) :
      Cause i domain (before ++ [.txt name]) (.noPolicy name)
  | unreadable {before : List Query} {name text : String} {texts : List String} {e : Error}
      (answer : i.resolver.txt name = .ok texts) (first : texts.find? Record.isMarked = some text)
      (unreadable : Record.parse text = .error e) : Cause i domain (before ++ [.txt name]) e
  | raised {record : Record} {outer : List Directive} {asked : List Query} {v : Visit} {e : Error}
      (published : i.resolver.Publishes domain record) (reached : Reaches i domain record outer asked v)
      (raises : v.Raises e) : Cause i domain (.txt domain :: asked) e

/-- An error that a directive raises is the error of the walk that comes to it, and nothing is asked behind it. -/
theorem validate_of_raises {domain : String} {record : Record} {outer : List Directive} {asked : List Query}
    {v : Visit} {e : Error} (hp : i.resolver.Publishes domain record) (hv : Reaches i domain record outer asked v)
    (hr : v.Raises e) : i.validate domain = ⟨.error (.failure e), .txt domain :: asked⟩ := by
  have run : v.run = ⟨.error (.failure e), []⟩ := by
    rw [Visit.run]
    rcases hr with ⟨hm, text, ht, rfl⟩ | ⟨hn, hb, rfl⟩
    · have test : v.directive.test? v.inquiry.resolver v.inquiry.sender v.publisher =
          some (.ofExcept (.error (.invalidNetwork v.directive.value text))) := by
        rcases hm with hm | hm <;> simp only [Directive.test?, hm, matchesNetwork, ht]
      rw [execute_of_test test, Directive.onMatch_eq]
      rfl
    · rw [execute_of_nests hn, nested_of_spent hb]
      rfl
  rw [validate_of_publishes hp, hv.evaluate_of_error (e := .failure e) (by rw [run]), run, List.append_nil]

/-- **Errors are neither swallowed nor invented.** With a limit on the nesting, a question that fails is the last and its
error is that of the walk; an error without such a question has another cause; a verdict means that every question was
answered and that every policy that was fetched could be read; and a policy that cannot be read ends the walk with the
error of reading it, whatever its directives say. -/
theorem validate_failure (i : Inquiry) (domain : String) (limited : 0 ≤ i.budget.depth.toInt) :
    (∀ before q after e, (i.validate domain).queries = before ++ q :: after → i.resolver.Fails q e →
      after = [] ∧ (i.validate domain).result = .error (.failure e)) ∧
    ((∀ q ∈ (i.validate domain).queries, ∀ e, ¬ i.resolver.Fails q e) →
      ∀ h, (i.validate domain).result = .error h →
        ∃ e, h = .failure e ∧ i.Cause domain (i.validate domain).queries e) ∧
    (∀ verdict, (i.validate domain).result = .ok verdict → ∀ q ∈ (i.validate domain).queries,
      (∀ e, ¬ i.resolver.Fails q e) ∧ ∀ name, q = .txt name → ∃ record, i.resolver.Publishes name record) ∧
    (∀ name texts text e, .txt name ∈ (i.validate domain).queries → i.resolver.txt name = .ok texts →
      texts.find? Record.isMarked = some text → Record.parse text = .error e →
        (i.validate domain).result = .error (.failure e)) := by
  have heeds := i.heeds_validate domain
  have spoiled : ∀ q ∈ (i.validate domain).queries, ∀ e, i.resolver.Spoils q e →
      ∃ before, (i.validate domain).queries = before ++ [q] ∧ (i.validate domain).result = .error (.failure e) := by
    intro q hq e hs
    obtain ⟨before, after, hqs⟩ := List.append_of_mem hq
    obtain ⟨rfl, hr⟩ := heeds before q after _ hqs ⟨e, rfl, hs⟩
    exact ⟨before, hqs, hr⟩
  refine ⟨fun before q after e hq hf => heeds before q after _ hq ⟨e, rfl, Resolver.spoils_of_fails hf⟩, ?_, ?_, ?_⟩
  · intro answered h hr
    cases h with
    | unfinished => exact absurd hr (i.validate_ne_unfinished limited domain)
    | failure e =>
      refine ⟨e, rfl, ?_⟩
      rcases i.exists_spoils_or_raises hr with ⟨q, hq, hs⟩ | ⟨record, outer, asked, v, hp, hv, he⟩
      · -- the answer that spoils the walk is the last one, and no question fails, so it is one for a policy
        obtain ⟨before, hqs, -⟩ := spoiled q hq e hs
        rw [hqs]
        cases q with
        | ip | mx | ptr => exact absurd hs (answered _ hq e)
        | txt name =>
          rcases Resolver.policy_eq_error_iff.1 hs with ht | ⟨texts, ht, ⟨hn, rfl⟩ | ⟨text, hf, hp⟩⟩
          · exact absurd ht (answered _ hq e)
          · exact .noPolicy ht hn
          · exact .unreadable ht hf hp
      · rw [validate_of_raises hp hv he]
        exact .raised hp hv he
  · intro verdict hr q hq
    have good : ∀ e, ¬ i.resolver.Spoils q e := fun e hs => by
      obtain ⟨-, -, he⟩ := spoiled q hq e hs
      rw [hr] at he
      cases he
    refine ⟨fun e hf => good e (Resolver.spoils_of_fails hf), ?_⟩
    rintro name rfl
    exact Resolver.exists_publishes_of_not_spoils good
  · intro name texts text e hq ht hf hp
    have hs : i.resolver.Spoils (.txt name) e := Resolver.policy_eq_error_iff.2 (.inr ⟨texts, ht, .inr ⟨text, hf, hp⟩⟩)
    exact (spoiled _ hq e hs).choose_spec.2

theorem validate_failure_chain :
    0 ≤ ((Zone.chain.fail "TXT c.example" (.noAnswer "timeout")).inquiry 2 0).budget.depth.toInt ∧
      (((Zone.chain.fail "TXT c.example" (.noAnswer "timeout")).inquiry 2 0).validate "a.example").result =
        .error (.failure (.noAnswer "c.example" "timeout")) :=
  ⟨by decide, ((validate_failure ((Zone.chain.fail "TXT c.example" (.noAnswer "timeout")).inquiry 2 0) "a.example"
    (by decide)).1 [.txt "a.example", .mx "a.example", .txt "b.example"] (.txt "c.example") [] _ rfl rfl).2⟩

end Inquiry

end SenderPolicy
