import SenderPolicy.Proofs.Grammar
import SenderPolicy.Proofs.Walk

/-!
# A walk ends at the first verdict

The directives of a policy are walked from left to right. Directives in two parts are walked like the first part alone if
that has a verdict or an error, and otherwise like one part after the other. So no redirection of a policy counts as long
as another directive has something to say, wherever the redirection stands in the text, and nothing counts behind a
directive that always matches.

- `firstVerdict_append_eq_bind`: directives in two parts;
- `evaluate_append_of_ne`, `evaluate_append_of_none`: the same of a policy;
- `execute_of_all`: a directive that always matches has its qualifier as the verdict;
- `Record.mem_front_of_modifier`: what stands in front of a redirection in a policy that has been read;
- `evaluate_shortCircuits`: all of it.
-/

namespace SenderPolicy

/-! ## Two parts -/

section

variable {ε : Type} {verdict : Directive → Run ε Qualifier}

/-- Directives in two parts: those behind are walked where those in front have no verdict. -/
theorem firstVerdict_append_eq_bind (ds es : List Directive) :
    firstVerdict verdict (ds ++ es) =
      firstVerdict verdict ds >>= fun q => if q = .none then firstVerdict verdict es else pure q := by
  induction ds with
  | nil => rw [List.nil_append, firstVerdict, pure_bind, if_pos rfl]
  | cons d ds ih =>
    rw [List.cons_append, firstVerdict, firstVerdict, bind_assoc]
    apply bind_congr
    intro q
    split
    · exact ih
    · rename_i hq
      rw [pure_bind, if_neg hq]

end

namespace Inquiry

variable {i : Inquiry} {publisher : String} {ds es : List Directive}

/-- A verdict or an error of the first part is that of both, and nothing more is asked. -/
theorem evaluate_append_of_ne (h : (i.evaluate publisher ⟨ds⟩).result ≠ .ok .none) :
    i.evaluate publisher ⟨ds ++ es⟩ = i.evaluate publisher ⟨ds⟩ := by
  rw [evaluate_eq] at h ⊢
  rw [evaluate_eq, firstVerdict_append_eq_bind]
  generalize firstVerdict (i.execute publisher) ds = x at h ⊢
  cases hx : x.result with
  | error e => rw [Run.bind_of_error hx, ← hx]
  | ok q =>
    have hq : q ≠ .none := by
      rintro rfl
      exact h hx
    rw [Run.bind_of_ok hx, if_neg hq, Run.result_pure, Run.queries_pure, List.append_nil, ← hx]

/-- Where the first part has no verdict, the second is walked behind it. -/
theorem evaluate_append_of_none (h : (i.evaluate publisher ⟨ds⟩).result = .ok .none) :
    i.evaluate publisher ⟨ds ++ es⟩ =
      ⟨(i.evaluate publisher ⟨es⟩).result,
        (i.evaluate publisher ⟨ds⟩).queries ++ (i.evaluate publisher ⟨es⟩).queries⟩ := by
  rw [evaluate_eq] at h
  rw [evaluate_eq, firstVerdict_append_eq_bind, Run.bind_of_ok h, if_pos rfl]
  rfl

/-- A directive with a verdict or an error leaves no policy without one. -/
theorem evaluate_ne_none_of_mem {d : Directive} (hd : d ∈ ds) (h : (i.execute publisher d).result ≠ .ok .none) :
    (i.evaluate publisher ⟨ds⟩).result ≠ .ok .none := by
  rcases i.evaluate_cases publisher ⟨ds⟩ with ⟨missed, -⟩ | ⟨_, _, _, -, -, stop, he⟩
  · exact absurd (missed d hd) h
  · rw [he]
    exact stop

/-- A directive that always matches has its qualifier as the verdict, and asks nothing. -/
theorem execute_of_all {d : Directive} (h : d.mechanism = .all) :
    i.execute publisher d = ⟨.ok d.qualifier, []⟩ := by
  have ht : d.test? i.resolver i.sender publisher = some (pure true) := by simp only [Directive.test?, h]
  rw [execute_of_test ht, Directive.onMatch_eq]
  rfl

end Inquiry

/-! ## Redirections -/

namespace Record

/-- The ordinary directives of a text stand in front of the redirections. -/
theorem directives_ofDirectives (ds : List Directive) :
    (ofDirectives ds).directives =
      ds.filter (!·.mechanism.isModifier) ++ ds.filter (·.mechanism.isModifier) := rfl

/-- All ordinary directives stand in front of a redirection, wherever it stood in the text. -/
theorem mem_front_of_modifier {ds before after : List Directive} {d e : Directive}
    (split : (ofDirectives ds).directives = before ++ d :: after) (hd : d.mechanism.isModifier = true)
    (he : e ∈ ds) (ordinary : e.mechanism.isModifier = false) : e ∈ before := by
  have hf : e ∈ ds.filter (!·.mechanism.isModifier) := List.mem_filter.2 ⟨he, by rw [ordinary]; rfl⟩
  rw [directives_ofDirectives] at split
  rcases List.append_eq_append_iff.1 split with ⟨front, rfl, -⟩ | ⟨back, hback, hrest⟩
  · exact List.mem_append_left _ hf
  · -- otherwise the redirection would be one of the ordinary directives, or `before` is all of them
    cases back with
    | nil =>
      rw [List.append_nil] at hback
      rwa [← hback]
    | cons c back =>
      obtain ⟨rfl, -⟩ := List.cons.inj hrest
      have hm : d ∈ ds.filter (!·.mechanism.isModifier) := by
        rw [hback]
        simp
      have hn := (List.mem_filter.1 hm).2
      rw [hd] at hn
      cases hn

end Record

/-! ## The walk of a policy -/

namespace Inquiry

/-- The walk of a policy whose directives are `ds` in the order of its text. -/
structure ShortCircuits (i : Inquiry) (publisher : String) (ds : List Directive) (record : Record) : Prop where
  /-- Where an ordinary directive has a verdict or an error, no redirection counts. -/
  ordinary : (∃ e ∈ ds, e.mechanism.isModifier = false ∧ (i.execute publisher e).result ≠ .ok .none) →
    i.evaluate publisher record = i.evaluate publisher ⟨ds.filter (!·.mechanism.isModifier)⟩
  /-- The walk comes to a redirection only when no ordinary directive has a verdict. -/
  redirect : ∀ asked v, Reaches i publisher record [] asked v → v.directive.mechanism.isModifier = true →
    ∀ e ∈ ds, e.mechanism.isModifier = false → (i.execute publisher e).result = .ok .none
  /-- Nothing counts behind a directive that always matches, and there is a verdict or an error. -/
  all : ∀ before d after, record.directives = before ++ d :: after → d.mechanism = .all →
    i.evaluate publisher record = i.evaluate publisher ⟨before ++ [d]⟩ ∧
      (i.evaluate publisher record).result ≠ .ok .none

theorem shortCircuits_ofDirectives (i : Inquiry) (publisher : String) {ds : List Directive}
    (qualified : ∀ d ∈ (Record.ofDirectives ds).directives, d.qualifier ≠ .none) :
    i.ShortCircuits publisher ds (.ofDirectives ds) where
  ordinary := by
    rintro ⟨e, he, ordinary, stop⟩
    have hf : e ∈ ds.filter (!·.mechanism.isModifier) := List.mem_filter.2 ⟨he, by rw [ordinary]; rfl⟩
    exact evaluate_append_of_ne (evaluate_ne_none_of_mem hf stop)
  redirect := by
    intro asked v hv modifier e he ordinary
    cases hv with
    | here split missed => exact missed e (Record.mem_front_of_modifier split modifier he ordinary)
  all := by
    intro before d after split hd
    have hq : d.qualifier ≠ .none := qualified d (by rw [split]; simp)
    have stop : (i.execute publisher d).result ≠ .ok .none := by
      rw [execute_of_all hd]
      intro h
      exact hq (Except.ok.inj h)
    have front : (i.evaluate publisher ⟨before ++ [d]⟩).result ≠ .ok .none :=
      evaluate_ne_none_of_mem (by simp) stop
    have whole : i.evaluate publisher (.ofDirectives ds) = i.evaluate publisher ⟨before ++ [d]⟩ := by
      have h : i.evaluate publisher ⟨(before ++ [d]) ++ after⟩ = i.evaluate publisher ⟨before ++ [d]⟩ :=
        evaluate_append_of_ne front
      rw [List.append_assoc, List.singleton_append, ← split] at h
      exact h
    exact ⟨whole, by rwa [whole]⟩

/-- **A walk goes from left to right and ends at the first verdict or error.** Directives in two parts are walked like
the first part alone if that has a verdict or an error, and otherwise like the second part behind the first. In a policy
that has been read, redirections come last and nothing counts behind a directive that always matches. -/
theorem evaluate_shortCircuits (i : Inquiry) (publisher : String) :
    (∀ r s : List Directive,
      ((i.evaluate publisher ⟨r⟩).result ≠ .ok .none →
        i.evaluate publisher ⟨r ++ s⟩ = i.evaluate publisher ⟨r⟩) ∧
      ((i.evaluate publisher ⟨r⟩).result = .ok .none →
        i.evaluate publisher ⟨r ++ s⟩ =
          ⟨(i.evaluate publisher ⟨s⟩).result,
            (i.evaluate publisher ⟨r⟩).queries ++ (i.evaluate publisher ⟨s⟩).queries⟩)) ∧
    ∀ text record, Record.parse text = .ok record →
      ∃ s ds, text.toList = Record.mark.toList ++ s ∧ (Record.terms s).mapM Record.Term.directive = .ok ds ∧
        i.ShortCircuits publisher ds record := by
  refine ⟨fun r s => ⟨evaluate_append_of_ne, evaluate_append_of_none⟩, ?_⟩
  intro text record hp
  obtain ⟨s, ds, ht, hd, rfl⟩ := Record.parse_eq_ok_iff.1 hp
  rw [Record.directivesFrom_eq_mapM] at hd
  exact ⟨s, ds, ht, hd, i.shortCircuits_ofDirectives publisher fun d => Record.qualifier_ne_none_of_parse hp⟩

/-- A redirection that is come to, and two that are not: behind a verdict, and in front of one in the text. -/
theorem evaluate_shortCircuits_redirect :
    (Zone.chain.inquiry 3 0).evaluate "d.example" ⟨[⟨.pass, .mx, ""⟩] ++ [⟨.pass, .redirect, "a.example"⟩]⟩ =
      ⟨.ok .neutral, [.mx "d.example", .txt "a.example", .mx "a.example", .txt "b.example", .txt "c.example"]⟩ ∧
    (Zone.chain.inquiry 3 0).evaluate "d.example" ⟨[⟨.softfail, .all, ""⟩] ++ [⟨.pass, .redirect, "a.example"⟩]⟩ =
      ⟨.ok .softfail, []⟩ ∧
    Record.parse "v=spf1 redirect=a.example mx ~all" =
      .ok ⟨[⟨.pass, .mx, ""⟩, ⟨.softfail, .all, ""⟩, ⟨.pass, .redirect, "a.example"⟩]⟩ ∧
    (Zone.chain.inquiry 3 0).evaluate "d.example"
        ⟨[⟨.pass, .mx, ""⟩, ⟨.softfail, .all, ""⟩, ⟨.pass, .redirect, "a.example"⟩]⟩ =
      (Zone.chain.inquiry 3 0).evaluate "d.example" ⟨[⟨.pass, .mx, ""⟩, ⟨.softfail, .all, ""⟩]⟩ := by
  have parts := (evaluate_shortCircuits (Zone.chain.inquiry 3 0) "d.example").1
  have asked : (Zone.chain.inquiry 3 0).evaluate "d.example" ⟨[⟨.pass, .redirect, "a.example"⟩]⟩ =
      ⟨.ok .neutral, [.txt "a.example", .mx "a.example", .txt "b.example", .txt "c.example"]⟩ := Run.ext rfl rfl
  have none : (Zone.chain.inquiry 3 0).evaluate "d.example" ⟨[⟨.pass, .mx, ""⟩]⟩ = ⟨.ok .none, [.mx "d.example"]⟩ := rfl
  have softfail : (Zone.chain.inquiry 3 0).evaluate "d.example" ⟨[⟨.softfail, .all, ""⟩]⟩ = ⟨.ok .softfail, []⟩ := rfl
  have read : Record.parse "v=spf1 redirect=a.example mx ~all" =
      .ok ⟨[⟨.pass, .mx, ""⟩, ⟨.softfail, .all, ""⟩, ⟨.pass, .redirect, "a.example"⟩]⟩ := rfl
  obtain ⟨_, _, -, -, h⟩ := (evaluate_shortCircuits (Zone.chain.inquiry 3 0) "d.example").2 _ _ read
  refine ⟨?_, ?_, read, (h.all [⟨.pass, .mx, ""⟩] ⟨.softfail, .all, ""⟩ _ rfl rfl).1⟩
  · rw [(parts _ _).2 (by rw [none]), asked, none]
    rfl
  · rw [(parts _ _).1 (by rw [softfail]; simp), softfail]

end Inquiry

end SenderPolicy
