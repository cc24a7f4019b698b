import SenderPolicy.Proofs.Canonical
import SenderPolicy.Proofs.Walk

/-!
# Directives without a value, spelled out

An `a`, `mx` or `ptr` without a value is about the domain that publishes it, so that it says the same as with that domain
as its value. A whole name service can be rewritten so, one policy after the other, and every walk stays as it was.

- `Resolver.spelledOut`: the name service with the bare directives of its policies spelled out;
- `parse_spellOutText`: a policy that is spelled out is read back with the domain in place of each missing value;
- `execute_spelledOut`: a directive says the same when it is spelled out;
- `validate_spelledOut`: so do all walks over the name service, and no policy needs a bare directive.
-/

namespace SenderPolicy

/-! ## Directives -/

namespace Directive

/-- Whether it has no value and is about the domain that publishes it. -/
def isBare (d : Directive) : Bool :=
  (d.mechanism = .a || d.mechanism = .mx || d.mechanism = .ptr) && d.value = ""

/-- The directive with the domain that publishes it as its value, if it is about that domain. -/
def spelledOut (domain : String) (d : Directive) : Directive :=
  if d.isBare then { d with value := domain } else d

variable {domain : String} {d : Directive}

@[simp] theorem mechanism_spelledOut : (d.spelledOut domain).mechanism = d.mechanism := by
  unfold spelledOut
  split <;> rfl

@[simp] theorem qualifier_spelledOut : (d.spelledOut domain).qualifier = d.qualifier := by
  unfold spelledOut
  split <;> rfl

theorem value_spelledOut : (d.spelledOut domain).value = if d.isBare then domain else d.value := by
  unfold spelledOut
  split <;> rfl

theorem spelledOut_of_not_isBare (h : d.isBare = false) : d.spelledOut domain = d := by
  rw [spelledOut, h, if_neg Bool.false_ne_true]

/-- Nothing is left to be spelled out. -/
theorem isBare_spelledOut (named : domain ≠ "") : (d.spelledOut domain).isBare = false := by
  cases h : d.isBare with
  | false => rw [spelledOut_of_not_isBare h, h]
  | true =>
    have hv : (d.spelledOut domain).value = domain := by rw [value_spelledOut, h, if_pos rfl]
    rw [isBare, hv]
    simp [named]

/-- What nests a policy stays as it is. -/
theorem not_isBare_of_nests (h : d.nests = true) : d.isBare = false := by
  simp only [nests, Bool.or_eq_true, decide_eq_true_eq] at h
  rcases h with h | h <;> simp [isBare, h]

/-- A directive that is spelled out is about the same domain. -/
theorem target_spelledOut (named : domain ≠ "") (h : d.mechanism = .a ∨ d.mechanism = .mx ∨ d.mechanism = .ptr) :
    (d.spelledOut domain).target domain = d.target domain := by
  have bare : d.isBare = decide (d.value = "") := by rcases h with h | h | h <;> simp [isBare, h]
  unfold target
  rw [value_spelledOut, bare]
  by_cases hv : d.value = ""
  · simp [hv, named]
  · simp [hv]

/-- The test of a directive is the same when it is spelled out. -/
theorem test?_spelledOut (named : domain ≠ "") (r : Resolver) (sender : Address) :
    (d.spelledOut domain).test? r sender domain = d.test? r sender domain := by
  cases hm : d.mechanism with
  | a =>
    have ht := target_spelledOut named (.inl hm)
    simp only [test?, mechanism_spelledOut, hm, ht]
  | mx =>
    have ht := target_spelledOut named (.inr (.inl hm))
    simp only [test?, mechanism_spelledOut, hm, ht]
  | ptr =>
    have ht := target_spelledOut named (.inr (.inr hm))
    simp only [test?, mechanism_spelledOut, hm, ht]
  | all | ip4 | ip6 | «exists» | «include» | redirect =>
    rw [spelledOut_of_not_isBare (by simp [isBare, hm])]

end Directive

/-! ## Records -/

namespace Record

/-- The record with the bare directives spelled out. -/
def spelledOut (domain : String) (r : Record) : Record :=
  ⟨r.directives.map (Directive.spelledOut domain)⟩

/-- A name that can be the value of a directive: it is not empty and has no blank. -/
def IsWord (name : String) : Prop :=
  name ≠ "" ∧ ∀ c ∈ name.toList, c ≠ ' ' ∧ c ≠ '\r' ∧ c ≠ '\n'

instance : DecidablePred IsWord :=
  fun name => inferInstanceAs (Decidable (name ≠ "" ∧ ∀ c ∈ name.toList, c ≠ ' ' ∧ c ≠ '\r' ∧ c ≠ '\n'))

/-- A canonical record stays canonical. -/
theorem IsCanonical.spelledOut {r : Record} {domain : String} (h : r.IsCanonical) (word : IsWord domain) :
    (r.spelledOut domain).IsCanonical := by
  obtain ⟨ds, rs, hs, hv, ho, hm, hc⟩ := h
  have same : rs.map (Directive.spelledOut domain) = rs := by
    have each : ∀ d ∈ rs, d.spelledOut domain = d := fun d hd =>
      Directive.spelledOut_of_not_isBare (by simp [Directive.isBare, (hm d hd).1])
    exact (List.map_congr_left each).trans (List.map_id' rs)
  refine ⟨ds.map (Directive.spelledOut domain), rs, ?_, ?_, ?_, hm, hc⟩
  · rw [Record.spelledOut, hs, List.map_append, same]
  · intro e he
    obtain ⟨d, hd, rfl⟩ := List.mem_map.1 he
    rw [Directive.value_spelledOut]
    split
    · exact word.2
    · exact hv d hd
  · intro e he
    obtain ⟨d, hd, rfl⟩ := List.mem_map.1 he
    simpa using ho d hd

/-- A policy text with its bare directives spelled out; a text that cannot be read stays as it is. -/
def spellOutText (domain text : String) : String :=
  (parse text).toOption.elim text fun r => (r.spelledOut domain).text

/-- A policy is still a policy. -/
theorem isMarked_spellOutText {text : String} (h : isMarked text = true) (domain : String) :
    isMarked (spellOutText domain text) = true := by
  unfold spellOutText
  cases (parse text).toOption with
  | none => exact h
  | some r => exact isMarked_text _

/-- A policy that is spelled out is read back with the domain in place of each missing value. -/
theorem parse_spellOutText {domain : String} (word : IsWord domain) (text : String) :
    parse (spellOutText domain text) = (parse text).map (spelledOut domain) := by
  unfold spellOutText
  cases hp : parse text with
  | error e => exact hp
  | ok r => exact ((isCanonical_of_parse hp).spelledOut word).parse_text

example : spellOutText "b.example" "v=spf1 A  -mx:c.example redirect=d.example ?ptr" =
    "v=spf1 a:b.example -mx:c.example ?ptr:b.example redirect=d.example" := rfl

/-- Texts with the first policy among them spelled out. -/
def spellOutFirst (domain : String) : List String → List String
  | [] => []
  | text :: texts => if isMarked text then spellOutText domain text :: texts else text :: spellOutFirst domain texts

/-- The first policy is the one that was spelled out. -/
theorem find?_spellOutFirst (domain : String) (texts : List String) :
    (spellOutFirst domain texts).find? isMarked = (texts.find? isMarked).map (spellOutText domain) := by
  induction texts with
  | nil => rfl
  | cons text texts ih =>
    by_cases h : isMarked text = true
    · have marked := isMarked_spellOutText h domain
      rw [spellOutFirst, if_pos h, List.find?_cons_of_pos marked, List.find?_cons_of_pos h]
      rfl
    · rw [spellOutFirst, if_neg h, List.find?_cons_of_neg h, List.find?_cons_of_neg h, ih]

end Record

/-! ## Name services -/

namespace Resolver

/-- The name service with its policies spelled out: at each name that can be a value, the bare directives of the
policy there get the name as their value. -/
def spelledOut (r : Resolver) : Resolver :=
  { r with txt := fun name => if Record.IsWord name then (r.txt name).map (Record.spellOutFirst name) else r.txt name }

variable {r : Resolver} {name : String}

theorem txt_spelledOut_of_isWord (word : Record.IsWord name) :
    r.spelledOut.txt name = (r.txt name).map (Record.spellOutFirst name) :=
  if_pos word

theorem txt_spelledOut_of_not_isWord (word : ¬ Record.IsWord name) : r.spelledOut.txt name = r.txt name :=
  if_neg word

/-- The policy of a domain is spelled out, and is there if it was there. -/
theorem policy_spelledOut_of_isWord (word : Record.IsWord name) :
    r.spelledOut.policy name = (r.policy name).map (Record.spelledOut name) := by
  rw [policy_eq, policy_eq, txt_spelledOut_of_isWord word]
  cases r.txt name with
  | error e => rfl
  | ok texts =>
    have first := Record.find?_spellOutFirst name texts
    cases hf : texts.find? Record.isMarked with
    | none =>
      rw [hf] at first
      simp [Except.map, bind, Except.bind, hf, first]
    | some text =>
      rw [hf] at first
      simp only [Except.map, bind, Except.bind, hf, first, Option.map_some, Option.elim_some]
      exact Record.parse_spellOutText word text

theorem policy_spelledOut_of_not_isWord (word : ¬ Record.IsWord name) : r.spelledOut.policy name = r.policy name := by
  rw [policy_eq, policy_eq, txt_spelledOut_of_not_isWord word]

/-- A policy that is spelled out has no bare directive. -/
theorem not_isBare_of_publishes_spelledOut {record : Record} (word : Record.IsWord name)
    (h : r.spelledOut.Publishes name record) : ∀ d ∈ record.directives, d.isBare = false := by
  have hp := policy_eq_ok_iff.2 h
  rw [policy_spelledOut_of_isWord word] at hp
  obtain ⟨plain, -, rfl⟩ := Except.map_eq_ok_iff.1 hp
  intro d hd
  obtain ⟨e, -, rfl⟩ := List.mem_map.1 hd
  exact Directive.isBare_spelledOut word.1

end Resolver

/-! ## Walks -/

theorem firstVerdict_map {ε : Type} (verdict : Directive → Run ε Qualifier) (f : Directive → Directive)
    (ds : List Directive) : firstVerdict verdict (ds.map f) = firstVerdict (fun d => verdict (f d)) ds := by
  induction ds with
  | nil => rfl
  | cons d ds ih => rw [List.map_cons, firstVerdict, firstVerdict, ih]

namespace Inquiry

/-- The inquiry over the name service with its policies spelled out. -/
def spelledOut (i : Inquiry) : Inquiry :=
  { i with resolver := i.resolver.spelledOut }

variable {i : Inquiry} {publisher : String}

/-- A directive says the same when it is spelled out. -/
theorem execute_spelledOut (named : publisher ≠ "") (d : Directive) :
    i.execute publisher (d.spelledOut publisher) = i.execute publisher d := by
  cases nests : d.nests with
  | true => rw [Directive.spelledOut_of_not_isBare (Directive.not_isBare_of_nests nests)]
  | false =>
    obtain ⟨test, ht⟩ := Directive.exists_test_of_not_nests nests i.resolver i.sender publisher
    have ht' := (Directive.test?_spelledOut named i.resolver i.sender).trans ht
    rw [execute_of_test ht, execute_of_test ht', Directive.onMatch_eq, Directive.onMatch_eq,
      Directive.qualifier_spelledOut]

/-- A directive says the same over the name service that is spelled out, if the policies nested in it do. -/
theorem spelledOut_execute
    (nested : i.CanNest → ∀ domain, i.deeper.spelledOut.validate domain = i.deeper.validate domain)
    (d : Directive) : i.spelledOut.execute publisher d = i.execute publisher d := by
  cases nests : d.nests with
  | false =>
    obtain ⟨test, ht⟩ := Directive.exists_test_of_not_nests nests i.resolver i.sender publisher
    -- only the texts are others, and no test asks for texts
    have ht' : d.test? i.spelledOut.resolver i.spelledOut.sender publisher = some test := ht
    rw [execute_of_test ht, execute_of_test ht']
  | true =>
    have same : i.spelledOut.nested d.value = i.nested d.value :=
      nested_rel (P := fun x y => y = x) (i := i) (j := i.spelledOut) rfl rfl (fun _ => rfl) fun hc => nested hc d.value
    rw [execute_of_nests nests, execute_of_nests nests, same]

/-- A policy says the same over the name service that is spelled out, if those nested in it do. -/
theorem spelledOut_evaluate
    (nested : i.CanNest → ∀ domain, i.deeper.spelledOut.validate domain = i.deeper.validate domain)
    (publisher : String) (record : Record) :
    i.spelledOut.evaluate publisher record = i.evaluate publisher record := by
  rw [evaluate_eq, evaluate_eq, funext (spelledOut_execute nested)]

/-- A policy says the same when it is spelled out. -/
theorem evaluate_spelledOut (named : publisher ≠ "") (record : Record) :
    i.evaluate publisher (record.spelledOut publisher) = i.evaluate publisher record := by
  rw [evaluate_eq, evaluate_eq, Record.spelledOut, firstVerdict_map, funext (execute_spelledOut named)]

theorem spelledOut_validate (i : Inquiry) : ∀ domain, i.spelledOut.validate domain = i.validate domain := by
  induction i using nesting_induction with
  | step i ih =>
    intro domain
    rw [validate_eq, validate_eq]
    by_cases word : Record.IsWord domain
    · have policy : i.spelledOut.resolver.policy domain = (i.resolver.policy domain).map (Record.spelledOut domain) :=
        Resolver.policy_spelledOut_of_isWord word
      cases hp : i.resolver.policy domain with
      | error e =>
        rw [hp] at policy
        rw [policy]
        rfl
      | ok record =>
        have walk : i.spelledOut.evaluate domain (record.spelledOut domain) = i.evaluate domain record := by
          rw [spelledOut_evaluate ih, evaluate_spelledOut word.1]
        rw [hp] at policy
        rw [policy]
        simp only [Except.map, walk]
    · have policy : i.spelledOut.resolver.policy domain = i.resolver.policy domain :=
        Resolver.policy_spelledOut_of_not_isWord word
      rw [policy]
      simp only [spelledOut_evaluate ih]

/-- **No policy needs a directive without a value for the domain that publishes it.** Where the name service is rewritten
so that all such directives have that domain as their value, every walk comes to the same end after the same questions; and
then no policy has such a directive at a domain whose name can be a value. -/
theorem validate_spelledOut (r : Resolver) (sender : Address) (domain : String) (b : Budget) (fuel : Nat) :
    (Inquiry.mk r.spelledOut sender b fuel).validate domain = (Inquiry.mk r sender b fuel).validate domain ∧
    ∀ name record, Record.IsWord name → r.spelledOut.Publishes name record →
      ∀ d ∈ record.directives, d.isBare = false :=
  ⟨spelledOut_validate ⟨r, sender, b, fuel⟩ domain,
    fun _ _ word published => Resolver.not_isBare_of_publishes_spelledOut word published⟩

end Inquiry

end SenderPolicy
