import SenderPolicy.Proofs.Canonical
import SenderPolicy.Proofs.Walk

/-!
# Why there is a verdict

A verdict rests on a path of directives: from the policy that is asked about through directives that nest a policy to
one that matches the sender. The verdict is the qualifier of the innermost directive on the path that does not say
`pass`. Without such a path there is no verdict, and every directive of the policy misses.

- `Directive.Matches`: when a directive matches a sender, said of the answers of the name service;
- `exists_path_of_evaluate`: a verdict has a path;
- `misses_of_evaluate`: without a verdict every directive misses;
- `validate_justified`: both, for a policy text and for the policy of a domain.
-/

namespace SenderPolicy

/-! ## When a directive matches -/

/-- The sender is one of the addresses of a domain. -/
def Resolver.HasAddress (r : Resolver) (sender : Address) (domain : String) : Prop :=
  ∃ answers, r.ip domain = .ok answers ∧ ∃ a ∈ answers, a.canonical = sender.canonical

namespace Directive

/-- A directive published at a domain matches the sender. A directive without a value is about that domain. One that
nests a policy has no match of its own. -/
def Matches (r : Resolver) (sender : Address) (publisher : String) (d : Directive) : Prop :=
  match d.mechanism with
  | .all => True
  | .ip4 | .ip6 => ∃ n, Network.ofText d.value = .ok n ∧ n.contains sender.canonical = true
  | .a => r.HasAddress sender (d.target publisher)
  | .mx => ∃ mx others, r.mx (d.target publisher) = .ok (mx :: others) ∧ r.HasAddress sender mx.exchange
  | .ptr => ∃ names, r.ptr sender = .ok names ∧ d.target publisher ∈ names
  | .exists => ∃ answers, r.ip (Macro.expand d.value sender) = .ok answers ∧ answers ≠ []
  | .include | .redirect => False

variable {r : Resolver} {sender : Address} {publisher : String} {d : Directive}

theorem hasAddress_iff_of_result {domain : String} {b : Bool}
    (h : (matchesAddress r sender domain).result = .ok b) : b = true ↔ r.HasAddress sender domain := by
  rw [matchesAddress_eq] at h
  obtain ⟨answers, ha, rfl⟩ := Except.map_eq_ok_iff.1 h
  simp [Resolver.HasAddress, ha]

/-- The test of a directive succeeds exactly if the directive matches. -/
theorem matches_iff_of_test {test : Run Error Bool} (ht : d.test? r sender publisher = some test) {b : Bool}
    (h : test.result = .ok b) : b = true ↔ d.Matches r sender publisher := by
  rcases test?_cases ht with ⟨hm, rfl⟩ | ⟨hm, rfl⟩ | ⟨hm, rfl⟩ | ⟨hm, rfl⟩ | ⟨hm, rfl⟩ | ⟨hm, rfl⟩
  · cases h
    simp [Matches, hm]
  · rw [Run.result_ofExcept] at h
    obtain ⟨n, hn, hc⟩ := matchesNetwork_eq_ok_iff.1 h
    rcases hm with hm | hm <;> simp [Matches, hm, hn, hc]
  · simp only [Matches, hm]
    exact hasAddress_iff_of_result h
  · simp only [Matches, hm]
    rw [matchesExchange_eq] at h
    cases ha : r.mx (d.target publisher) with
    | error e => rw [ha] at h; cases h
    | ok answers =>
      rw [ha] at h
      cases answers with
      | nil => cases h; simp
      | cons mx others =>
        have hx : b = true ↔ r.HasAddress sender mx.exchange := hasAddress_iff_of_result h
        simpa using hx
  · rw [matchesPointer_eq] at h
    obtain ⟨names, ha, rfl⟩ := Except.map_eq_ok_iff.1 h
    simp [Matches, hm, ha]
  · rw [matchesExists_eq] at h
    obtain ⟨answers, ha, rfl⟩ := Except.map_eq_ok_iff.1 h
    simp [Matches, hm, ha]

end Directive

/-! ## Paths -/

/-- The qualifier of the innermost directive that does not say `pass`, if there is one. -/
def innermost (path : List Directive) : Qualifier :=
  ((path.reverse.map Directive.qualifier).find? (· ≠ .pass)).getD .pass

theorem innermost_singleton (d : Directive) : innermost [d] = d.qualifier := by
  by_cases h : d.qualifier = .pass <;> simp [innermost, h]

/-- A pass counts as the qualifier of the enclosing directive; any other verdict stands. -/
theorem innermost_cons (d : Directive) (path : List Directive) :
    innermost (d :: path) = if innermost path = .pass then d.qualifier else innermost path := by
  unfold innermost
  rw [List.reverse_cons, List.map_append, List.find?_append]
  cases h : (path.reverse.map Directive.qualifier).find? (· ≠ .pass) with
  | none => by_cases hd : d.qualifier = .pass <;> simp [hd]
  | some q =>
    have hq : q ≠ .pass := by simpa using List.find?_some h
    simp [hq]

/-- There is a pass only if every directive on the path says so. -/
theorem innermost_eq_pass_iff {path : List Directive} :
    innermost path = .pass ↔ ∀ d ∈ path, d.qualifier = .pass := by
  induction path with
  | nil => simp [innermost]
  | cons d path ih =>
    rw [innermost_cons, List.forall_mem_cons, ← ih]
    split
    · rename_i h; simp [h]
    · rename_i h; simp [h]

namespace Inquiry

/-- A path decides on a sender: a walk comes through all but its last directive to the last, which matches. -/
def Decides (i : Inquiry) (publisher : String) (record : Record) (path : List Directive) : Prop :=
  ∃ outer asked v, Reaches i publisher record outer asked v ∧ path = outer ++ [v.directive] ∧
    v.directive.nests = false ∧ v.directive.Matches i.resolver i.sender v.publisher

/-- A directive misses: it does not match, or the policy that it nests has no verdict. -/
def Misses (i : Inquiry) (publisher : String) (d : Directive) : Prop :=
  if d.nests then
    ∃ nested, i.resolver.Publishes d.value nested ∧ (i.deeper.evaluate d.value nested).result = .ok .none
  else ¬ d.Matches i.resolver i.sender publisher

/-- What a verdict on a record rests on. -/
def Justifies (i : Inquiry) (publisher : String) (record : Record) (q : Qualifier) : Prop :=
  if q = .none then ∀ d ∈ record.directives, i.Misses publisher d
  else ∃ path, i.Decides publisher record path ∧ q = innermost path ∧
    (q = .pass ↔ ∀ d ∈ path, d.qualifier = .pass)

variable {i : Inquiry}

theorem result_execute_of_test {publisher : String} {d : Directive} {test : Run Error Bool} {q : Qualifier}
    (ht : d.test? i.resolver i.sender publisher = some test) (h : (i.execute publisher d).result = .ok q) :
    ∃ b, test.result = .ok b ∧ q = if b then d.qualifier else .none := by
  rw [execute_of_test ht, Directive.onMatch_eq] at h
  obtain ⟨b, hb, rfl⟩ := Except.map_eq_ok_iff.1 (Except.mapError_eq_ok_iff.1 h)
  exact ⟨b, hb, rfl⟩

theorem result_execute_of_nests {publisher : String} {d : Directive} {q : Qualifier} (hd : d.nests = true)
    (h : (i.execute publisher d).result = .ok q) :
    ∃ nested p, i.CanNest ∧ i.resolver.Publishes d.value nested ∧
      (i.deeper.evaluate d.value nested).result = .ok p ∧ q = if p = .pass then d.qualifier else p := by
  rw [execute_of_nests hd, Directive.onVerdict_eq] at h
  obtain ⟨p, hr, rfl⟩ := Except.map_eq_ok_iff.1 h
  have hc := canNest_of_ok hr
  rw [nested_of_canNest hc] at hr
  obtain ⟨nested, hp, he⟩ := publishes_of_validate_ok hr
  exact ⟨nested, p, hc, hp, he, rfl⟩

/-- A verdict has a path. -/
theorem exists_path_of_evaluate (i : Inquiry) : ∀ {publisher : String} {record : Record} {q : Qualifier}, q ≠ .none →
    (i.evaluate publisher record).result = .ok q → ∃ path, i.Decides publisher record path ∧ q = innermost path := by
  induction i using nesting_induction with
  | step i ih =>
    intro publisher record q hq h
    rcases i.evaluate_cases publisher record with ⟨-, he⟩ | ⟨before, d, after, split, missed, -, he⟩
    · rw [he] at h
      cases h
      exact absurd rfl hq
    · rw [he] at h
      cases hd : d.nests with
      | false =>
        obtain ⟨test, ht⟩ := Directive.exists_test_of_not_nests hd i.resolver i.sender publisher
        obtain ⟨b, hb, rfl⟩ := result_execute_of_test ht h
        cases b with
        | false => exact absurd rfl hq
        | true =>
          have hm := (Directive.matches_iff_of_test ht hb).1 rfl
          exact ⟨[d], ⟨[], _, _, .here split missed, rfl, hd, hm⟩, (innermost_singleton d).symm⟩
      | true =>
        obtain ⟨nested, p, hc, hp, hr, rfl⟩ := result_execute_of_nests hd h
        -- no verdict of the nested policy would stand, as it is no pass
        have hpn : p ≠ .none := by
          rintro rfl
          exact hq rfl
        obtain ⟨path, ⟨outer, asked, v, hv, rfl, hn, hm⟩, rfl⟩ := ih hc hpn hr
        exact ⟨d :: (outer ++ [v.directive]),
          ⟨d :: outer, _, v, .inside split missed hd hc hp hv, rfl, hn, hm⟩, (innermost_cons _ _).symm⟩

/-- Without a verdict every directive misses, where no directive has the qualifier `none`. -/
theorem misses_of_evaluate {publisher : String} {record : Record}
    (hq : ∀ d ∈ record.directives, d.qualifier ≠ .none) (h : (i.evaluate publisher record).result = .ok .none) :
    ∀ d ∈ record.directives, i.Misses publisher d := by
  rcases i.evaluate_cases publisher record with ⟨missed, -⟩ | ⟨_, _, _, -, -, stop, he⟩
  · intro d hd
    have hr := missed d hd
    unfold Misses
    cases hn : d.nests with
    | true =>
      obtain ⟨nested, p, -, hp, he, hv⟩ := result_execute_of_nests hn hr
      rw [if_pos rfl]
      split at hv
      · exact absurd hv.symm (hq d hd)
      · exact ⟨nested, hp, by rw [he, ← hv]⟩
    | false =>
      obtain ⟨test, ht⟩ := Directive.exists_test_of_not_nests hn i.resolver i.sender publisher
      obtain ⟨b, hb, hv⟩ := result_execute_of_test ht hr
      rw [if_neg Bool.false_ne_true, ← Directive.matches_iff_of_test ht hb]
      rintro rfl
      exact hq d hd hv.symm
  · rw [he] at h
    exact absurd h stop

/-- The verdict on a record that has been read is justified. -/
theorem justifies_of_evaluate {publisher text : String} {record : Record} {q : Qualifier}
    (hp : Record.parse text = .ok record) (h : (i.evaluate publisher record).result = .ok q) :
    i.Justifies publisher record q := by
  unfold Justifies
  split
  · rename_i hq
    rw [hq] at h
    exact misses_of_evaluate (fun d hd => Record.qualifier_ne_none_of_parse hp hd) h
  · rename_i hq
    obtain ⟨path, hd, rfl⟩ := exists_path_of_evaluate i hq h
    exact ⟨path, hd, rfl, innermost_eq_pass_iff⟩

/-- **Every verdict is justified**, on a policy text and on the policy of a domain: it is the qualifier of the innermost
directive on a path to a match that does not say `pass`, and without such a verdict every directive misses. -/
theorem validate_justified (i : Inquiry) (domain text : String) (q : Qualifier) :
    ((i.validateText domain text).result = .ok q →
      ∃ record, Record.parse text = .ok record ∧ i.Justifies domain record q) ∧
    ((i.validate domain).result = .ok q →
      ∃ record, i.resolver.Publishes domain record ∧ i.Justifies domain record q) := by
  constructor
  · intro h
    obtain ⟨record, hp, he⟩ := parse_of_validateText_ok h
    exact ⟨record, hp, justifies_of_evaluate hp he⟩
  · intro h
    obtain ⟨record, hp, he⟩ := publishes_of_validate_ok h
    obtain ⟨_, _, -, -, hs⟩ := id hp
    exact ⟨record, hp, justifies_of_evaluate hs he⟩

theorem validate_justified_chain :
    ((Zone.chain.inquiry 2 0).validate "a.example").result = .ok .neutral ∧
      ∃ record, Zone.chain.resolver.Publishes "a.example" record ∧
        (Zone.chain.inquiry 2 0).Justifies "a.example" record .neutral :=
  ⟨rfl, (validate_justified (Zone.chain.inquiry 2 0) "a.example" "" .neutral).2 rfl⟩

end Inquiry

end SenderPolicy
