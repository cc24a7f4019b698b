import SenderPolicy.Proofs.Walk

/-!
# What a walk depends on

A walk depends on nothing but the answers to the questions that it asked, and of an answer only on what the policies look
at: the first text that is a policy, the set of addresses in canonical form, the first mail exchange, the set of names. Two
name services that agree so far on the questions of a walk lead to the same walk: what is asked later comes from values
that are the same in both.

- `Resolver.Agrees`: two name services agree on a question;
- `Run.Determines`: a run fixes another one, if the answers to its questions agree;
- `determines_validate`: a walk fixes the walk over another name service;
- `Resolver.agrees_of_rearranges`: what may happen to answers without a change of what the policies see;
- `validate_of_agrees`: the two walks are the same.
-/

namespace SenderPolicy

/-! ## Answers that agree -/

/-- Two answers fail with the same error, or are both given and alike. -/
def Alike {ε α : Type} (R : α → α → Prop) : Except ε α → Except ε α → Prop
  | .ok a, .ok b => R a b
  | .error e, .error f => e = f
  | _, _ => False

theorem alike_of_eq {ε α : Type} {R : α → α → Prop} (hR : ∀ a, R a a) {x y : Except ε α} (h : y = x) : Alike R x y := by
  subst h
  cases y with
  | error e => rfl
  | ok a => exact hR a

/-- What is made of answers that are alike is the same, if it only looks at what is alike. -/
theorem Alike.map_eq {ε α β : Type} {R : α → α → Prop} {x y : Except ε α} (h : Alike R x y) {f : α → β}
    (hf : ∀ a b, R a b → f b = f a) : y.map f = x.map f := by
  cases x with
  | error e =>
    cases y with
    | error e' => cases h; rfl
    | ok b => cases h
  | ok a =>
    cases y with
    | error e => cases h
    | ok b => exact congrArg Except.ok (hf a b h)

namespace Resolver

/-- Two name services agree on a question: on its failure, or on what policies look at in its answer. -/
def Agrees (r s : Resolver) : Query → Prop
  | .txt name => Alike (fun texts texts' => texts'.find? Record.isMarked = texts.find? Record.isMarked)
      (r.txt name) (s.txt name)
  | .ip name => Alike (fun answers answers' =>
      ∀ a, a ∈ answers'.map Address.canonical ↔ a ∈ answers.map Address.canonical) (r.ip name) (s.ip name)
  | .mx name => Alike (fun answers answers' =>
      answers'.head?.map MailExchange.exchange = answers.head?.map MailExchange.exchange) (r.mx name) (s.mx name)
  | .ptr address => Alike (fun names names' => ∀ n, n ∈ names' ↔ n ∈ names) (r.ptr address) (s.ptr address)

variable {r s : Resolver}

theorem policy_eq_of_agrees {name : String} (h : r.Agrees s (.txt name)) : s.policy name = r.policy name := by
  rw [r.policy_eq, s.policy_eq, Alike.map_eq h fun _ _ hf => hf]

end Resolver

/-! ## Runs in step -/

namespace Run

variable {ε δ α β : Type} {agree : Query → Prop}

/-- A run fixes another one, if the answers to its questions agree. -/
def Determines (agree : Query → Prop) (x y : Run ε α) : Prop :=
  (∀ q ∈ x.queries, agree q) → y = x

theorem Determines.map {x y : Run ε α} (h : Determines agree x y) (f : Run ε α → Run δ β)
    (hq : (f x).queries = x.queries) : Determines agree (f x) (f y) := by
  intro ha
  rw [hq] at ha
  rw [h ha]

/-- One run after another fixes what both fix: the second run starts from the same value. -/
theorem Determines.bind {x y : Run ε α} {f g : α → Run ε β} (h : Determines agree x y)
    (hf : ∀ a, Determines agree (f a) (g a)) : Determines agree (x >>= f) (y >>= g) := by
  intro ha
  cases hx : x.result with
  | error e =>
    rw [bind_of_error hx] at ha ⊢
    rw [h ha, bind_of_error hx]
  | ok a =>
    rw [bind_of_ok hx] at ha ⊢
    have first : y = x := h fun q hq => ha q (by simp [hq])
    have second : g a = f a := hf a fun q hq => ha q (by simp [hq])
    rw [first, bind_of_ok hx, second]

theorem determines_firstVerdict {v w : Directive → Run ε Qualifier} (h : ∀ d, Determines agree (v d) (w d))
    (ds : List Directive) : Determines agree (firstVerdict v ds) (firstVerdict w ds) :=
  firstVerdict_rel (fun _ _ => rfl) Determines.bind fun d _ => h d

/-- A question fixes what is made of its answer, if that only looks at what is alike. -/
theorem determines_of_answer {q : Query} {R : α → α → Prop} {x y : Except ε α} {f : α → β} (h : agree q → Alike R x y)
    (hf : ∀ a b, R a b → f b = f a) : Determines agree (⟨x.map f, [q]⟩ : Run ε β) ⟨y.map f, [q]⟩ := by
  intro ha
  have alike := h (ha q (by simp))
  rw [alike.map_eq hf]

end Run

/-! ## Directives -/

namespace Directive

variable {r s : Resolver} {sender : Address} {publisher : String} {d : Directive}

theorem determines_matchesAddress (domain : String) :
    Run.Determines (r.Agrees s) (matchesAddress r sender domain) (matchesAddress s sender domain) := by
  rw [matchesAddress_eq, matchesAddress_eq]
  refine Run.determines_of_answer (fun agree => agree) fun as bs same => ?_
  have hc := same sender.canonical
  rw [List.mem_map, List.mem_map] at hc
  rw [Bool.eq_iff_iff]
  simpa using hc

/-- The addresses of the first mail exchange are asked for, if there is one. -/
theorem matchesExchange_eq_bind (r : Resolver) (sender : Address) (domain : String) :
    matchesExchange r sender domain =
      (⟨(r.mx domain).map fun answers => answers.head?.map MailExchange.exchange, [.mx domain]⟩ >>= fun
        | none => pure false
        | some host => matchesAddress r sender host) := by
  rw [matchesExchange_eq]
  cases r.mx domain with
  | error e => rfl
  | ok answers => cases answers <;> rfl

theorem determines_matchesExchange (domain : String) :
    Run.Determines (r.Agrees s) (matchesExchange r sender domain) (matchesExchange s sender domain) := by
  rw [matchesExchange_eq_bind, matchesExchange_eq_bind]
  refine Run.Determines.bind (Run.determines_of_answer (fun agree => agree) fun as bs same => same) fun host => ?_
  cases host with
  | none => exact fun _ => rfl
  | some host => exact determines_matchesAddress host

theorem determines_matchesPointer (domain : String) :
    Run.Determines (r.Agrees s) (matchesPointer r sender domain) (matchesPointer s sender domain) := by
  rw [matchesPointer_eq, matchesPointer_eq]
  refine Run.determines_of_answer (fun agree => agree) fun as bs same => ?_
  rw [Bool.eq_iff_iff, List.contains_iff_mem, List.contains_iff_mem]
  exact same domain

theorem determines_matchesExists (template : String) :
    Run.Determines (r.Agrees s) (matchesExists r sender template) (matchesExists s sender template) := by
  rw [matchesExists_eq, matchesExists_eq]
  refine Run.determines_of_answer (fun agree => agree) fun as bs same => ?_
  -- the same addresses are none in both answers or in neither
  have none : bs.map Address.canonical = [] ↔ as.map Address.canonical = [] := by
    rw [List.eq_nil_iff_forall_not_mem, List.eq_nil_iff_forall_not_mem]
    exact forall_congr' fun a => not_congr (same a)
  rw [List.map_eq_nil_iff, List.map_eq_nil_iff] at none
  rw [Bool.eq_iff_iff]
  simpa [List.isEmpty_iff] using not_congr none

/-- The test of a directive fixes its test over another name service. -/
theorem exists_test_of_agrees {test : Run Error Bool} (h : d.test? r sender publisher = some test) :
    ∃ test', d.test? s sender publisher = some test' ∧ Run.Determines (r.Agrees s) test test' := by
  rcases test?_cases h with ⟨hm, rfl⟩ | ⟨hm, rfl⟩ | ⟨hm, rfl⟩ | ⟨hm, rfl⟩ | ⟨hm, rfl⟩ | ⟨hm, rfl⟩
  · exact ⟨_, by simp only [test?, hm], fun _ => rfl⟩
  · refine ⟨.ofExcept (matchesNetwork sender d.value), ?_, fun _ => rfl⟩
    rcases hm with hm | hm <;> simp only [test?, hm]
  · exact ⟨_, by simp only [test?, hm], determines_matchesAddress _⟩
  · exact ⟨_, by simp only [test?, hm], determines_matchesExchange _⟩
  · exact ⟨_, by simp only [test?, hm], determines_matchesPointer _⟩
  · exact ⟨_, by simp only [test?, hm], determines_matchesExists _⟩

end Directive

/-! ## Walks -/

namespace Inquiry

/-- The inquiry with another name service. -/
def asking (i : Inquiry) (s : Resolver) : Inquiry :=
  { i with resolver := s }

variable {i : Inquiry} {s : Resolver}

/-- One directive fixes the directive over another name service, if the policies nested in it do. -/
theorem determines_execute (nested : i.CanNest → ∀ domain,
      Run.Determines (i.resolver.Agrees s) (i.deeper.validate domain) ((i.deeper.asking s).validate domain))
    (publisher : String) (d : Directive) :
    Run.Determines (i.resolver.Agrees s) (i.execute publisher d) ((i.asking s).execute publisher d) := by
  cases hd : d.nests with
  | false =>
    obtain ⟨test, ht⟩ := Directive.exists_test_of_not_nests hd i.resolver i.sender publisher
    obtain ⟨test', ht', hs⟩ := Directive.exists_test_of_agrees (s := s) ht
    rw [execute_of_test ht, execute_of_test (i := i.asking s) ht']
    exact hs.map d.onMatch (by rw [Directive.onMatch_eq])
  | true =>
    rw [execute_of_nests hd, execute_of_nests hd]
    refine Run.Determines.map ?_ d.onVerdict (by rw [Directive.onVerdict_eq])
    exact nested_rel (i := i) (j := i.asking s) rfl rfl (fun _ _ => rfl) fun hc => nested hc d.value

/-- A walk fixes the walk over another name service that agrees on its questions. -/
theorem determines_validate (i : Inquiry) : ∀ (s : Resolver) (domain : String),
    Run.Determines (i.resolver.Agrees s) (i.validate domain) ((i.asking s).validate domain) := by
  induction i using nesting_induction with
  | step i ih =>
    intro s domain ha
    have policy : s.policy domain = i.resolver.policy domain :=
      Resolver.policy_eq_of_agrees (ha _ (i.txt_mem_queries_validate domain))
    cases hp : i.resolver.policy domain with
    | error e =>
      rw [hp] at policy
      rw [validate_of_policy_error hp, validate_of_policy_error (i := i.asking s) policy]
    | ok record =>
      rw [hp] at policy
      have published := Resolver.policy_eq_ok_iff.1 hp
      have published' : (i.asking s).resolver.Publishes domain record := Resolver.policy_eq_ok_iff.1 policy
      rw [validate_of_publishes published] at ha ⊢
      have walk : (i.asking s).evaluate domain record = i.evaluate domain record :=
        Run.determines_firstVerdict (determines_execute (fun hc => ih hc s) domain) record.directives
          fun q hq => ha q (List.mem_cons_of_mem _ hq)
      rw [validate_of_publishes published', walk]

end Inquiry

/-! ## Rearranged answers -/

namespace Resolver

/-- An answer stays, or is rearranged: addresses and names are put in another order or repeated, mail exchanges behind
the first and all preferences are changed, and so are texts that are no policy or stand behind the first policy. -/
def Rearranges (r s : Resolver) : Query → Prop
  | .txt name => s.txt name = r.txt name ∨ ∃ before before' rest rest', r.txt name = .ok (before ++ rest) ∧
      s.txt name = .ok (before' ++ rest') ∧ (∀ t ∈ before ++ before', Record.isMarked t = false) ∧
      rest'.head? = rest.head? ∧ ∀ t ∈ rest.head?, Record.isMarked t = true
  | .ip name => s.ip name = r.ip name ∨ ∃ answers answers', r.ip name = .ok answers ∧ s.ip name = .ok answers' ∧
      answers ⊆ answers' ∧ answers' ⊆ answers
  | .mx name => s.mx name = r.mx name ∨ ∃ first first' others others', r.mx name = .ok (first :: others) ∧
      s.mx name = .ok (first' :: others') ∧ first'.exchange = first.exchange
  | .ptr address => s.ptr address = r.ptr address ∨ ∃ names names', r.ptr address = .ok names ∧
      s.ptr address = .ok names' ∧ names ⊆ names' ∧ names' ⊆ names

variable {r s : Resolver}

theorem find?_of_head? {p : String → Bool} {before rest : List String} (hb : ∀ t ∈ before, p t = false)
    (hr : ∀ t ∈ rest.head?, p t = true) : (before ++ rest).find? p = rest.head? := by
  have none : before.find? p = none := List.find?_eq_none.2 fun t ht => by simp [hb t ht]
  rw [List.find?_append, none, Option.none_or]
  cases rest with
  | nil => rfl
  | cons t rest => exact List.find?_cons_of_pos (hr t rfl)

/-- Rearranged answers agree. -/
theorem agrees_of_rearranges {q : Query} (h : r.Rearranges s q) : r.Agrees s q := by
  cases q with
  | txt name =>
    rcases h with h | ⟨before, before', rest, rest', hr, hs, unmarked, head, marked⟩
    · refine alike_of_eq ?_ h
      exact fun _ => rfl
    · have left := find?_of_head? (fun t ht => unmarked t (List.mem_append_left _ ht)) marked
      have right := find?_of_head? (fun t ht => unmarked t (List.mem_append_right _ ht)) (head ▸ marked)
      rw [Agrees, hr, hs]
      exact right.trans (head.trans left.symm)
  | ip name =>
    rcases h with h | ⟨answers, answers', hr, hs, sub, sup⟩
    · refine alike_of_eq ?_ h
      exact fun _ _ => Iff.rfl
    · rw [Agrees, hr, hs]
      intro a
      exact ⟨fun ha => List.map_subset _ sup ha, fun ha => List.map_subset _ sub ha⟩
  | mx name =>
    rcases h with h | ⟨first, first', others, others', hr, hs, host⟩
    · refine alike_of_eq ?_ h
      exact fun _ => rfl
    · rw [Agrees, hr, hs]
      exact congrArg some host
  | ptr address =>
    rcases h with h | ⟨names, names', hr, hs, sub, sup⟩
    · refine alike_of_eq ?_ h
      exact fun _ _ => Iff.rfl
    · rw [Agrees, hr, hs]
      exact fun n => ⟨fun hn => sup hn, fun hn => sub hn⟩

end Resolver

namespace Inquiry

/-- **A walk depends on nothing but what it observed.** If another name service agrees on every question of a walk, it leads
to the same walk, with the same questions in the same order; so does one that only rearranges the answers to these
questions, and answers all others as it likes. -/
theorem validate_of_agrees (r s : Resolver) (sender : Address) (domain : String) (b : Budget) (fuel : Nat) :
    let walk := (Inquiry.mk r sender b fuel).validate domain
    ((∀ q ∈ walk.queries, r.Agrees s q) → (Inquiry.mk s sender b fuel).validate domain = walk) ∧
    ((∀ q ∈ walk.queries, r.Rearranges s q) → (Inquiry.mk s sender b fuel).validate domain = walk) := by
  have determined := determines_validate ⟨r, sender, b, fuel⟩ s domain
  exact ⟨determined, fun h => determined fun q hq => Resolver.agrees_of_rearranges (h q hq)⟩

end Inquiry

/-- A domain whose mail hosts may send. -/
def Zone.relay : Zone where
  txt := [("a.example", ["v=spf1 mx -all"])]
  mx := [("a.example", [⟨10, "m.example"⟩, ⟨20, "n.example"⟩])]
  ip := [("m.example", [.v4 0xC0000202#32, .v4 0xC0000201#32])]

/-- The same domain, with other texts, preferences and later hosts, and its addresses in another order and form. -/
def Zone.relayShuffled : Zone where
  txt := [("a.example", ["verification", "v=spf1 mx -all", "v=spf1 ?all"]), ("b.example", ["v=spf1 all"])]
  mx := [("a.example", [⟨30, "m.example"⟩, ⟨5, "o.example"⟩])]
  ip := [("m.example", [.v6 0xFFFFC0000201#128, .v4 0xC0000202#32, .v4 0xC0000202#32])]

namespace Inquiry

theorem validate_of_agrees_relay :
    ((Zone.relay.inquiry 0 0).validate "a.example").result = .ok .pass ∧
      (Zone.relayShuffled.inquiry 0 0).validate "a.example" = (Zone.relay.inquiry 0 0).validate "a.example" := by
  have asked : ((Zone.relay.inquiry 0 0).validate "a.example").queries =
      [.txt "a.example", .mx "a.example", .ip "m.example"] := rfl
  refine ⟨rfl, (validate_of_agrees Zone.relay.resolver Zone.relayShuffled.resolver (.v4 0xC0000201#32) "a.example"
    (.ofInt 0) 0).1 ?_⟩
  intro q hq
  have hq : q ∈ [Query.txt "a.example", .mx "a.example", .ip "m.example"] := asked ▸ hq
  simp only [List.mem_cons, List.not_mem_nil, or_false] at hq
  rcases hq with rfl | rfl | rfl
  · show List.find? _ _ = List.find? _ _
    rfl
  · show Option.map _ _ = Option.map _ _
    rfl
  · show ∀ a, a ∈ [Address.v4 0xC0000201#32, .v4 0xC0000202#32, .v4 0xC0000202#32] ↔
      a ∈ [Address.v4 0xC0000202#32, .v4 0xC0000201#32]
    simp [or_comm]

end Inquiry

end SenderPolicy
