import SenderPolicy.Proofs.Failure

/-!
# The limit on the nesting

A limit on the nesting of policies only ever cuts a walk short. A walk that it does not cut is the same under every
larger limit and without one; a walk that it cuts asks the first questions of the larger one. It cuts a walk exactly
where the walk comes to a directive that nests a policy in as many policies as the limit says: there, and nowhere else,
two walks that are followed side by side part.

- `Run.Cuts`: a run is another one, or its beginning;
- `Inquiry.Follows`: an inquiry follows policies nested so deep;
- `cuts_validate`: a walk cuts the walk with more levels;
- `validate_limit`: what a limit does to a walk.
-/

namespace SenderPolicy

/-! ## Runs cut short -/

namespace Run

variable {ε α β : Type} {e : ε}

/-- A run is another one, or it ends with the error `e` after the first questions of the other one. -/
def Cuts (e : ε) (x y : Run ε α) : Prop :=
  x = y ∨ x.result = .error e ∧ x.queries <+: y.queries

/-- One run after another is cut short where one of them is. -/
theorem Cuts.bind {x y : Run ε α} {f g : α → Run ε β} (h : Cuts e x y) (hf : ∀ a, Cuts e (f a) (g a)) :
    Cuts e (x >>= f) (y >>= g) := by
  rcases h with rfl | ⟨hr, hq⟩
  · cases hx : x.result with
    | error e' => exact .inl (by rw [bind_of_error hx, bind_of_error hx])
    | ok a =>
      rw [bind_of_ok hx, bind_of_ok hx]
      rcases hf a with hfa | ⟨hr, hq⟩
      · exact .inl (by rw [hfa])
      · exact .inr ⟨hr, (List.prefix_append_right_inj _).2 hq⟩
  · rw [bind_of_error hr]
    refine .inr ⟨rfl, ?_⟩
    rw [queries_bind]
    exact hq.trans (List.prefix_append _ _)

theorem cuts_firstVerdict {v w : Directive → Run ε Qualifier} (h : ∀ d, Cuts e (v d) (w d)) (ds : List Directive) :
    Cuts e (firstVerdict v ds) (firstVerdict w ds) :=
  firstVerdict_rel (fun _ => .inl rfl) Cuts.bind fun d _ => h d

end Run

/-! ## More levels -/

namespace Inquiry

/-- Policies are followed `n` levels deep, by the fuel where there is no limit. -/
def Follows (i : Inquiry) (n : Nat) : Prop :=
  (n : Int) ≤ i.budget.depth.toInt ∨ i.budget.depth.toInt < 0 ∧ n ≤ i.fuel

variable {i j : Inquiry} {n : Nat}

theorem Follows.canNest (h : i.Follows (n + 1)) : i.CanNest := by
  have hd : i.budget.depth ≠ 0 := by
    intro hz
    have := Budget.depth_eq_zero_iff.1 hz
    rcases h with hl | ⟨hn, -⟩ <;> omega
  refine ⟨?_, hd⟩
  rcases h with hl | ⟨hn, hf⟩
  · exact levels_ne_zero_of_nonneg (by omega)
  · rw [levels, Budget.levels_of_neg hn]
    omega

/-- A nested policy is followed one level less. -/
theorem Follows.deeper (h : i.Follows (n + 1)) : i.deeper.Follows n := by
  have hc := h.canNest
  rcases h with hl | ⟨hn, hf⟩
  · have hd := toInt_deeper (by omega) hc
    exact .inl (by omega)
  · have hd : i.deeper.budget.depth.toInt < 0 := Budget.spend_of_neg hn
    have hk : i.deeper.fuel = i.fuel - 1 := rfl
    exact .inr ⟨hd, by omega⟩

/-- The same inquiry with a larger limit on the nesting, or without one; then it is followed for more levels than the
limit allows. -/
structure Extends (i j : Inquiry) : Prop where
  resolver : j.resolver = i.resolver
  sender : j.sender = i.sender
  limited : 0 ≤ i.budget.depth.toInt
  larger : i.budget.depth.toInt < j.budget.depth.toInt ∨
    j.budget.depth.toInt < 0 ∧ i.budget.depth.toInt < j.fuel

/-- What extends a limit follows one more level. -/
theorem Extends.follows (h : Extends i j) : j.Follows (i.budget.depth.toInt.toNat + 1) := by
  have hl := h.limited
  rcases h.larger with hg | ⟨hn, hf⟩
  · exact .inl (by omega)
  · exact .inr ⟨hn, by omega⟩

/-- What is left for nested policies is more again. -/
theorem Extends.deeper (h : Extends i j) (hc : i.CanNest) : Extends i.deeper j.deeper := by
  have hl := h.limited
  have hi := toInt_deeper hl hc
  refine ⟨h.resolver, h.sender, limited_deeper hl hc, ?_⟩
  rcases h.follows.deeper with hg | ⟨hn, hf⟩
  · exact .inl (by omega)
  · exact .inr ⟨hn, by omega⟩

section

variable {e : Halt} (resolver : j.resolver = i.resolver) (sender : j.sender = i.sender)
  (nested : ∀ domain, Run.Cuts e (i.nested domain) (j.nested domain))
include resolver sender nested

/-- One directive is cut short where the policy nested in it is. -/
theorem cuts_execute (publisher : String) (d : Directive) :
    Run.Cuts e (i.execute publisher d) (j.execute publisher d) := by
  cases hd : d.nests with
  | false => exact .inl (execute_eq_of_not_nests resolver sender hd publisher).symm
  | true =>
    rw [execute_of_nests hd, execute_of_nests hd]
    exact (nested d.value).bind fun q => .inl rfl

/-- So is a policy text. -/
theorem cuts_validateText (publisher text : String) :
    Run.Cuts e (i.validateText publisher text) (j.validateText publisher text) :=
  Run.Cuts.bind (.inl rfl) fun record =>
    Run.cuts_firstVerdict (cuts_execute resolver sender nested publisher) record.directives

/-- So is the policy that a domain publishes. -/
theorem cuts_validate_of_nested (domain : String) : Run.Cuts e (i.validate domain) (j.validate domain) :=
  Run.Cuts.bind (.inl (by rw [resolver])) fun text => cuts_validateText resolver sender nested domain text

end

/-- A nested policy is cut short where no level is left for it, or where it is cut short itself. -/
theorem cuts_nested (h : Extends i j)
    (deeper : i.CanNest → ∀ domain, Run.Cuts (.failure .tooDeep) (i.deeper.validate domain) (j.deeper.validate domain))
    (domain : String) : Run.Cuts (.failure .tooDeep) (i.nested domain) (j.nested domain) := by
  rw [nested_of_canNest h.follows.canNest]
  by_cases hz : i.budget.depth = 0
  · -- the only place where the two walks part
    rw [nested_of_spent hz]
    exact .inr ⟨rfl, List.nil_prefix⟩
  · have hc : i.CanNest := ⟨levels_ne_zero_of_nonneg h.limited, hz⟩
    rw [nested_of_canNest hc]
    exact deeper hc domain

/-- A walk is cut short only by its limit: with more levels it is the same, or the limit ends it and it asks the first
questions of the walk with more levels. -/
theorem cuts_validate (i : Inquiry) : ∀ {j : Inquiry}, Extends i j →
    ∀ domain, Run.Cuts (.failure .tooDeep) (i.validate domain) (j.validate domain) := by
  induction i using nesting_induction with
  | step i ih =>
    intro j h
    exact cuts_validate_of_nested h.resolver h.sender (cuts_nested h fun hc => ih hc (h.deeper hc))

end Inquiry

/-! ## Errors of reading -/

/-- The errors of reading a record. -/
def Error.IsSyntax : Error → Prop
  | .unmarked | .malformed | .unknownSymbol _ | .unknownMechanism _ | .unknownModifier _ => True
  | _ => False

namespace Record

theorem isSyntax_of_ordinary {q : Qualifier} {name value : List Char} {e : Error}
    (h : ordinary q name value = .error e) : e.IsSyntax := by
  unfold ordinary at h
  split at h <;> cases h
  trivial

theorem isSyntax_of_modifier {name value : List Char} {e : Error} (h : modifier name value = .error e) :
    e.IsSyntax := by
  unfold modifier at h
  split at h <;> cases h
  trivial

theorem isSyntax_of_qualifier {c : Char} {e : Error} (h : qualifier c = .error e) : e.IsSyntax := by
  unfold qualifier at h
  split at h <;> cases h
  trivial

theorem Token.isSyntax_of_finish {t : Token} {e : Error} (h : t.finish = .error e) : e.IsSyntax := by
  cases t with
  | lead q => cases h
  | named q name => exact isSyntax_of_ordinary (Except.map_eq_error_iff.1 h)
  | valued q name sep value =>
    have hd := Except.map_eq_error_iff.1 h
    split at hd
    · exact isSyntax_of_modifier hd
    · exact isSyntax_of_ordinary hd

theorem Token.isSyntax_of_push {t : Token} {c : Char} {e : Error} (h : t.push c = .error e) : e.IsSyntax := by
  cases t with
  | lead q =>
    simp only [Token.push] at h
    split at h
    · exact isSyntax_of_qualifier (Except.map_eq_error_iff.1 h)
    · cases h
      trivial
    · cases h
    · cases h
  | named q name =>
    simp only [Token.push] at h
    split at h <;> cases h
  | valued q name sep value =>
    simp only [Token.push] at h
    split at h <;> cases h

theorem isSyntax_of_directivesFrom {t : Token} {s : List Char} {e : Error} (h : directivesFrom t s = .error e) :
    e.IsSyntax := by
  induction s generalizing t with
  | nil => exact Token.isSyntax_of_finish h
  | cons c s ih =>
    rw [directivesFrom] at h
    split at h
    · rcases Except.bind_eq_error_iff.1 h with hf | ⟨first, -, h⟩
      · exact Token.isSyntax_of_finish hf
      · rcases Except.bind_eq_error_iff.1 h with hr | ⟨rest, -, h⟩
        · exact ih hr
        · cases h
    · rcases Except.bind_eq_error_iff.1 h with hp | ⟨u, -, hs⟩
      · exact Token.isSyntax_of_push hp
      · exact ih hs

/-- Reading a record fails only on its syntax. -/
theorem isSyntax_of_parse {text : String} {e : Error} (h : parse text = .error e) : e.IsSyntax := by
  unfold parse ofChars at h
  split at h
  · exact isSyntax_of_directivesFrom (Except.map_eq_error_iff.1 h)
  · cases h
    trivial

end Record

/-! ## What a limit does -/

/-- Of the answers that end a walk, only a failure of the service is about the nesting. -/
theorem Resolver.fails_tooDeep_of_spoils {r : Resolver} {q : Query} (h : r.Spoils q .tooDeep) :
    r.Fails q .tooDeep := by
  cases q with
  | ip | mx | ptr => exact h
  | txt name =>
    rcases policy_eq_error_iff.1 h with ht | ⟨_, -, ⟨-, he⟩ | ⟨text, -, hp⟩⟩
    · exact ht
    · cases he
    · exact absurd (Record.isSyntax_of_parse hp) id

/-- A zone without faults answers every question. -/
theorem Zone.not_fails_of_no_faults {z : Zone} (h : z.faults = []) (q : Query) (e : Error) :
    ¬ z.resolver.Fails q e := by
  cases q <;> simp [Resolver.Fails, Zone.resolver, Zone.answer, h]

namespace Inquiry

variable {i j : Inquiry}

/-- A walk that is cut short comes to a directive for which no level is left, unless a question fails so. -/
theorem exists_reaches_of_tooDeep (answers : ∀ q e, i.resolver.Fails q e → e ≠ .tooDeep)
    (limited : 0 ≤ i.budget.depth.toInt) {domain : String}
    (h : (i.validate domain).result = .error (.failure .tooDeep)) :
    ∃ record outer asked v, i.resolver.Publishes domain record ∧ Reaches i domain record outer asked v ∧
      v.directive.nests = true ∧ (outer.length : Int) = i.budget.depth.toInt := by
  rcases i.exists_spoils_or_raises h with ⟨q, -, hs⟩ | ⟨record, outer, asked, v, hp, hv, hr⟩
  · exact absurd rfl (answers q _ (Resolver.fails_tooDeep_of_spoils hs))
  · rcases hr with ⟨-, _, -, he⟩ | ⟨nests, spent, -⟩
    · cases he
    · have hl := (hv.depth limited).1
      have hz := Budget.depth_eq_zero_iff.1 spent
      exact ⟨record, outer, asked, v, hp, hv, nests, by omega⟩

/-- A walk that comes to a directive for which no level is left is cut short, and nothing is asked for the directive. -/
theorem validate_of_reaches (limited : 0 ≤ i.budget.depth.toInt) {domain : String} {record : Record}
    {outer : List Directive} {asked : List Query} {v : Visit} (hp : i.resolver.Publishes domain record)
    (hv : Reaches i domain record outer asked v) (nests : v.directive.nests = true)
    (hl : (outer.length : Int) = i.budget.depth.toInt) :
    i.validate domain = ⟨.error (.failure .tooDeep), .txt domain :: asked⟩ := by
  have hd := (hv.depth limited).1
  have spent : v.inquiry.budget.depth = 0 := Budget.depth_eq_zero_iff.2 (by omega)
  exact validate_of_raises hp hv (.inr ⟨nests, spent, rfl⟩)

/-- **What a limit on the nesting does to a walk.** A walk that it does not cut short comes to the same end, after the same
questions, under any larger limit and without one; a walk that it cuts short asks the first questions of that walk. It cuts
a walk short exactly if the walk comes to a directive that nests a policy, in as many policies as the limit says, and
nothing is asked for that directive. -/
theorem validate_limit (r : Resolver) (sender : Address) (domain : String) (b b' : Budget) (fuel fuel' : Nat)
    (answers : ∀ q e, r.Fails q e → e ≠ .tooDeep) (limited : 0 ≤ b.depth.toInt)
    (larger : b.depth.toInt < b'.depth.toInt ∨ b'.depth.toInt < 0)
    (followed : b'.depth.toInt < 0 → b.depth.toInt < fuel') :
    let walk := (Inquiry.mk r sender b fuel).validate domain
    let longer := (Inquiry.mk r sender b' fuel').validate domain
    (walk.result ≠ .error (.failure .tooDeep) → longer.result ≠ .error .unfinished ∧ longer = walk) ∧
    (walk.result = .error (.failure .tooDeep) → walk.queries <+: longer.queries) ∧
    (walk.result = .error (.failure .tooDeep) ↔
      ∃ record outer asked v, r.Publishes domain record ∧
        Reaches ⟨r, sender, b, fuel⟩ domain record outer asked v ∧ v.directive.nests = true ∧
        (outer.length : Int) = b.depth.toInt) ∧
    (∀ record outer asked v, r.Publishes domain record →
      Reaches ⟨r, sender, b, fuel⟩ domain record outer asked v → v.directive.nests = true →
        (outer.length : Int) = b.depth.toInt → walk.queries = .txt domain :: asked) := by
  intro walk longer
  have hx : Extends ⟨r, sender, b, fuel⟩ ⟨r, sender, b', fuel'⟩ :=
    ⟨rfl, rfl, limited, larger.imp_right fun hn => ⟨hn, followed hn⟩⟩
  have cuts : Run.Cuts (.failure .tooDeep) walk longer := cuts_validate _ hx domain
  refine ⟨fun hr => ?_, fun hr => ?_,
    ⟨exists_reaches_of_tooDeep (i := ⟨r, sender, b, fuel⟩) answers limited, ?_⟩, ?_⟩
  · rcases cuts with he | ⟨hc, -⟩
    · rw [← he]
      exact ⟨validate_ne_unfinished ⟨r, sender, b, fuel⟩ limited domain, rfl⟩
    · exact absurd hc hr
  · rcases cuts with he | ⟨-, hq⟩
    · exact he ▸ List.prefix_refl _
    · exact hq
  · rintro ⟨record, outer, asked, v, hp, hv, nests, hl⟩
    exact congrArg Run.result (validate_of_reaches (i := ⟨r, sender, b, fuel⟩) limited hp hv nests hl)
  · intro record outer asked v hp hv nests hl
    exact congrArg Run.queries (validate_of_reaches (i := ⟨r, sender, b, fuel⟩) limited hp hv nests hl)

theorem validate_limit_chain :
    (((Zone.chain.inquiry 1 0).validate "a.example").result = .error (.failure .tooDeep) ∧
      ((Zone.chain.inquiry 1 0).validate "a.example").queries <+:
        ((Zone.chain.inquiry (-1) 2).validate "a.example").queries) ∧
    ((Zone.chain.inquiry 2 0).validate "a.example").result = .ok .neutral ∧
      (Zone.chain.inquiry 3 0).validate "a.example" = (Zone.chain.inquiry 2 0).validate "a.example" := by
  have answers : ∀ q e, Zone.chain.resolver.Fails q e → e ≠ .tooDeep :=
    fun q e h => absurd h (Zone.not_fails_of_no_faults rfl q e)
  have deep : ((Zone.chain.inquiry 1 0).validate "a.example").result = .error (.failure .tooDeep) := rfl
  have neutral : ((Zone.chain.inquiry 2 0).validate "a.example").result = .ok .neutral := rfl
  refine ⟨⟨deep, ?_⟩, neutral, ?_⟩
  · exact (validate_limit Zone.chain.resolver _ "a.example" (.ofInt 1) (.ofInt (-1)) 0 2 answers (by decide)
      (.inr (by decide)) fun _ => by decide).2.1 deep
  · have hn : ((Zone.chain.inquiry 2 0).validate "a.example").result ≠ .error (.failure .tooDeep) := by
      rw [neutral]
      simp
    exact ((validate_limit Zone.chain.resolver _ "a.example" (.ofInt 2) (.ofInt 3) 0 0 answers (by decide)
      (.inl (by decide)) fun h => absurd h (by decide)).1 hn).2

end Inquiry

end SenderPolicy
