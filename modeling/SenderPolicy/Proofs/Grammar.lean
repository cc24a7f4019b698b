import Mathlib.Data.List.TakeWhile
import SenderPolicy.Proofs.Canonical

/-!
# The grammar of policy texts

The terms of a policy text, cut from the text by longest runs, and the fault of each term, said without the reader. The
reader accepts a text exactly if no term has a fault, and otherwise answers with the fault of the first one that has.

- `term?`, `terms`: the first term of a text, and all of them;
- `begins_of_term?`: a text that has a first term is put together from its parts;
- `directivesFrom_of_begins`: the reader takes such a text as the directive of the term and the directives of the rest;
- `directivesFrom_eq_mapM`: the reader makes the directives of the terms, one after the other;
- `parse_iff_terms`: which texts are accepted, and the error of each other one.
-/

namespace SenderPolicy.Record

/-! ## Terms -/

/-- What separates terms. -/
def blanks : List Char := [' ', '\r', '\n']

/-- What can stand in front of a name. -/
def signs : List Char := ['+', '-', '~', '?']

/-- What stands between a name and a value. -/
def separators : List Char := [':', '=']

/-- A term of a policy text. -/
inductive Term where
  /-- A separator where a name should be. -/
  | stray (separator : Char)
  /-- A name behind a lead of blanks and signs. -/
  | bare (lead name : List Char)
  | valued (lead name : List Char) (separator : Char) (value : List Char)
  deriving DecidableEq, Repr

/-- The term of a name, and what stands behind it: a value if a separator follows the name. -/
def termOf (lead name : List Char) : List Char → Term × List Char
  | [] => (.bare lead name, [])
  | d :: rest =>
    if d ∈ separators then
      let found := rest.dropWhile (· ∈ blanks)
      (.valued lead name d (found.takeWhile (· ∉ blanks)), found.dropWhile (· ∉ blanks))
    else (.bare lead name, d :: rest)

/-- The first term of a text, and what stands behind it. -/
def term? (s : List Char) : Option (Term × List Char) :=
  match s.dropWhile (· ∈ blanks ++ signs) with
  | [] => none
  | c :: rest =>
    if c ∈ separators then some (.stray c, rest)
    else
      let name := c :: rest.takeWhile (· ∉ blanks ++ separators)
      some (termOf (s.takeWhile (· ∈ blanks ++ signs)) name (rest.dropWhile (· ∉ blanks ++ separators)))

/-- A name starts with a character that has no other meaning; a sign inside it is one of its letters. -/
def IsName (name : List Char) : Prop :=
  ∃ c w, name = c :: w ∧ c ∉ blanks ++ signs ++ separators ∧ ∀ x ∈ w, x ∉ blanks ++ separators

/-- What stands behind a term: nothing, or something that starts with a blank. -/
def EndsTerm (rest : List Char) : Prop :=
  ∀ c ∈ rest.head?, c ∈ blanks

/-- A text begins with a term, and goes on with `rest`. -/
inductive Begins : List Char → Term → List Char → Prop
  | stray {lead rest : List Char} {c : Char} (hl : ∀ x ∈ lead, x ∈ blanks ++ signs) (hc : c ∈ separators) :
      Begins (lead ++ c :: rest) (.stray c) rest
  | bare {lead name rest : List Char} (hl : ∀ x ∈ lead, x ∈ blanks ++ signs) (hn : IsName name)
      (hr : EndsTerm rest) : Begins (lead ++ (name ++ rest)) (.bare lead name) rest
  | valued {lead name gap value rest : List Char} {d : Char} (hl : ∀ x ∈ lead, x ∈ blanks ++ signs)
      (hn : IsName name) (hd : d ∈ separators) (hg : ∀ x ∈ gap, x ∈ blanks) (hv : ∀ x ∈ value, x ∉ blanks)
      (hr : EndsTerm rest) (he : value = [] → rest = []) :
      Begins (lead ++ (name ++ d :: (gap ++ (value ++ rest)))) (.valued lead name d value) rest

/-- A text is its longest run at the start and the rest, which does not go on with the run. -/
theorem exists_longest_run (p : Char → Bool) (s : List Char) :
    ∃ run rest, s.takeWhile p = run ∧ s.dropWhile p = rest ∧ s = run ++ rest ∧ (∀ x ∈ run, p x = true) ∧
      ∀ c ∈ rest.head?, p c = false := by
  refine ⟨_, _, rfl, rfl, List.takeWhile_append_dropWhile.symm, fun x hx => List.mem_takeWhile_imp hx, ?_⟩
  intro c hc
  have hn := List.head?_dropWhile_not p s
  rw [Option.mem_def.1 hc] at hn
  exact hn

theorem begins_termOf {lead name behind : List Char} (hl : ∀ x ∈ lead, x ∈ blanks ++ signs) (hn : IsName name)
    (hb : ∀ d ∈ behind.head?, d ∈ blanks ++ separators) :
    Begins (lead ++ (name ++ behind)) (termOf lead name behind).1 (termOf lead name behind).2 := by
  cases behind with
  | nil => exact .bare hl hn fun _ hr => by cases hr
  | cons d behind =>
    by_cases hd : d ∈ separators
    · obtain ⟨gap, found, -, hfound, rfl, hgap, hf⟩ := exists_longest_run (· ∈ blanks) behind
      obtain ⟨value, rest, hvalue, hrest, rfl, hv, hr⟩ := exists_longest_run (· ∉ blanks) found
      simp only [termOf, hd, if_true, hfound, hvalue, hrest]
      refine .valued hl hn hd (fun x hx => of_decide_eq_true (hgap x hx)) (fun x hx => of_decide_eq_true (hv x hx))
        (fun x hx => not_not.1 (of_decide_eq_false (hr x hx))) ?_
      -- what follows the blanks is no blank, so only the end of the text leaves a value empty
      rintro rfl
      cases rest with
      | nil => rfl
      | cons x rest =>
        have h₁ : x ∉ blanks := of_decide_eq_false (hf x rfl)
        have h₂ : x ∈ blanks := not_not.1 (of_decide_eq_false (hr x rfl))
        exact absurd h₂ h₁
    · simp only [termOf, hd, if_false]
      refine .bare hl hn fun x hx => ?_
      cases hx
      exact (List.mem_append.1 (hb d rfl)).resolve_right hd

/-- A text that has a first term is put together from its parts. -/
theorem begins_of_term? {s rest : List Char} {t : Term} (h : term? s = some (t, rest)) : Begins s t rest := by
  obtain ⟨lead, behind, hlead, hbehind, rfl, hl, hb⟩ := exists_longest_run (· ∈ blanks ++ signs) s
  simp only [term?, hlead, hbehind] at h
  have hl' : ∀ x ∈ lead, x ∈ blanks ++ signs := fun x hx => of_decide_eq_true (hl x hx)
  cases behind with
  | nil => cases h
  | cons c behind =>
    have hc : c ∉ blanks ++ signs := of_decide_eq_false (hb c rfl)
    by_cases hsep : c ∈ separators
    · simp only [hsep, if_true] at h
      cases h
      exact .stray hl' hsep
    · obtain ⟨w, u, hw, hu, rfl, hwn, hun⟩ := exists_longest_run (· ∉ blanks ++ separators) behind
      have name : IsName (c :: w) := by
        refine ⟨c, w, rfl, ?_, fun x hx => of_decide_eq_true (hwn x hx)⟩
        rw [List.mem_append]
        exact fun hm => hm.elim hc hsep
      have begins := begins_termOf hl' name fun d hd => not_not.1 (of_decide_eq_false (hun d hd))
      simp only [hsep, if_false, hw, hu, Option.some.injEq] at h
      rw [h] at begins
      exact begins

theorem forall_mem_of_term?_eq_none {s : List Char} (h : term? s = none) : ∀ x ∈ s, x ∈ blanks ++ signs := by
  obtain ⟨lead, behind, hlead, hbehind, rfl, hl, -⟩ := exists_longest_run (· ∈ blanks ++ signs) s
  simp only [term?, hlead, hbehind] at h
  cases behind with
  | nil =>
    intro x hx
    rw [List.append_nil] at hx
    exact of_decide_eq_true (hl x hx)
  | cons c behind =>
    simp only at h
    split at h <;> cases h

theorem Begins.length_lt {s rest : List Char} {t : Term} (h : Begins s t rest) : rest.length < s.length := by
  cases h with
  | stray =>
    simp
    omega
  | bare _ hn _ =>
    obtain ⟨c, w, rfl, -⟩ := hn
    simp
    omega
  | valued _ _ _ _ _ _ _ =>
    simp
    omega

/-- The terms of a text, in their order. -/
def terms (s : List Char) : List Term :=
  match _h : term? s with
  | none => []
  | some (t, rest) => t :: terms rest
termination_by s.length
decreasing_by exact (begins_of_term? ‹_›).length_lt

/-! ## The directive of a term -/

/-- The qualifier of the last sign in front of a name, or the default where there is none. -/
def leadQualifier (default : Qualifier) (lead : List Char) : Qualifier :=
  (lead.filterMap Qualifier.ofSymbol?).getLast?.getD default

def Term.directive : Term → Except Error Directive
  | stray _ => .error .malformed
  | bare lead name => ordinary (leadQualifier .default lead) name []
  | valued lead name sep value =>
    if sep = '=' then modifier name value else ordinary (leadQualifier .default lead) name value

/-! ## The reader on a term -/

theorem mem_blanks_iff {c : Char} : c ∈ blanks ↔ glyph c = .blank := by
  rw [glyph_eq_blank_iff]
  simp [blanks]

theorem mem_signs_iff {c : Char} : c ∈ signs ↔ glyph c = .sign := by
  unfold glyph signs
  split
  · simp_all
  · split
    · simp_all
    · split <;> simp_all

theorem mem_separators_iff {c : Char} : c ∈ separators ↔ glyph c = .separator := by
  unfold glyph separators
  split
  · rename_i h
    simp only [List.mem_cons, List.not_mem_nil, or_false] at h
    rcases h with rfl | rfl | rfl | rfl <;> decide
  · split
    · simp_all
    · split <;> simp_all

theorem ofSymbol?_of_mem {c : Char} (h : c ∈ blanks ++ signs) :
    Qualifier.ofSymbol? c = none ∧ glyph c = .blank ∨
      ∃ q, Qualifier.ofSymbol? c = some q ∧ glyph c = .sign := by
  simp only [blanks, signs, List.cons_append, List.nil_append, List.mem_cons, List.not_mem_nil, or_false] at h
  rcases h with rfl | rfl | rfl | rfl | rfl | rfl | rfl
  · exact .inl ⟨rfl, rfl⟩
  · exact .inl ⟨rfl, rfl⟩
  · exact .inl ⟨rfl, rfl⟩
  · exact .inr ⟨.pass, rfl, rfl⟩
  · exact .inr ⟨.fail, rfl, rfl⟩
  · exact .inr ⟨.softfail, rfl, rfl⟩
  · exact .inr ⟨.neutral, rfl, rfl⟩

/-- In front of a name the reader keeps nothing but the last sign. -/
theorem directivesFrom_lead {q : Qualifier} {lead s : List Char} (h : ∀ x ∈ lead, x ∈ blanks ++ signs) :
    directivesFrom (.lead q) (lead ++ s) = directivesFrom (.lead (leadQualifier q lead)) s := by
  induction lead generalizing q with
  | nil => rfl
  | cons c lead ih =>
    have rest : ∀ x ∈ lead, x ∈ blanks ++ signs := fun x hx => h x (by simp [hx])
    rw [List.cons_append, directivesFrom, if_neg (by simp [Token.endsAtBlank])]
    rcases ofSymbol?_of_mem (h c (by simp)) with ⟨hc, hg⟩ | ⟨p, hc, hg⟩
    · have hq : leadQualifier q (c :: lead) = leadQualifier q lead := by
        rw [leadQualifier, List.filterMap_cons_none hc, leadQualifier]
      have hp : Token.push c (.lead q) = .ok (.lead q) := by simp only [Token.push, hg]
      rw [hp, hq]
      exact ih rest
    · have hq : leadQualifier q (c :: lead) = leadQualifier p lead := by
        rw [leadQualifier, List.filterMap_cons_some hc, List.getLast?_cons, Option.getD_some, leadQualifier]
      have hp : Token.push c (.lead q) = .ok (.lead p) := by
        simp only [Token.push, hg, qualifier, hc, Except.map]
      rw [hp, hq]
      exact ih rest

theorem directivesFrom_isName {q : Qualifier} {name : List Char} (h : IsName name) (s : List Char) :
    directivesFrom (.lead q) (name ++ s) = directivesFrom (.named q name) s := by
  obtain ⟨c, w, rfl, hc, hw⟩ := h
  have other : glyph c = .other := by
    simp only [List.mem_append, mem_blanks_iff, mem_signs_iff, mem_separators_iff, not_or] at hc
    cases hg : glyph c <;> simp_all
  have letters : ∀ x ∈ w, glyph x ≠ .blank ∧ glyph x ≠ .separator := fun x hx => by
    simpa only [List.mem_append, mem_blanks_iff, mem_separators_iff, not_or] using hw x hx
  exact directivesFrom_lead_named other letters s

/-- A blank that does not end a token leaves it as it is. -/
theorem Token.push_blank {t : Token} {c : Char} (ht : t.endsAtBlank = false) (hc : glyph c = .blank) :
    t.push c = .ok t := by
  cases t with
  | lead q => simp only [push, hc]
  | named q name => cases ht
  | valued q name sep value => simp only [push, hc]

/-- The reader passes over blanks, unless the first of them ends the token at hand. -/
theorem directivesFrom_blanks {t : Token} {gap : List Char} (ht : t.endsAtBlank = false) (hg : ∀ x ∈ gap, x ∈ blanks)
    (s : List Char) : directivesFrom t (gap ++ s) = directivesFrom t s := by
  induction gap with
  | nil => rfl
  | cons c gap ih =>
    have hc := mem_blanks_iff.1 (hg c (by simp))
    rw [List.cons_append, directivesFrom, if_neg (by simp [ht]), Token.push_blank ht hc]
    exact ih fun x hx => hg x (by simp [hx])

/-- What stands behind a term is read from the start. -/
theorem directivesFrom_of_endsTerm {t : Token} {rest : List Char} (h : EndsTerm rest)
    (ht : rest ≠ [] → t.endsAtBlank = true) :
    directivesFrom t rest = do
      let ds ← t.finish
      let es ← directivesFrom .start rest
      return ds ++ es := by
  cases rest with
  | nil =>
    show t.finish = _
    cases t.finish with
    | error e => rfl
    | ok ds => exact congrArg Except.ok (List.append_nil ds).symm
  | cons c rest =>
    have hc := mem_blanks_iff.1 (h c rfl)
    have skip : directivesFrom .start ([c] ++ rest) = directivesFrom .start rest :=
      directivesFrom_blanks rfl (by simpa using h c rfl) rest
    rw [List.singleton_append] at skip
    rw [directivesFrom, if_pos ⟨hc, ht (by simp)⟩, skip]

/-- The reader takes a term as its directive, in front of the directives of the rest. -/
theorem directivesFrom_of_begins {s rest : List Char} {t : Term} (h : Begins s t rest) :
    directivesFrom .start s = do
      let d ← t.directive
      let ds ← directivesFrom .start rest
      return d :: ds := by
  cases h with
  | stray hl hc =>
    rw [Token.start, directivesFrom_lead hl, directivesFrom, if_neg (by simp [Token.endsAtBlank]), Token.push,
      mem_separators_iff.1 hc]
    rfl
  | @bare lead name rest hl hn hr =>
    rw [Token.start, directivesFrom_lead hl, directivesFrom_isName hn,
      directivesFrom_of_endsTerm hr fun _ => rfl, Token.finish, Term.directive]
    cases ordinary (leadQualifier .default lead) name [] <;> rfl
  | @valued lead name gap value rest d hl hn hd hg hv hr he =>
    have nonblank : ∀ x ∈ value, glyph x ≠ .blank := fun x hx => mt mem_blanks_iff.2 (hv x hx)
    have ends : rest ≠ [] →
        (Token.valued (leadQualifier .default lead) name d value).endsAtBlank = true := fun hne =>
      decide_eq_true fun hnil => hne (he hnil)
    have sep : directivesFrom (.named (leadQualifier .default lead) name) ([d] ++ (gap ++ (value ++ rest))) =
        directivesFrom (.valued (leadQualifier .default lead) name d []) (gap ++ (value ++ rest)) :=
      directivesFrom_value (mem_separators_iff.1 hd) (by simp) _
    rw [List.singleton_append] at sep
    rw [Token.start, directivesFrom_lead hl, directivesFrom_isName hn, sep, directivesFrom_blanks rfl hg,
      directivesFrom_valued nonblank, List.nil_append, directivesFrom_of_endsTerm hr ends, Token.finish, Term.directive]
    generalize (if d = '=' then modifier name value else ordinary (leadQualifier .default lead) name value) = r
    cases r <;> rfl

theorem directivesFrom_of_forall_mem {s : List Char} (h : ∀ x ∈ s, x ∈ blanks ++ signs) :
    directivesFrom .start s = .ok [] := by
  have hs : directivesFrom .start (s ++ []) = .ok [] := by
    rw [Token.start, directivesFrom_lead h]
    rfl
  rwa [List.append_nil] at hs

/-- The reader makes the directives of the terms, one after the other. -/
theorem directivesFrom_eq_mapM (s : List Char) : directivesFrom .start s = (terms s).mapM Term.directive := by
  fun_induction terms s with
  | case1 s h =>
    rw [directivesFrom_of_forall_mem (forall_mem_of_term?_eq_none h)]
    rfl
  | case2 s t rest h ih =>
    rw [directivesFrom_of_begins (begins_of_term? h), List.mapM_cons, ih]

/-! ## Faults -/

/-- The names of the directives that are no modifiers. -/
def mechanismNames : List String := ["all", "ip4", "ip6", "a", "mx", "ptr", "exists", "include"]

def modifierNames : List String := ["redirect"]

/-- Whether a name is one of those given, in letters of any case. -/
def isNamed (names : List String) (name : List Char) : Bool :=
  names.any fun n => Mechanism.fold name = Mechanism.fold n.toList

/-- What is wrong with a name that should be one of a mechanism. -/
def mechanismFault? (name : List Char) : Option Error :=
  if isNamed mechanismNames name then none else some (.unknownMechanism (String.ofList name))

/-- What is wrong with a name that should be one of a modifier. -/
def modifierFault? (name : List Char) : Option Error :=
  if isNamed modifierNames name then none else some (.unknownModifier (String.ofList name))

/-- What is wrong with a term, if anything is. -/
def Term.fault? : Term → Option Error
  | stray _ => some .malformed
  | bare _ name => mechanismFault? name
  | valued _ name sep _ => if sep = '=' then modifierFault? name else mechanismFault? name

theorem fold_toList_name (m : Mechanism) : Mechanism.fold m.name.toList = m.name.toList := by
  cases m <;> decide

theorem isNamed_map_name {ms : List Mechanism} {name : List Char} :
    isNamed (ms.map Mechanism.name) name = true ↔ ∃ m ∈ ms, m.name.toList = Mechanism.fold name := by
  rw [isNamed, List.any_map, List.any_eq_true]
  refine exists_congr fun m => and_congr_right fun _ => ?_
  rw [Function.comp_apply, fold_toList_name, decide_eq_true_iff]
  exact eq_comm

/-- The reader knows the names of the mechanisms, and reports any other name. -/
theorem ordinary_eq_error_iff {q : Qualifier} {name value : List Char} {e : Error} :
    ordinary q name value = .error e ↔ mechanismFault? name = some e := by
  have names : mechanismNames = Mechanism.ordinary.map Mechanism.name := rfl
  unfold ordinary mechanismFault?
  rw [names]
  cases h : Mechanism.ofName? name with
  | some m =>
    have known : isNamed (Mechanism.ordinary.map Mechanism.name) name = true :=
      isNamed_map_name.2 ⟨m, List.mem_of_find?_eq_some h, by simpa using List.find?_some h⟩
    simp [known]
  | none =>
    have unknown : ¬ isNamed (Mechanism.ordinary.map Mechanism.name) name = true := by
      rw [isNamed_map_name]
      rintro ⟨m, hm, hn⟩
      exact List.find?_eq_none.1 h m hm (decide_eq_true hn)
    rw [if_neg unknown]
    simp

theorem modifier_eq_error_iff {name value : List Char} {e : Error} :
    modifier name value = .error e ↔ modifierFault? name = some e := by
  have names : modifierNames = [Mechanism.redirect].map Mechanism.name := rfl
  have known : isNamed modifierNames name = true ↔ Mechanism.fold name = Mechanism.redirect.name.toList := by
    rw [names, isNamed_map_name]
    simp [eq_comm]
  unfold modifier Mechanism.modifier? modifierFault?
  by_cases h : Mechanism.fold name = Mechanism.redirect.name.toList
  · simp [h, known.2 h]
  · rw [if_neg h, if_neg (mt known.1 h)]
    simp

/-- A term has no directive exactly if it has a fault. -/
theorem Term.directive_eq_error_iff {t : Term} {e : Error} : t.directive = .error e ↔ t.fault? = some e := by
  cases t with
  | stray => simp [directive, fault?]
  | bare lead name => exact ordinary_eq_error_iff
  | valued lead name sep value =>
    simp only [directive, fault?]
    split
    · exact modifier_eq_error_iff
    · exact ordinary_eq_error_iff

/-- The first fault is the error of reading one term after the other. -/
theorem mapM_directive_eq_error_iff {ts : List Term} {e : Error} :
    ts.mapM Term.directive = .error e ↔ ts.findSome? Term.fault? = some e := by
  induction ts with
  | nil => simp [pure, Except.pure]
  | cons t ts ih =>
    rw [List.mapM_cons, Except.bind_eq_error_iff, List.findSome?_cons]
    cases hd : t.directive with
    | error f =>
      have hf := Term.directive_eq_error_iff.1 hd
      simp [hf]
    | ok d =>
      have hf : t.fault? = none := by
        by_contra hne
        obtain ⟨f, hf⟩ := Option.ne_none_iff_exists'.1 hne
        rw [Term.directive_eq_error_iff.2 hf] at hd
        cases hd
      rw [hf, ← ih]
      constructor
      · rintro (h | ⟨_, -, h⟩)
        · cases h
        · rcases Except.bind_eq_error_iff.1 h with h | ⟨_, -, h⟩
          · exact h
          · cases h
      · intro h
        exact .inr ⟨d, rfl, Except.bind_eq_error_iff.2 (.inl h)⟩

/-! ## Texts -/

/-- A text with the mark is read from behind the mark. -/
theorem parse_eq_mapM {text : String} {s : List Char} (h : text.toList = mark.toList ++ s) :
    parse text = ((terms s).mapM Term.directive).map ofDirectives := by
  have hp : mark.toList.isPrefixOf? text.toList = some s := List.isPrefixOf?_eq_some_iff_append_eq.2 h.symm
  rw [parse, ofChars, hp, ← directivesFrom_eq_mapM]
  rfl

theorem parse_eq_unmarked {text : String} (h : ¬ mark.toList <+: text.toList) : parse text = .error .unmarked := by
  unfold parse ofChars
  cases hp : mark.toList.isPrefixOf? text.toList with
  | none => rfl
  | some s => exact absurd ⟨s, List.isPrefixOf?_eq_some_iff_append_eq.1 hp⟩ h

theorem parse_eq_error_iff_findSome? {text : String} {s : List Char} (h : text.toList = mark.toList ++ s) {e : Error} :
    parse text = .error e ↔ (terms s).findSome? Term.fault? = some e := by
  rw [parse_eq_mapM h, Except.map_eq_error_iff, mapM_directive_eq_error_iff]

/-- The faults of terms are no other errors than these. -/
theorem Term.fault?_cases {t : Term} {e : Error} (h : t.fault? = some e) :
    e = .malformed ∨ (∃ name, e = .unknownMechanism name) ∨ ∃ name, e = .unknownModifier name := by
  have mechanism : ∀ {name : List Char}, mechanismFault? name = some e → ∃ name, e = .unknownMechanism name := by
    intro name hm
    unfold mechanismFault? at hm
    split at hm <;> cases hm
    exact ⟨_, rfl⟩
  have «modifier» : ∀ {name : List Char}, modifierFault? name = some e → ∃ name, e = .unknownModifier name := by
    intro name hm
    unfold modifierFault? at hm
    split at hm <;> cases hm
    exact ⟨_, rfl⟩
  cases t with
  | stray => cases h; exact .inl rfl
  | bare lead name => exact .inr (.inl (mechanism h))
  | valued lead name sep value =>
    simp only [fault?] at h
    split at h
    · exact .inr (.inr («modifier» h))
    · exact .inr (.inl (mechanism h))

theorem Begins.suffix {s rest : List Char} {t : Term} (h : Begins s t rest) : rest <:+ s := by
  cases h with
  | @stray lead _ c => exact ⟨lead ++ [c], by simp⟩
  | @bare lead name => exact ⟨lead ++ name, by simp⟩
  | @valued lead name gap value _ d => exact ⟨lead ++ name ++ d :: gap ++ value, by simp⟩

/-- A separator without a value stands at the end of the text. -/
theorem suffix_of_valued_nil_mem_terms {s lead name : List Char} {sep : Char}
    (h : .valued lead name sep [] ∈ terms s) : ∃ gap, sep :: gap <:+ s ∧ ∀ x ∈ gap, x ∈ blanks := by
  fun_induction terms s with
  | case1 => cases h
  | case2 s t rest ht ih =>
    have begins := begins_of_term? ht
    rcases List.mem_cons.1 h with rfl | h
    · cases begins with
      | @valued _ _ gap _ _ _ _ _ _ hg _ _ he =>
        obtain rfl := he rfl
        exact ⟨gap, ⟨lead ++ name, by simp⟩, hg⟩
    · obtain ⟨gap, hs, hg⟩ := ih h
      exact ⟨gap, hs.trans begins.suffix, hg⟩

/-- **The reader accepts exactly the texts of the grammar, and reports the first fault of any other.** A text without the
mark is no policy. Behind the mark a text is accepted exactly if none of its terms has a fault; otherwise the error is the
fault of the first term that has one. Only at the end of the text does a separator go without a value. No character is ever
reported as a sign. -/
theorem parse_iff_terms (text : String) :
    (parse text = .error .unmarked ↔ ¬ mark.toList <+: text.toList) ∧
    (∀ s, text.toList = mark.toList ++ s →
      ((∃ r, parse text = .ok r) ↔ ∀ t ∈ terms s, t.fault? = none) ∧
      (∀ e, parse text = .error e ↔ (terms s).findSome? Term.fault? = some e) ∧
      ∀ lead name sep, .valued lead name sep [] ∈ terms s → ∃ gap, sep :: gap <:+ s ∧ ∀ x ∈ gap, x ∈ blanks) ∧
    ∀ c, parse text ≠ .error (.unknownSymbol c) := by
  by_cases marked : mark.toList <+: text.toList
  · obtain ⟨s, hs⟩ := marked
    have first : ∀ e, parse text = .error e ↔ (terms s).findSome? Term.fault? = some e := fun e =>
      parse_eq_error_iff_findSome? hs.symm
    have fault : ∀ e, parse text = .error e → ∃ t : Term, t.fault? = some e := fun e he => by
      obtain ⟨t, -, ht⟩ := List.exists_of_findSome?_eq_some ((first e).1 he)
      exact ⟨t, ht⟩
    refine ⟨⟨fun he => ?_, fun hn => absurd ⟨s, hs⟩ hn⟩, fun s' hs' => ?_, fun c he => ?_⟩
    · obtain ⟨t, ht⟩ := fault _ he
      rcases t.fault?_cases ht with h | ⟨_, h⟩ | ⟨_, h⟩ <;> cases h
    · obtain rfl : s = s' := List.append_cancel_left (hs.trans hs')
      refine ⟨?_, first, fun lead name sep => suffix_of_valued_nil_mem_terms⟩
      rw [← List.findSome?_eq_none_iff]
      cases hp : parse text with
      | ok r =>
        cases hf : (terms s).findSome? Term.fault? with
        | none => simp
        | some e =>
          rw [(first e).2 hf] at hp
          cases hp
      | error e => simp [(first e).1 hp]
    · obtain ⟨t, ht⟩ := fault _ he
      rcases t.fault?_cases ht with h | ⟨_, h⟩ | ⟨_, h⟩ <;> cases h
  · have unmarked := parse_eq_unmarked marked
    refine ⟨⟨fun _ => marked, fun _ => unmarked⟩, fun s hs => absurd ⟨s, hs.symm⟩ marked, fun c hc => ?_⟩
    rw [unmarked] at hc
    cases hc

theorem parse_iff_terms_of_two_faults :
    parse "v=spf1 ?a:x.example bogus mx =x" = .error (.unknownMechanism "bogus") ∧
      (terms " ?a:x.example bogus mx =x".toList).findSome? Term.fault? = some (.unknownMechanism "bogus") :=
  ⟨rfl, (((parse_iff_terms "v=spf1 ?a:x.example bogus mx =x").2.1 _ rfl).2.1 _).1 rfl⟩

end SenderPolicy.Record
