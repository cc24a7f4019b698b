import SenderPolicy.Proofs.Grammar

/-!
# Spellings of a policy

One policy can be written in many ways: with blanks and signs in front of a name, letters of any case, blanks behind a
separator or a value, and redirections anywhere between the other directives. None of this changes what is read.

- `Spelling`: one way of writing a directive;
- `Spelling.exists_begins`: a spelling is a term of the text, with its directive;
- `directivesFrom_spellings`: the reader makes the directives of the spellings, whatever stood in front of each;
- `parse_spellings`: what is read of a text of spellings, and that two texts of the same directives are read alike.
-/

namespace SenderPolicy.Record

/-- One way of writing a directive. -/
structure Spelling where
  mechanism : Mechanism
  /-- What stands in front of the name. -/
  lead : List Char
  /-- The name as it is written. -/
  name : List Char
  /-- Behind the separator: blanks and the value. -/
  tail : Option (List Char × List Char)
  /-- The blanks behind. -/
  trail : List Char
  lead_mem : ∀ x ∈ lead, x ∈ blanks ++ signs
  fold_name : Mechanism.fold name = mechanism.name.toList
  tail_mem : ∀ p ∈ tail, (∀ x ∈ p.1, x ∈ blanks) ∧ ∀ x ∈ p.2, x ∉ blanks
  /-- A modifier is always written with a separator. -/
  tail_of_modifier : mechanism.isModifier = true → tail ≠ none
  trail_mem : ∀ x ∈ trail, x ∈ blanks

namespace Spelling

variable (w : Spelling)

/-- The separator of a modifier, or that of another directive. -/
def separator : Char :=
  if w.mechanism.isModifier then '=' else ':'

def value : List Char :=
  (w.tail.map Prod.snd).getD []

/-- The characters of a spelling. -/
def chars : List Char :=
  w.lead ++ w.name ++ (match w.tail with
    | none => []
    | some (gap, value) => w.separator :: gap ++ value) ++ w.trail

/-- The directive that a spelling stands for: the last sign in front of the name counts, but not for a modifier. -/
def directive : Directive where
  qualifier := if w.mechanism.isModifier then .pass else leadQualifier .pass w.lead
  mechanism := w.mechanism
  value := String.ofList w.value

/-- Spellings that make a text: a blank starts each but the first, and only the last may have a separator without a
value. -/
structure MakeText (ws : List Spelling) : Prop where
  apart : ∀ w ∈ ws.tail, ∃ b rest, w.lead = b :: rest ∧ b ∈ blanks
  closed : ∀ w ∈ ws.dropLast, w.tail ≠ none → w.value ≠ []

/-- The text of spellings. -/
def text (ws : List Spelling) : String :=
  String.ofList (mark.toList ++ ws.flatMap chars)

variable {w}

/-! ## Names in any case -/

theorem toLower_of_mem {x : Char} (h : x ∈ blanks ++ signs ++ separators) : x.toLower = x := by
  simp only [blanks, signs, separators, List.cons_append, List.nil_append, List.mem_cons, List.not_mem_nil,
    or_false] at h
  rcases h with rfl | rfl | rfl | rfl | rfl | rfl | rfl | rfl | rfl <;> decide

/-- A letter of a name has no other meaning, in any case. -/
theorem not_mem_of_mem_name {x : Char} (hx : x ∈ w.name) : x ∉ blanks ++ signs ++ separators := by
  intro h
  have mem : x ∈ w.mechanism.name.toList := by
    rw [← w.fold_name, Mechanism.fold, List.mem_map]
    exact ⟨x, hx, toLower_of_mem h⟩
  have other := glyph_of_mem_name w.mechanism x mem
  simp only [List.mem_append, mem_blanks_iff, mem_signs_iff, mem_separators_iff, other, reduceCtorEq, or_self] at h

theorem isName (w : Spelling) : IsName w.name := by
  cases hw : w.name with
  | nil =>
    obtain ⟨c, u, hm, -⟩ := exists_name_eq_cons w.mechanism
    have hf := w.fold_name
    rw [hw, hm] at hf
    cases hf
  | cons c u =>
    have first : c ∈ w.name := by simp [hw]
    refine ⟨c, u, rfl, not_mem_of_mem_name first, fun x hx h => ?_⟩
    have letter : x ∈ w.name := by simp [hw, hx]
    refine not_mem_of_mem_name letter ?_
    simp only [List.mem_append] at h ⊢
    exact h.imp_left .inl

theorem ordinary_name (h : w.mechanism.isModifier = false) (q : Qualifier) (value : List Char) :
    ordinary q w.name value = .ok ⟨q, w.mechanism, String.ofList value⟩ := by
  have known : Mechanism.ofName? w.name = some w.mechanism := by
    rw [Mechanism.ofName?, w.fold_name, ← fold_toList_name w.mechanism]
    exact Mechanism.ofName?_name h
  rw [ordinary, known]

theorem modifier_name (h : w.mechanism.isModifier = true) (value : List Char) :
    modifier w.name value = .ok ⟨.pass, w.mechanism, String.ofList value⟩ := by
  have redirect : w.mechanism = .redirect := of_decide_eq_true h
  have known : Mechanism.modifier? w.name = some w.mechanism := by
    rw [Mechanism.modifier?, if_pos (by rw [w.fold_name, redirect]), redirect]
  rw [modifier, known]

/-! ## Spellings as terms -/

def term (w : Spelling) : Term :=
  match w.tail with
  | none => .bare w.lead w.name
  | some (_, value) => .valued w.lead w.name w.separator value

theorem directive_term (w : Spelling) : w.term.directive = .ok w.directive := by
  unfold term directive value
  cases hm : w.mechanism.isModifier with
  | true =>
    cases ht : w.tail with
    | none => exact absurd ht (w.tail_of_modifier hm)
    | some p =>
      simp only [Term.directive, separator, hm, if_true]
      exact modifier_name hm p.2
  | false =>
    cases ht : w.tail with
    | none => exact ordinary_name hm _ _
    | some p =>
      simp only [Term.directive, separator, hm, Bool.false_eq_true, if_false]
      exact ordinary_name hm _ _

theorem endsTerm_append {u rest : List Char} (hu : ∀ x ∈ u, x ∈ blanks) (hr : EndsTerm rest) : EndsTerm (u ++ rest) := by
  cases u with
  | nil => exact hr
  | cons c u =>
    intro x hx
    cases hx
    exact hu c (by simp)

theorem separator_mem (w : Spelling) : w.separator ∈ separators := by
  unfold separator separators
  split <;> simp

/-- A spelling is a term of the text, and behind it stand only blanks before the rest. -/
theorem exists_begins {rest : List Char} (hr : EndsTerm rest) (hv : w.tail ≠ none → w.value = [] → rest = []) :
    ∃ gap, Begins (w.chars ++ rest) w.term (gap ++ rest) ∧ ∀ x ∈ gap, x ∈ blanks := by
  unfold chars term
  have ends := endsTerm_append w.trail_mem hr
  cases ht : w.tail with
  | none => exact ⟨w.trail, by simpa using Begins.bare w.lead_mem w.isName ends, w.trail_mem⟩
  | some p =>
    obtain ⟨gap, value⟩ := p
    obtain ⟨hg, hn⟩ := w.tail_mem (gap, value) ht
    by_cases hnil : value = []
    · -- the reader still looks for the value in the blanks behind, and comes to the end of the text
      obtain rfl : rest = [] := hv (by simp [ht]) (by simp [Spelling.value, ht, hnil])
      have hgap : ∀ x ∈ gap ++ w.trail, x ∈ blanks := fun x hx =>
        (List.mem_append.1 hx).elim (hg x) (w.trail_mem x)
      have begins : Begins (w.lead ++ (w.name ++ w.separator :: ((gap ++ w.trail) ++ ([] ++ []))))
          (.valued w.lead w.name w.separator []) [] :=
        .valued w.lead_mem w.isName w.separator_mem hgap (by simp) (fun _ h => by cases h) fun _ => rfl
      exact ⟨[], by simpa [hnil] using begins, by simp⟩
    · have begins := Begins.valued w.lead_mem w.isName w.separator_mem hg hn ends fun h => absurd h hnil
      exact ⟨w.trail, by simpa using begins, w.trail_mem⟩

end Spelling

/-! ## Texts of spellings -/

open Spelling

namespace Spelling.MakeText

variable {w : Spelling} {ws : List Spelling}

theorem tail (h : MakeText (w :: ws)) : MakeText ws where
  apart u hu := h.apart u (List.mem_of_mem_tail hu)
  closed u hu := by
    cases ws with
    | nil => cases hu
    | cons v ws => exact h.closed u (by simpa using .inr hu)

/-- Behind a spelling the next one starts with a blank. -/
theorem endsTerm (h : MakeText (w :: ws)) : EndsTerm (ws.flatMap chars) := by
  cases ws with
  | nil => exact fun _ hx => by cases hx
  | cons v ws =>
    obtain ⟨b, rest, hl, hb⟩ := h.apart v (by simp)
    intro x hx
    simp only [List.flatMap_cons, chars, hl, List.cons_append, List.head?_cons, Option.mem_def,
      Option.some.injEq] at hx
    exact hx ▸ hb

theorem eq_nil_of_value (h : MakeText (w :: ws)) (ht : w.tail ≠ none) (hv : w.value = []) : ws.flatMap chars = [] := by
  cases ws with
  | nil => rfl
  | cons v ws => exact absurd hv (h.closed w (by simp) ht)

end Spelling.MakeText

/-- The reader makes the directives of the spellings, in their order. -/
theorem directivesFrom_spellings {ws : List Spelling} (h : MakeText ws) :
    directivesFrom .start (ws.flatMap chars) = .ok (ws.map Spelling.directive) := by
  induction ws with
  | nil => rfl
  | cons w ws ih =>
    obtain ⟨gap, begins, hg⟩ := exists_begins h.endsTerm h.eq_nil_of_value
    rw [List.flatMap_cons, directivesFrom_of_begins begins, w.directive_term, directivesFrom_blanks rfl hg, ih h.tail]
    rfl

theorem ofDirectives_map_directive (ws : List Spelling) :
    ofDirectives (ws.map Spelling.directive) =
      ⟨(ws.filter (·.mechanism ≠ .redirect)).map Spelling.directive ++
        (ws.filter (·.mechanism = .redirect)).map Spelling.directive⟩ := by
  have plain : (ws.map Spelling.directive).filter (!·.mechanism.isModifier) =
      (ws.filter (·.mechanism ≠ .redirect)).map Spelling.directive := by
    rw [List.filter_map]
    congr 2
    funext w
    simp [Spelling.directive, Mechanism.isModifier]
  have redirects : (ws.map Spelling.directive).filter (·.mechanism.isModifier) =
      (ws.filter (·.mechanism = .redirect)).map Spelling.directive := by
    rw [List.filter_map]
    rfl
  rw [ofDirectives, plain, redirects]

/-- **Layout, letter case and the place of redirections do not change what is read.** A text of spellings is read as the
directives of the spellings that are no redirections, in their order, and behind them the redirections in theirs. So two
texts with the same directives and the same redirections are read alike, however these are mixed. -/
theorem parse_spellings (ws : List Spelling) (h : MakeText ws) :
    parse (Spelling.text ws) = .ok ⟨(ws.filter (·.mechanism ≠ .redirect)).map Spelling.directive ++
      (ws.filter (·.mechanism = .redirect)).map Spelling.directive⟩ ∧
    ∀ us, MakeText us →
      (us.filter (·.mechanism ≠ .redirect)).map Spelling.directive =
        (ws.filter (·.mechanism ≠ .redirect)).map Spelling.directive →
      (us.filter (·.mechanism = .redirect)).map Spelling.directive =
        (ws.filter (·.mechanism = .redirect)).map Spelling.directive →
      parse (Spelling.text us) = parse (Spelling.text ws) := by
  have read : ∀ vs, MakeText vs → parse (Spelling.text vs) = .ok (ofDirectives (vs.map Spelling.directive)) := by
    intro vs hv
    exact parse_eq_ok_iff.2 ⟨vs.flatMap chars, _, String.toList_ofList, directivesFrom_spellings hv, rfl⟩
  constructor
  · rw [read ws h, ofDirectives_map_directive]
  · intro us hu plain redirects
    rw [read us hu, read ws h, ofDirectives_map_directive, ofDirectives_map_directive, plain, redirects]

/-- The spelling ` REDIRECT=b.example` of a redirection. -/
def Spelling.loudRedirect : Spelling where
  mechanism := .redirect
  lead := [' ']
  name := "REDIRECT".toList
  tail := some ([], "b.example".toList)
  trail := []
  lead_mem := by simp [blanks, signs]
  fold_name := by decide
  tail_mem := by simp [blanks]
  tail_of_modifier := by decide
  trail_mem := by simp [blanks]

/-- The spelling ` -redirect= b.example` of the same redirection, and a blank behind. -/
def Spelling.looseRedirect : Spelling :=
  { loudRedirect with
    lead := [' ', '-']
    name := "redirect".toList
    tail := some ([' '], "b.example".toList)
    trail := ['\n']
    lead_mem := by simp [blanks, signs]
    fold_name := by decide
    tail_mem := by simp [blanks]
    tail_of_modifier := by decide
    trail_mem := by simp [blanks] }

/-- The spelling ` -?aLL`. -/
def Spelling.mixedAll : Spelling where
  mechanism := .all
  lead := [' ', '-', '?']
  name := "aLL".toList
  tail := none
  trail := []
  lead_mem := by simp [blanks, signs]
  fold_name := by decide
  tail_mem := by simp [blanks]
  tail_of_modifier := by decide
  trail_mem := by simp [blanks]

/-- The spelling `?all` of the same directive. -/
def Spelling.plainAll : Spelling :=
  { mixedAll with
    lead := ['?']
    name := "all".toList
    lead_mem := by simp [blanks, signs]
    fold_name := by decide }

theorem parse_spellings_of_redirect :
    parse (Spelling.text [loudRedirect, mixedAll]) =
      .ok ⟨[⟨.neutral, .all, ""⟩, ⟨.pass, .redirect, "b.example"⟩]⟩ ∧
    parse (Spelling.text [plainAll, looseRedirect]) = parse (Spelling.text [loudRedirect, mixedAll]) := by
  have first : MakeText [loudRedirect, mixedAll] :=
    ⟨by simp [mixedAll, blanks], by simp [loudRedirect, Spelling.value]⟩
  have second : MakeText [plainAll, looseRedirect] :=
    ⟨by simp [looseRedirect, blanks], by simp [plainAll, mixedAll]⟩
  exact ⟨(parse_spellings _ first).1, (parse_spellings _ first).2 _ second rfl rfl⟩

end SenderPolicy.Record
