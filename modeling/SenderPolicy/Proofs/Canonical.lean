import Mathlib.Data.List.Basic
import SenderPolicy.Record.Parser

/-!
# Canonical records

A record is canonical when the reader makes it from some text; then it is read back from its own text.

- `readable_of_directivesFrom`: what the reader makes can be written, one directive behind the other;
- `directivesFrom_tailChars`: directives that can be written so are read back;
- `parse_text_iff_isCanonical`: the records that some text writes, those that are read back from their own text and those
  of canonical form are the same.
-/

namespace SenderPolicy

/-! ## Directives that can be written -/

namespace Directive

/-- Its text is read back as itself, if nothing of the value is taken from behind it. -/
def Readable (d : Directive) : Prop :=
  (∀ c ∈ d.value.toList, Record.glyph c ≠ .blank) ∧
    if d.mechanism.isModifier then d.qualifier = .pass else d.qualifier ≠ .none

/-- A blank behind its text ends it; a modifier without a value would take its value from behind. -/
def Closed (d : Directive) : Prop :=
  d.mechanism.isModifier = true → d.value ≠ ""

end Directive

namespace Record

theorem glyph_eq_blank_iff {c : Char} : glyph c = .blank ↔ c = ' ' ∨ c = '\r' ∨ c = '\n' := by
  unfold glyph
  split
  · rename_i h
    simp only [List.mem_cons, List.not_mem_nil, or_false] at h
    rcases h with rfl | rfl | rfl | rfl <;> decide
  · split
    · rename_i h
      simp only [List.mem_cons, List.not_mem_nil, or_false] at h
      rcases h with rfl | rfl <;> decide
    · split <;> simp_all

/-! ## What the reader makes -/

/-- The token at hand has a qualifier that can be written, and no blank in its value. -/
def Token.Clean : Token → Prop
  | lead q => q ≠ .none
  | named q _ => q ≠ .none
  | valued q _ _ value => q ≠ .none ∧ ∀ c ∈ value, glyph c ≠ .blank

theorem clean_start : Token.start.Clean := by
  simp [Token.start, Token.Clean, Qualifier.default]

/-- A symbol never stands for the qualifier `none`. -/
theorem ne_none_of_qualifier {c : Char} {q : Qualifier} (h : qualifier c = .ok q) : q ≠ .none := by
  unfold qualifier at h
  split at h
  · rename_i p hp
    cases h
    have hs := Qualifier.ofSymbol?_eq_some_iff.1 hp
    rintro rfl
    cases hs
  · cases h

/-- One more character keeps the token clean. -/
theorem Token.Clean.push {t u : Token} {c : Char} (h : t.Clean) (hu : t.push c = .ok u) : u.Clean := by
  cases t with
  | lead q =>
    simp only [Token.push] at hu
    split at hu
    · obtain ⟨p, hq, rfl⟩ := Except.map_eq_ok_iff.1 hu
      exact ne_none_of_qualifier hq
    · cases hu
    · cases hu; exact h
    · cases hu; exact h
  | named q name =>
    simp only [Token.push] at hu
    split at hu
    · cases hu; exact ⟨h, by simp⟩
    · cases hu; exact h
  | valued q name sep value =>
    simp only [Token.push] at hu
    split at hu
    · cases hu; exact h
    · rename_i hg
      cases hu
      refine ⟨h.1, fun x hx => ?_⟩
      rcases List.mem_append.1 hx with hx | hx
      · exact h.2 x hx
      · rw [List.mem_singleton.1 hx]; exact hg

theorem readable_of_ordinary {q : Qualifier} {name value : List Char} {d : Directive}
    (h : ordinary q name value = .ok d) (hq : q ≠ .none) (hv : ∀ c ∈ value, glyph c ≠ .blank) :
    d.Readable ∧ d.mechanism.isModifier = false := by
  unfold ordinary at h
  split at h
  · rename_i m hm
    cases h
    have ho : m.isModifier = false := by
      have := List.mem_of_find?_eq_some hm
      revert this
      cases m <;> decide
    exact ⟨⟨by simpa using hv, by simpa [ho] using hq⟩, ho⟩
  · cases h

theorem readable_of_modifier {name value : List Char} {d : Directive} (h : modifier name value = .ok d)
    (hv : ∀ c ∈ value, glyph c ≠ .blank) : d.Readable ∧ d.value = String.ofList value := by
  unfold modifier at h
  split at h
  · rename_i m hm
    cases h
    exact ⟨⟨by simpa using hv, by simp [Mechanism.isModifier_of_modifier? hm]⟩, rfl⟩
  · cases h

/-- A clean token ends in at most one directive, which can be written; one that a blank ends is closed. -/
theorem Token.Clean.finish {t : Token} {ds : List Directive} (h : t.Clean) (hf : t.finish = .ok ds) :
    ds = [] ∨ ∃ d, ds = [d] ∧ d.Readable ∧ (t.endsAtBlank = true → d.Closed) := by
  cases t with
  | lead q => cases hf; exact .inl rfl
  | named q name =>
    obtain ⟨d, ho, rfl⟩ := Except.map_eq_ok_iff.1 hf
    obtain ⟨hr, hm⟩ := readable_of_ordinary ho h (by simp)
    exact .inr ⟨d, rfl, hr, fun _ hd => by rw [hm] at hd; cases hd⟩
  | valued q name sep value =>
    obtain ⟨d, hd, rfl⟩ := Except.map_eq_ok_iff.1 hf
    split at hd
    · obtain ⟨hr, hv⟩ := readable_of_modifier hd h.2
      refine .inr ⟨d, rfl, hr, fun he _ => ?_⟩
      rw [hv]
      intro hn
      simp only [Token.endsAtBlank, decide_eq_true_eq] at he
      exact he (by simpa using congrArg String.toList hn)
    · obtain ⟨hr, hm⟩ := readable_of_ordinary hd h.1 h.2
      exact .inr ⟨d, rfl, hr, fun _ hd => by rw [hm] at hd; cases hd⟩

/-- What the reader makes can be written, and all but the last directive are closed. -/
theorem readable_of_directivesFrom {t : Token} {s : List Char} {ds : List Directive} (h : t.Clean)
    (hs : directivesFrom t s = .ok ds) : (∀ d ∈ ds, d.Readable) ∧ ∀ d ∈ ds.dropLast, d.Closed := by
  induction s generalizing t ds with
  | nil =>
    rcases h.finish hs with rfl | ⟨d, rfl, hr, -⟩
    · simp
    · simpa using hr
  | cons c s ih =>
    rw [directivesFrom] at hs
    split at hs
    · rename_i hb
      obtain ⟨first, hf, hs⟩ := Except.bind_eq_ok_iff.1 hs
      obtain ⟨rest, hr, hs⟩ := Except.bind_eq_ok_iff.1 hs
      cases hs
      obtain ⟨h₁, h₂⟩ := ih clean_start hr
      rcases h.finish hf with rfl | ⟨d, rfl, hd, hc⟩
      · exact ⟨h₁, h₂⟩
      · -- the token has ended at a blank, so its directive is closed unless it is the last
        refine ⟨by simpa using ⟨hd, h₁⟩, fun e he => ?_⟩
        cases rest with
        | nil => simp at he
        | cons f rest =>
          rw [List.singleton_append, List.dropLast_cons_cons] at he
          rcases List.mem_cons.1 he with rfl | he
          · exact hc hb.2
          · exact h₂ e he
    · obtain ⟨u, hp, hs⟩ := Except.bind_eq_ok_iff.1 hs
      exact ih (h.push hp) hs

/-! ## What is read back -/

/-- The token of a directive when its text has been read. -/
def Token.ofDirective (d : Directive) : Token :=
  if d.mechanism.isModifier then .valued .default d.mechanism.name.toList '=' d.value.toList
  else if d.value.toList = [] then .named d.qualifier d.mechanism.name.toList
  else .valued d.qualifier d.mechanism.name.toList ':' d.value.toList

theorem glyph_of_mem_name (m : Mechanism) : ∀ c ∈ m.name.toList, glyph c = .other := by
  have all : m.name.toList.all (glyph · = .other) = true := by cases m <;> rfl
  intro c hc
  exact of_decide_eq_true (List.all_eq_true.1 all c hc)

theorem exists_name_eq_cons (m : Mechanism) :
    ∃ c w, m.name.toList = c :: w ∧ glyph c = .other ∧ ∀ x ∈ w, glyph x = .other := by
  have other := glyph_of_mem_name m
  obtain ⟨c, w, h⟩ : ∃ c w, m.name.toList = c :: w := by cases m <;> exact ⟨_, _, rfl⟩
  rw [h] at other
  exact ⟨c, w, h, other c (by simp), fun x hx => other x (by simp [hx])⟩

theorem directivesFrom_name (q : Qualifier) (m : Mechanism) (s : List Char) :
    directivesFrom (.lead q) (m.name.toList ++ s) = directivesFrom (.named q m.name.toList) s := by
  obtain ⟨c, w, hm, hc, hw⟩ := exists_name_eq_cons m
  rw [hm]
  exact directivesFrom_lead_named hc (fun x hx => by rw [hw x hx]; decide) s

/-- The reader takes the sign of a qualifier as that qualifier. -/
theorem directivesFrom_sign {q : Qualifier} (h : q ≠ .none) (s : List Char) :
    directivesFrom .start (Directive.sign q ++ s) = directivesFrom (.lead q) s := by
  cases q with
  | none => exact absurd rfl h
  | pass | fail | softfail | neutral => rfl

/-- The reader takes what stands behind a separator as a value. -/
theorem directivesFrom_value {q : Qualifier} {name : List Char} {sep : Char} {v : List Char}
    (hsep : glyph sep = .separator) (hv : ∀ c ∈ v, glyph c ≠ .blank) (s : List Char) :
    directivesFrom (.named q name) (sep :: v ++ s) = directivesFrom (.valued q name sep v) s := by
  rw [List.cons_append, directivesFrom, if_neg (by simp [hsep]), Token.push, hsep]
  show directivesFrom (.valued q name sep []) (v ++ s) = _
  rw [directivesFrom_valued hv]
  rfl

/-- The text of a directive is read as its token. -/
theorem directivesFrom_toChars {d : Directive} (h : d.Readable) (s : List Char) :
    directivesFrom .start (d.toChars ++ s) = directivesFrom (.ofDirective d) s := by
  obtain ⟨hv, hq⟩ := h
  unfold Token.ofDirective
  cases hm : d.mechanism.isModifier with
  | true =>
    rw [Directive.toChars_modifier hm, List.append_assoc, Token.start, directivesFrom_name,
      directivesFrom_value (by decide) hv]
    rfl
  | false =>
    rw [hm, if_neg Bool.false_ne_true] at hq
    rw [Directive.toChars_ordinary hm, List.append_assoc, List.append_assoc, directivesFrom_sign hq,
      directivesFrom_name, if_neg Bool.false_ne_true]
    split
    · rfl
    · rw [directivesFrom_value (by decide) hv]

theorem finish_ofDirective {d : Directive} (h : d.Readable) : (Token.ofDirective d).finish = .ok [d] := by
  obtain ⟨-, hq⟩ := h
  obtain ⟨q, m, v⟩ := d
  unfold Token.ofDirective
  cases hm : m.isModifier with
  | true =>
    have hr : m = .redirect := by simpa [Mechanism.isModifier] using hm
    simp only [hm, if_true] at hq
    subst hr hq
    simp [Token.finish, modifier, Mechanism.modifier?_name, Except.map]
  | false =>
    have ho := Mechanism.ofName?_name hm
    by_cases hv : v.toList = []
    · have hv : v = "" := by rwa [← String.toList_eq_nil_iff]
      simp [Token.finish, ordinary, ho, hv, Except.map]
    · simp [Token.finish, ordinary, ho, hv, Except.map]

theorem endsAtBlank_ofDirective {d : Directive} (h : d.Closed) : (Token.ofDirective d).endsAtBlank = true := by
  unfold Token.ofDirective
  split
  · rename_i hm
    have hv := h hm
    simpa [Token.endsAtBlank] using hv
  · split
    · rfl
    · rename_i hv
      simpa [Token.endsAtBlank] using hv

theorem directivesFrom_start_space (s : List Char) :
    directivesFrom .start (' ' :: s) = directivesFrom .start s := rfl

/-- Directives that can be written are read back. -/
theorem directivesFrom_tailChars {ds : List Directive} (hr : ∀ d ∈ ds, d.Readable)
    (hc : ∀ d ∈ ds.dropLast, d.Closed) : directivesFrom .start (tailChars ds) = .ok ds := by
  induction ds with
  | nil => rfl
  | cons d ds ih =>
    have hd := hr d (by simp)
    rw [tailChars, List.flatMap_cons, List.cons_append, directivesFrom_start_space, directivesFrom_toChars hd]
    cases ds with
    | nil => exact finish_ofDirective hd
    | cons e es =>
      have he := ih (fun f hf => hr f (by simp [hf])) fun f hf => hc f (by simp [List.dropLast_cons_cons, hf])
      have hb := endsAtBlank_ofDirective (hc d (by simp [List.dropLast_cons_cons]))
      rw [List.flatMap_cons, List.cons_append, directivesFrom, if_pos ⟨by decide, hb⟩, finish_ofDirective hd]
      rw [tailChars, List.flatMap_cons, List.cons_append, directivesFrom_start_space] at he
      simp only [bind, Except.bind, he]
      rfl

/-! ## Records -/

/-- What stands behind the mark is read. -/
theorem parse_eq_ok_iff {text : String} {r : Record} :
    parse text = .ok r ↔
      ∃ s ds, text.toList = mark.toList ++ s ∧ directivesFrom .start s = .ok ds ∧ ofDirectives ds = r := by
  unfold parse ofChars
  constructor
  · intro h
    split at h
    · rename_i s hs
      obtain ⟨ds, hd, rfl⟩ := Except.map_eq_ok_iff.1 h
      exact ⟨s, ds, (List.isPrefixOf?_eq_some_iff_append_eq.1 hs).symm, hd, rfl⟩
    · cases h
  · rintro ⟨s, ds, ht, hd, rfl⟩
    rw [List.isPrefixOf?_eq_some_iff_append_eq.2 ht.symm]
    simp only [ofTail, hd, Except.map]

/-- Ordinary directives and behind them redirections; no value has a blank, a directive has a qualifier that can be
written, a redirection has `pass`, and only the last of all may be a redirection without a value. -/
def IsCanonical (r : Record) : Prop :=
  ∃ directives redirects, r.directives = directives ++ redirects ∧
    (∀ d ∈ r.directives, ∀ c ∈ d.value.toList, c ≠ ' ' ∧ c ≠ '\r' ∧ c ≠ '\n') ∧
    (∀ d ∈ directives, d.mechanism ≠ .redirect ∧ d.qualifier ≠ .none) ∧
    (∀ d ∈ redirects, d.mechanism = .redirect ∧ d.qualifier = .pass) ∧
    ∀ d ∈ redirects.dropLast, d.value ≠ ""

theorem forall_ne_blank_iff {s : List Char} :
    (∀ c ∈ s, glyph c ≠ .blank) ↔ ∀ c ∈ s, c ≠ ' ' ∧ c ≠ '\r' ∧ c ≠ '\n' := by
  simp only [ne_eq, glyph_eq_blank_iff, not_or]

/-- What is kept of all but the last comes from all but the last. -/
theorem mem_dropLast_of_filter {α : Type} {p : α → Bool} {l : List α} {a : α} (h : a ∈ (l.filter p).dropLast) :
    a ∈ l.dropLast := by
  rcases List.eq_nil_or_concat l with rfl | ⟨l, b, rfl⟩
  · exact h
  · rw [List.concat_eq_append] at h ⊢
    rw [List.dropLast_concat]
    rw [List.filter_append] at h
    by_cases hb : p b = true
    · rw [List.filter_cons_of_pos hb, List.filter_nil, List.dropLast_concat] at h
      exact (List.mem_filter.1 h).1
    · rw [List.filter_cons_of_neg hb, List.filter_nil, List.append_nil] at h
      exact (List.mem_filter.1 (List.dropLast_subset _ h)).1

theorem isCanonical_ofDirectives {ds : List Directive} (hr : ∀ d ∈ ds, d.Readable)
    (hc : ∀ d ∈ ds.dropLast, d.Closed) : (ofDirectives ds).IsCanonical := by
  refine ⟨_, _, rfl, fun d hd => ?_, fun d hd => ?_, fun d hd => ?_, fun d hd => ?_⟩
  · have hm : d ∈ ds := by
      rcases List.mem_append.1 hd with h | h
      · exact (List.mem_filter.1 h).1
      · exact (List.mem_filter.1 h).1
    exact forall_ne_blank_iff.1 (hr d hm).1
  · obtain ⟨hm, hq⟩ := List.mem_filter.1 hd
    have ho : d.mechanism.isModifier = false := by simpa using hq
    have hn := (hr d hm).2
    rw [ho, if_neg Bool.false_ne_true] at hn
    exact ⟨by simpa [Mechanism.isModifier] using ho, hn⟩
  · obtain ⟨hm, hq⟩ := List.mem_filter.1 hd
    have hp := (hr d hm).2
    rw [if_pos hq] at hp
    exact ⟨by simpa [Mechanism.isModifier] using hq, hp⟩
  · have hq := (List.mem_filter.1 (List.dropLast_subset _ hd)).2
    exact hc d (mem_dropLast_of_filter hd) hq

/-- What is read is canonical. -/
theorem isCanonical_of_parse {text : String} {r : Record} (h : parse text = .ok r) : r.IsCanonical := by
  obtain ⟨s, ds, -, hd, rfl⟩ := parse_eq_ok_iff.1 h
  obtain ⟨hr, hc⟩ := readable_of_directivesFrom clean_start hd
  exact isCanonical_ofDirectives hr hc

theorem qualifier_ne_none_of_parse {text : String} {r : Record} (h : parse text = .ok r) {d : Directive}
    (hd : d ∈ r.directives) : d.qualifier ≠ .none := by
  obtain ⟨ds, rs, hs, -, ho, hr, -⟩ := isCanonical_of_parse h
  rw [hs] at hd
  rcases List.mem_append.1 hd with hd | hd
  · exact (ho d hd).2
  · rw [(hr d hd).2]
    decide

/-- A canonical record is read back from its own text. -/
theorem IsCanonical.parse_text {r : Record} (h : r.IsCanonical) : parse r.text = .ok r := by
  obtain ⟨ds, rs, hs, hv, ho, hm, hc⟩ := h
  have hds : ∀ d ∈ ds, d.mechanism.isModifier = false := fun d hd => by simpa [Mechanism.isModifier] using (ho d hd).1
  have hrs : ∀ d ∈ rs, d.mechanism.isModifier = true := fun d hd => by simpa [Mechanism.isModifier] using (hm d hd).1
  have readable : ∀ d ∈ r.directives, d.Readable := by
    intro d hd
    refine ⟨forall_ne_blank_iff.2 (hv d hd), ?_⟩
    rw [hs] at hd
    rcases List.mem_append.1 hd with hd | hd
    · simpa [hds d hd] using (ho d hd).2
    · simpa [hrs d hd] using (hm d hd).2
  have closed : ∀ d ∈ r.directives.dropLast, d.Closed := by
    intro d hd
    rw [hs, List.dropLast_append] at hd
    split at hd
    · have := hds d (List.dropLast_subset _ hd)
      exact fun hq => by rw [this] at hq; cases hq
    · rcases List.mem_append.1 hd with hd | hd
      · exact fun hq => by rw [hds d hd] at hq; cases hq
      · exact fun _ => hc d hd
  have sorted : ofDirectives r.directives = r := by
    have h₁ : ds.filter (!·.mechanism.isModifier) = ds := List.filter_eq_self.2 fun d hd => by simp [hds d hd]
    have h₂ : rs.filter (!·.mechanism.isModifier) = [] := List.filter_eq_nil_iff.2 fun d hd => by simp [hrs d hd]
    have h₃ : ds.filter (·.mechanism.isModifier) = [] := List.filter_eq_nil_iff.2 fun d hd => by simp [hds d hd]
    have h₄ : rs.filter (·.mechanism.isModifier) = rs := List.filter_eq_self.2 fun d hd => by simp [hrs d hd]
    rw [ofDirectives, hs, List.filter_append, List.filter_append, h₁, h₂, h₃, h₄, List.append_nil, List.nil_append,
      ← hs]
  exact parse_eq_ok_iff.2
    ⟨tailChars r.directives, r.directives, by simp [text, toChars], directivesFrom_tailChars readable closed, sorted⟩

/-- **Reading and writing are inverse on canonical records, and on no others**: a record is what some text writes, is read
back from its own text, and is canonical, all three or none. -/
theorem parse_text_iff_isCanonical (r : Record) :
    ((∃ text, parse text = .ok r) ↔ parse r.text = .ok r) ∧ (parse r.text = .ok r ↔ r.IsCanonical) :=
  ⟨⟨fun ⟨_, h⟩ => (isCanonical_of_parse h).parse_text, fun h => ⟨_, h⟩⟩, isCanonical_of_parse,
    IsCanonical.parse_text⟩

end Record

end SenderPolicy
