import Mathlib.Data.List.Chain
import SenderPolicy.Json.Printer
import SenderPolicy.Json.Reader

/-!
# JSON text is read back

A value whose strings have a text and whose numbers are spelled as numbers is read back from both layouts. The reader
gets the tokens one by one: a string ends at its quote, a word or a number at a character that cannot continue it, and in
both layouts such a character is what follows, be it a comma, the end of a collection or a blank.

- `lexFrom_flatMap_escape`: the characters of a string are read back;
- `lexFrom_token`: a token in front of other text;
- `lex_of_isLayout`: tokens with blanks between them;
- `isLayout_flatMap`, `isLayout_indented`: the two layouts;
- `isChain_tokens`: what follows a word or a number in the tokens of a value;
- `ofText?_compact`, `ofText?_pretty`: values.
-/

namespace SenderPolicy.Json

open Text

/-! ## One character -/

/-- One character of the text, with the tokens that end at it. -/
theorem lexFrom_cons_of_step {l m : Lexeme} {c : Char} {ts : List Token} (h : l.step? c = some (ts, m))
    (s : List Char) : lexFrom l (c :: s) = (lexFrom m s).map (ts ++ ·) := by
  simp only [lexFrom, h, Option.bind_eq_bind, Option.bind_some, Option.pure_def, Option.map_eq_bind, Function.comp_def]

/-- A character at which no token ends. -/
theorem lexFrom_cons_of_inside {l m : Lexeme} {c : Char} (h : l.step? c = some ([], m)) (s : List Char) :
    lexFrom l (c :: s) = lexFrom m s := by
  rw [lexFrom_cons_of_step h]
  exact Option.map_id'

/-! ## Strings -/

/-- What stands between the quotes for a character: itself, or an escape of its bits. -/
def Piece.ofChar (c : Char) : Piece :=
  if c.toNat < 0x20 ∧ c ∉ ['\x08', '\x0c', '\n', '\r', '\t'] then .unit c.toNat else .char c

/-- Bits that are no half of a character stand for themselves. -/
theorem pair_unit {n : Nat} (h : n < 0x20) (ps : List Piece) :
    pair (.unit n :: ps) = (pair ps).map (Char.ofNat n :: ·) := by
  have high : isHigh n = false := by simp [isHigh]; omega
  have low : isLow n = false := by simp [isLow]; omega
  cases ps with
  | nil => simp [pair, high, low]
  | cons p ps => cases p <;> simp [pair, high, low]

/-- The characters of a string are made of their pieces. -/
theorem pair_map_ofChar (s : List Char) : pair (s.map Piece.ofChar) = some s := by
  induction s with
  | nil => rfl
  | cons c s ih =>
    rw [List.map_cons, Piece.ofChar]
    split
    · rename_i hc
      rw [pair_unit hc.1, ih, Option.map_some, Char.ofNat_toNat]
    · rw [pair, ih, Option.map_some]

/-- An escape of four digits. -/
theorem lexFrom_unit {a b n : Nat} (ha : a < 0x10) (hb : b < 0x10) (bits : 0x10 * a + b = n) (ps : List Piece)
    (s : List Char) :
    lexFrom (.string ps) ('\\' :: 'u' :: '0' :: '0' :: a.digitChar :: b.digitChar :: s) =
      lexFrom (.string (.unit n :: ps)) s := by
  have zero : digit? 16 '0' = some 0 := by decide
  have first : digit? 16 a.digitChar = some a := digit?_digitChar (by decide) ha
  have second : digit? 16 b.digitChar = some b := digit?_digitChar (by decide) hb
  rw [lexFrom_cons_of_inside (m := .escape ps) rfl, lexFrom_cons_of_inside (m := .unit ps 3 0) rfl,
    lexFrom_cons_of_inside (m := .unit ps 2 0) (by simp [Lexeme.step?, zero]),
    lexFrom_cons_of_inside (m := .unit ps 1 0) (by simp [Lexeme.step?, zero]),
    lexFrom_cons_of_inside (m := .unit ps 0 a) (by simp [Lexeme.step?, first]),
    lexFrom_cons_of_inside (m := .string (.unit n :: ps)) (by simp [Lexeme.step?, second, bits])]

/-- An escape of one character. -/
theorem lexFrom_unescape {c d : Char} (hc : c ≠ 'u') (h : unescape? c = some d) (ps : List Piece) (s : List Char) :
    lexFrom (.string ps) ('\\' :: c :: s) = lexFrom (.string (.char d :: ps)) s := by
  rw [lexFrom_cons_of_inside (m := .escape ps) rfl,
    lexFrom_cons_of_inside (m := .string (.char d :: ps)) (by simp [Lexeme.step?, hc, h])]

/-- A character of a string is read as its piece. -/
theorem lexFrom_escape (c : Char) (ps : List Piece) (s : List Char) :
    lexFrom (.string ps) (escape c ++ s) = lexFrom (.string (.ofChar c :: ps)) s := by
  by_cases named : c ∈ ['"', '\\', '\x08', '\x0c', '\n', '\r', '\t']
  · simp only [List.mem_cons, List.not_mem_nil, or_false] at named
    rcases named with rfl | rfl | rfl | rfl | rfl | rfl | rfl <;> exact lexFrom_unescape (by decide) rfl ps s
  · simp only [List.mem_cons, List.not_mem_nil, or_false, not_or] at named
    obtain ⟨quote, backslash, b, f, n, r, t⟩ := named
    have unnamed : c ∉ ['\x08', '\x0c', '\n', '\r', '\t'] := by simp [b, f, n, r, t]
    rw [escape, if_neg quote, if_neg backslash, if_neg b, if_neg f, if_neg n, if_neg r, if_neg t]
    split
    · rename_i low
      rw [Piece.ofChar, if_pos ⟨by omega, unnamed⟩]
      exact lexFrom_unit (a := 0) (by decide) low (by omega) ps s
    · split
      · rename_i high low
        rw [Piece.ofChar, if_pos ⟨low, unnamed⟩]
        exact lexFrom_unit (a := 1) (b := c.toNat - 0x10) (by decide) (by omega) (by omega) ps s
      · rename_i plain
        have step : Lexeme.step? c (.string ps) = some ([], .string (.char c :: ps)) := by
          simp [Lexeme.step?, quote, backslash, plain]
        rw [Piece.ofChar, if_neg fun h => plain h.1]
        exact lexFrom_cons_of_inside step s

/-- The characters of a string are read as their pieces. -/
theorem lexFrom_flatMap_escape (w : List Char) (ps : List Piece) (s : List Char) :
    lexFrom (.string ps) (w.flatMap escape ++ s) = lexFrom (.string ((w.map Piece.ofChar).reverse ++ ps)) s := by
  induction w generalizing ps with
  | nil => rfl
  | cons c w ih =>
    rw [List.flatMap_cons, List.append_assoc, lexFrom_escape, ih, List.map_cons, List.reverse_cons, List.append_assoc,
      List.singleton_append]

/-- A string is read back, whatever comes next. -/
theorem lexFrom_quote (w s : List Char) :
    lexFrom .none (quote w ++ s) = (lexFrom .none s).map (.string (some (String.ofList w)) :: ·) := by
  have stop : Lexeme.step? '"' (.string (w.map Piece.ofChar).reverse) =
      some ([.string (some (String.ofList w))], .none) := by
    simp [Lexeme.step?, pair_map_ofChar]
  rw [quote, List.cons_append, List.cons_append, lexFrom_cons_of_inside (m := .string []) rfl, List.append_assoc,
    lexFrom_flatMap_escape, List.append_nil, List.singleton_append, lexFrom_cons_of_step stop]
  rfl

/-! ## Words and numbers -/

/-- The characters that stand behind a word or a number: blanks, commas and the ends of collections. -/
def stops : List Char :=
  [' ', '\n', '\t', '\r', ',', ']', '\x7d']

/-- A text in front of which a word or a number ends. -/
def EndsBare (s : List Char) : Prop :=
  ∀ c ∈ s.head?, c ∈ stops

/-- No letter is among them. -/
theorem isLower_of_mem_stops {c : Char} (h : c ∈ stops) : c.isLower = false := by
  simp only [stops, List.mem_cons, List.not_mem_nil, or_false] at h
  rcases h with rfl | rfl | rfl | rfl | rfl | rfl | rfl <;> rfl

/-- None of them continues a number. -/
theorem next?_of_mem_stops {c : Char} (h : c ∈ stops) (p : Phase) : p.next? c = none := by
  simp only [stops, List.mem_cons, List.not_mem_nil, or_false] at h
  rcases h with rfl | rfl | rfl | rfl | rfl | rfl | rfl <;> cases p <;> rfl

/-- The token at hand is complete where the next character does not continue it. -/
theorem lexFrom_of_finish {l : Lexeme} {t : Token} {s : List Char} (h : l.finish? = some [t])
    (stop : ∀ c ∈ s.head?, l.step? c = do
      let ts ← l.finish?
      let (us, m) ← start? c
      return (ts ++ us, m)) :
    lexFrom l s = (lexFrom .none s).map (t :: ·) := by
  cases s with
  | nil =>
    rw [lexFrom, h]
    rfl
  | cons c s =>
    have start : Lexeme.step? c .none = start? c := rfl
    simp only [lexFrom, stop c rfl, h, start]
    cases start? c with
    | none => rfl
    | some x => cases hx : lexFrom x.2 s <;> simp [hx]

/-- Letters are taken into the word. -/
theorem lexFrom_letters {w : List Char} (hw : ∀ c ∈ w, c.isLower = true) (letters s : List Char) :
    lexFrom (.word letters) (w ++ s) = lexFrom (.word (w.reverse ++ letters)) s := by
  induction w generalizing letters with
  | nil => rfl
  | cons c w ih =>
    have hc : c.isLower = true := hw c List.mem_cons_self
    have step : Lexeme.step? c (.word letters) = some ([], .word (c :: letters)) := by rw [Lexeme.step?, if_pos hc]
    rw [List.cons_append, lexFrom_cons_of_inside step, ih fun d hd => hw d (List.mem_cons_of_mem _ hd),
      List.reverse_cons, List.append_assoc, List.singleton_append]

/-- A word is read back. -/
theorem lexFrom_word {c : Char} {w : List Char} {t : Token} (hc : start? c = some ([], .word [c]))
    (hw : w.all Char.isLower = true) (h : word? (c :: w) = some t) {s : List Char} (ends : EndsBare s) :
    lexFrom .none (c :: w ++ s) = (lexFrom .none s).map (t :: ·) := by
  rw [List.cons_append, lexFrom_cons_of_inside (l := .none) (m := .word [c]) hc, lexFrom_letters (List.all_eq_true.1 hw)]
  apply lexFrom_of_finish
  · simp [Lexeme.finish?, h]
  · intro d hd
    have letter : ¬ d.isLower = true := by simp [isLower_of_mem_stops (ends d hd)]
    rw [Lexeme.step?, if_neg letter]

/-- Characters that are a number: each of them continues those in front, and the last one may be the end. -/
def IsNumber (w : List Char) : Prop :=
  ∃ c v p q, w = c :: v ∧ start? c = some ([], .number p [c]) ∧ v.foldlM (fun p c => p.next? c) p = some q ∧
    q.isComplete = true

/-- Characters that continue a number are taken into it. -/
theorem lexFrom_number {v : List Char} {p q : Phase} (hv : v.foldlM (fun p c => p.next? c) p = some q)
    (chars s : List Char) : lexFrom (.number p chars) (v ++ s) = lexFrom (.number q (v.reverse ++ chars)) s := by
  induction v generalizing p chars with
  | nil =>
    obtain rfl : p = q := Option.some.inj hv
    rfl
  | cons c v ih =>
    rw [List.foldlM_cons] at hv
    obtain ⟨r, hr, hv⟩ := Option.bind_eq_some_iff.1 hv
    have step : Lexeme.step? c (.number p chars) = some ([], .number r (c :: chars)) := by
      simp only [Lexeme.step?, hr]
    rw [List.cons_append, lexFrom_cons_of_inside step, ih hv, List.reverse_cons, List.append_assoc,
      List.singleton_append]

/-- A number is read back. -/
theorem lexFrom_of_isNumber {w : List Char} (hw : IsNumber w) {s : List Char} (ends : EndsBare s) :
    lexFrom .none (w ++ s) = (lexFrom .none s).map (.number w :: ·) := by
  obtain ⟨c, v, p, q, rfl, hc, hv, complete⟩ := hw
  rw [List.cons_append, lexFrom_cons_of_inside (l := .none) (m := .number p [c]) hc, lexFrom_number hv]
  apply lexFrom_of_finish
  · simp [Lexeme.finish?, complete]
  · intro d hd
    simp only [Lexeme.step?, next?_of_mem_stops (ends d hd)]

/-- A digit other than zero starts the whole part of a number. -/
theorem start?_of_isDigit {c : Char} (hc : c.isDigit = true) (hz : c ≠ '0') :
    start? c = some ([], .number .whole [c]) := by
  have other {d : Char} (hd : d.isDigit = false) : c ≠ d := by
    rintro rfl
    rw [hc] at hd
    cases hd
  have letter : ¬ c.isLower = true := by
    intro h
    have digit : c.toNat ≤ 57 := of_decide_eq_true (Bool.and_eq_true_iff.1 hc).2
    have lower : 97 ≤ c.toNat := of_decide_eq_true (Bool.and_eq_true_iff.1 h).1
    omega
  simp [start?, isBlank, other (d := ' ') rfl, other (d := '\n') rfl, other (d := '\t') rfl, other (d := '\r') rfl,
    other (d := '"') rfl, other (d := '-') rfl, letter, hz, hc]

/-- Digits continue the whole part of a number. -/
theorem foldlM_next?_of_isDigit {w : List Char} (h : ∀ c ∈ w, c.isDigit = true) :
    w.foldlM (fun p c => Phase.next? c p) .whole = some .whole := by
  induction w with
  | nil => rfl
  | cons c w ih =>
    have hc : c.isDigit = true := h c List.mem_cons_self
    have step : Phase.next? c .whole = some .whole := by rw [Phase.next?, if_pos hc]
    rw [List.foldlM_cons, step]
    exact ih fun d hd => h d (List.mem_cons_of_mem _ hd)

/-- The decimal digits of a natural number are a number. -/
theorem isNumber_toDigits (n : Nat) : IsNumber (Nat.toDigits 10 n) := by
  by_cases hn : n = 0
  · subst hn
    exact ⟨'0', [], .zero, .zero, by decide, rfl, rfl, rfl⟩
  · obtain ⟨c, w, hw⟩ := List.exists_cons_of_ne_nil (Nat.toDigits_ne_nil (b := 10) (n := n))
    have digits : ∀ d ∈ c :: w, d.isDigit = true := by
      rw [← hw]
      exact fun d => Nat.isDigit_of_mem_toDigits (by decide) (by decide)
    have first : c ≠ '0' := by
      rintro rfl
      apply head?_toDigits_ne (b := 10) (by decide) hn
      rw [hw, List.head?_cons]
    exact ⟨c, w, .whole, .whole, hw, start?_of_isDigit (digits c List.mem_cons_self) first,
      foldlM_next?_of_isDigit fun d hd => digits d (List.mem_cons_of_mem _ hd), rfl⟩

/-! ## Tokens -/

namespace Token

/-- Whether the end of a token can only be told from what follows. -/
def isBare : Token → Bool
  | null | bool _ | number _ => true
  | _ => false

/-- A token that text can stand for: a string has a text, and a number is spelled as one. -/
def IsLegible : Token → Prop
  | number w => IsNumber w
  | string text => text.isSome = true
  | _ => True

end Token

/-- A token of one character is read back. -/
theorem lexFrom_punctuation {c : Char} {t : Token} (h : start? c = some ([t], .none)) (s : List Char) :
    lexFrom .none (c :: s) = (lexFrom .none s).map (t :: ·) :=
  lexFrom_cons_of_step (l := .none) h s

/-- A token is read back in front of text that is not taken for a part of it. -/
theorem lexFrom_token {t : Token} (legible : t.IsLegible) {s : List Char} (ends : t.isBare = true → EndsBare s) :
    lexFrom .none (t.toChars ++ s) = (lexFrom .none s).map (t :: ·) := by
  cases t with
  | openArray | closeArray | openObject | closeObject | colon | comma => exact lexFrom_punctuation rfl s
  | null => exact lexFrom_word rfl rfl rfl (ends rfl)
  | bool b => cases b <;> exact lexFrom_word rfl rfl rfl (ends rfl)
  | number w => exact lexFrom_of_isNumber legible (ends rfl)
  | string text =>
    obtain ⟨w, rfl⟩ := Option.isSome_iff_exists.1 legible
    have read := lexFrom_quote w.toList s
    rwa [String.ofList_toList] at read

/-! ## Layouts -/

/-- Text that writes tokens with blanks in front of them, each so that its end can be told. -/
inductive IsLayout : List Token → List Char → Prop where
  | nil {gap : List Char} (blank : ∀ c ∈ gap, isBlank c = true) : IsLayout [] gap
  | cons {t : Token} {ts : List Token} {gap s : List Char} (blank : ∀ c ∈ gap, isBlank c = true)
      (legible : t.IsLegible) (ends : t.isBare = true → EndsBare s) (rest : IsLayout ts s) :
      IsLayout (t :: ts) (gap ++ (t.toChars ++ s))

/-- Blanks in front of text do not count. -/
theorem lexFrom_append_of_blank {gap : List Char} (blank : ∀ c ∈ gap, isBlank c = true) (s : List Char) :
    lexFrom .none (gap ++ s) = lexFrom .none s := by
  induction gap with
  | nil => rfl
  | cons c gap ih =>
    rw [List.cons_append, lexFrom_blank (blank c List.mem_cons_self), ih fun d hd => blank d (List.mem_cons_of_mem _ hd)]

/-- Tokens are read back from their layouts. -/
theorem lex_of_isLayout {ts : List Token} {s : List Char} (h : IsLayout ts s) : lex s = some ts := by
  rw [lex]
  induction h with
  | @nil gap blank =>
    rw [← List.append_nil gap, lexFrom_append_of_blank blank]
    rfl
  | cons blank legible ends _ ih => rw [lexFrom_append_of_blank blank, lexFrom_token legible ends, ih, Option.map_some]

/-- The blanks of JSON end words and numbers. -/
theorem mem_stops_of_isBlank {c : Char} (h : isBlank c = true) : c ∈ stops := by
  simp only [isBlank, Bool.or_eq_true, decide_eq_true_eq] at h
  rcases h with ((rfl | rfl) | rfl) | rfl <;> simp [stops]

/-- Words and numbers end in front of blanks. -/
theorem endsBare_append {gap s : List Char} (blank : ∀ c ∈ gap, isBlank c = true) (h : EndsBare s) :
    EndsBare (gap ++ s) := by
  intro c hc
  cases gap with
  | nil => exact h c hc
  | cons d gap =>
    obtain rfl : d = c := Option.some.inj hc
    exact mem_stops_of_isBlank (blank d List.mem_cons_self)

namespace Token

/-- Whether words and numbers end in front of the token. -/
def endsBare (t : Token) : Bool :=
  t = comma || t.closes

/-- Two tokens with nothing between them can be told apart. -/
def Precedes (t u : Token) : Prop :=
  t.isBare = true → u.endsBare = true

end Token

section

variable {t u : Token} {ts : List Token} {gap s : List Char}

theorem IsLayout.append (blank : ∀ c ∈ gap, isBlank c = true) (h : IsLayout ts s) : IsLayout ts (gap ++ s) := by
  cases h with
  | nil behind =>
    apply IsLayout.nil
    intro c hc
    rcases List.mem_append.1 hc with hc | hc
    · exact blank c hc
    · exact behind c hc
  | cons behind legible ends rest =>
    rw [← List.append_assoc]
    refine .cons (fun c hc => ?_) legible ends rest
    rcases List.mem_append.1 hc with hc | hc
    · exact blank c hc
    · exact behind c hc

/-- Words and numbers end in front of a layout that starts with such a token. -/
theorem IsLayout.endsBare (h : IsLayout (u :: ts) s) (hu : u.endsBare = true) : EndsBare s := by
  cases h with
  | cons blank _ _ _ =>
    apply endsBare_append blank
    cases u with
    | closeArray | closeObject | comma =>
      rintro c ⟨⟩
      simp [stops]
    | openArray | openObject | colon | null | bool | number | string => cases hu

/-- One more token in front of a layout. -/
theorem IsLayout.cons_of_precedes (legible : t.IsLegible) (follows : t.Precedes u)
    (blank : ∀ c ∈ gap, isBlank c = true) (h : IsLayout (u :: ts) s) :
    IsLayout (t :: u :: ts) (t.toChars ++ (gap ++ s)) := by
  have ends (bare : t.isBare = true) : EndsBare (gap ++ s) := endsBare_append blank (h.endsBare (follows bare))
  exact IsLayout.cons (List.forall_mem_nil _) legible ends (h.append blank)

/-- The last token of a layout. -/
theorem IsLayout.singleton (legible : t.IsLegible) (blank : ∀ c ∈ gap, isBlank c = true) :
    IsLayout [t] (t.toChars ++ gap) := by
  have ends (_ : t.isBare = true) : EndsBare gap := fun c hc => mem_stops_of_isBlank (blank c (List.mem_of_mem_head? hc))
  exact IsLayout.cons (List.forall_mem_nil _) legible ends (.nil blank)

end

/-- Tokens without anything between them. -/
theorem isLayout_flatMap {ts : List Token} (chain : ts.IsChain Token.Precedes) (legible : ∀ t ∈ ts, t.IsLegible) :
    IsLayout ts (ts.flatMap Token.toChars) := by
  induction chain with
  | nil => exact .nil (by simp)
  | singleton t => exact .singleton (legible t List.mem_cons_self) (by simp)
  | cons_cons follows _ ih =>
    have rest := ih fun t ht => legible t (List.mem_cons_of_mem _ ht)
    have whole := IsLayout.cons_of_precedes (legible _ List.mem_cons_self) follows (List.forall_mem_nil _) rest
    rwa [List.nil_append, ← List.flatMap_cons] at whole

/-- What stands between two tokens of the indented layout is blank. -/
theorem isBlank_of_mem_spacing {depth : Nat} {t u : Token} {c : Char} (h : c ∈ spacing depth t u) :
    isBlank c = true := by
  have line {n : Nat} (hc : c ∈ newline n) : isBlank c = true := by
    rcases List.mem_cons.1 hc with rfl | hc
    · rfl
    · rw [List.eq_of_mem_replicate hc]
      rfl
  unfold spacing at h
  split at h
  · split at h
    · cases h
    · exact line h
  · split at h
    · exact line h
    · split at h
      · exact line h
      · split at h
        · rw [List.mem_singleton.1 h]
          rfl
        · cases h

/-- Tokens in the indented layout, perhaps with blanks behind them. -/
theorem isLayout_indented {ts : List Token} (chain : ts.IsChain Token.Precedes) (legible : ∀ t ∈ ts, t.IsLegible)
    {back : List Char} (blank : ∀ c ∈ back, isBlank c = true) (depth : Nat) :
    IsLayout ts (indented depth ts ++ back) := by
  induction chain generalizing depth with
  | nil => exact .nil blank
  | singleton t => exact .singleton (legible t List.mem_cons_self) blank
  | cons_cons follows _ ih =>
    rw [indented, List.append_assoc, List.append_assoc]
    exact .cons_of_precedes (legible _ List.mem_cons_self) follows (fun c => isBlank_of_mem_spacing)
      (ih (fun t ht => legible t (List.mem_cons_of_mem _ ht)) _)

/-! ## Values -/

namespace Token

/-- What is not bare stands in front of anything. -/
theorem isChain_cons_of_not_bare {t : Token} (ht : t.isBare = false) {ts : List Token} (h : ts.IsChain Precedes) :
    (t :: ts).IsChain Precedes := by
  apply h.cons
  intro u _ bare
  rw [ht] at bare
  cases bare

/-- Anything stands in front of a comma or the end of a collection. -/
theorem isChain_append_of_endsBare {t : Token} (ht : t.endsBare = true) {ts us : List Token}
    (hts : ts.IsChain Precedes) (hus : (t :: us).IsChain Precedes) : (ts ++ t :: us).IsChain Precedes := by
  apply hts.append hus
  rintro u _ v ⟨⟩ _
  exact ht

end Token

mutual

/-- In the tokens of a value, words and numbers stand in front of commas and ends of collections only. -/
theorem isChain_tokens (v : Json) : v.tokens.IsChain Token.Precedes := by
  cases v with
  | null | bool | number | string => exact .singleton _
  | array items => exact Token.isChain_cons_of_not_bare rfl (isChain_itemTokens items)
  | object members => exact Token.isChain_cons_of_not_bare rfl (isChain_memberTokens members)
  termination_by sizeOf v

/-- The same of the items of an array, up to its end. -/
theorem isChain_itemTokens (items : List Json) : (itemTokens items).IsChain Token.Precedes := by
  match items with
  | [] => exact .singleton _
  | [v] => exact Token.isChain_append_of_endsBare rfl (isChain_tokens v) (.singleton _)
  | v :: w :: vs =>
    rw [itemTokens]
    · exact Token.isChain_append_of_endsBare rfl (isChain_tokens v)
        (Token.isChain_cons_of_not_bare rfl (isChain_itemTokens (w :: vs)))
    · simp
  termination_by sizeOf items

/-- The same of the members of an object, up to its end. -/
theorem isChain_memberTokens (members : List (Option String × Json)) :
    (memberTokens members).IsChain Token.Precedes := by
  have member (k : Option String) {ts : List Token} (h : ts.IsChain Token.Precedes) :
      (.string k :: .colon :: ts).IsChain Token.Precedes :=
    Token.isChain_cons_of_not_bare rfl (Token.isChain_cons_of_not_bare rfl h)
  match members with
  | [] => exact .singleton _
  | [(k, v)] => exact member k (Token.isChain_append_of_endsBare rfl (isChain_tokens v) (.singleton _))
  | (k, v) :: m :: ms =>
    rw [memberTokens]
    · exact member k (Token.isChain_append_of_endsBare rfl (isChain_tokens v)
        (Token.isChain_cons_of_not_bare rfl (isChain_memberTokens (m :: ms))))
    · simp
  termination_by sizeOf members

end

/-- A value that text can stand for: its strings have texts, and its numbers are spelled as numbers. -/
def IsLegible (v : Json) : Prop :=
  ∀ t ∈ v.tokens, t.IsLegible

/-- Where the tokens of items come from. -/
theorem mem_itemTokens {items : List Json} {t : Token} (h : t ∈ itemTokens items) :
    t = .closeArray ∨ t = .comma ∨ ∃ v ∈ items, t ∈ v.tokens := by
  induction items with
  | nil => exact .inl (List.mem_singleton.1 h)
  | cons v vs ih =>
    have hv (ht : t ∈ v.tokens) : ∃ w ∈ v :: vs, t ∈ w.tokens := ⟨v, List.mem_cons_self, ht⟩
    cases vs with
    | nil =>
      rcases List.mem_append.1 h with h | h
      · exact .inr (.inr (hv h))
      · exact .inl (List.mem_singleton.1 h)
    | cons w ws =>
      rw [itemTokens, List.mem_append, List.mem_cons] at h
      · rcases h with h | h | h
        · exact .inr (.inr (hv h))
        · exact .inr (.inl h)
        · exact (ih h).imp_right (.imp_right fun ⟨u, hu, ht⟩ => ⟨u, List.mem_cons_of_mem _ hu, ht⟩)
      · simp

/-- Where the tokens of members come from. -/
theorem mem_memberTokens {members : List (Option String × Json)} {t : Token} (h : t ∈ memberTokens members) :
    t = .closeObject ∨ t = .comma ∨ t = .colon ∨ ∃ m ∈ members, t = .string m.1 ∨ t ∈ m.2.tokens := by
  induction members with
  | nil => exact .inl (List.mem_singleton.1 h)
  | cons m ms ih =>
    have hm (ht : t = .string m.1 ∨ t ∈ m.2.tokens) : ∃ n ∈ m :: ms, t = .string n.1 ∨ t ∈ n.2.tokens :=
      ⟨m, List.mem_cons_self, ht⟩
    cases ms with
    | nil =>
      simp only [memberTokens, List.cons_append, List.mem_cons, List.mem_append, List.not_mem_nil, or_false] at h
      rcases h with h | h | h | h
      · exact .inr (.inr (.inr (hm (.inl h))))
      · exact .inr (.inr (.inl h))
      · exact .inr (.inr (.inr (hm (.inr h))))
      · exact .inl h
    | cons n ns =>
      rw [memberTokens] at h
      · simp only [List.cons_append, List.mem_cons, List.mem_append] at h
        rcases h with h | h | h | h | h
        · exact .inr (.inr (.inr (hm (.inl h))))
        · exact .inr (.inr (.inl h))
        · exact .inr (.inr (.inr (hm (.inr h))))
        · exact .inr (.inl h)
        · exact (ih h).imp_right (.imp_right (.imp_right fun ⟨l, hl, ht⟩ => ⟨l, List.mem_cons_of_mem _ hl, ht⟩))
      · simp

/-- An array is legible if its items are. -/
theorem isLegible_array {items : List Json} (h : ∀ v ∈ items, v.IsLegible) : (array items).IsLegible := by
  intro t ht
  rcases List.mem_cons.1 ht with rfl | ht
  · trivial
  · rcases mem_itemTokens ht with rfl | rfl | ⟨v, hv, ht⟩
    · trivial
    · trivial
    · exact h v hv t ht

/-- An object is legible if its names have texts and its values are legible. -/
theorem isLegible_object {members : List (Option String × Json)}
    (h : ∀ m ∈ members, m.1.isSome = true ∧ m.2.IsLegible) : (object members).IsLegible := by
  intro t ht
  rcases List.mem_cons.1 ht with rfl | ht
  · trivial
  · rcases mem_memberTokens ht with rfl | rfl | rfl | ⟨m, hm, rfl | ht⟩
    · trivial
    · trivial
    · trivial
    · exact (h m hm).1
    · exact (h m hm).2 t ht

/-- A value is read back from the compact layout. -/
theorem ofText?_compact {v : Json} (legible : v.IsLegible) : ofText? v.compact = some v := by
  have read : lex (v.tokens.flatMap Token.toChars) = some v.tokens :=
    lex_of_isLayout (isLayout_flatMap (isChain_tokens v) legible)
  rw [ofText?, compact, String.toList_ofList, read, Option.bind_some, ofTokens?_tokens]

/-- A value is read back from the indented layout with blanks behind it. -/
theorem ofText?_pretty_append {v : Json} (legible : v.IsLegible) {back : String}
    (blank : ∀ c ∈ back.toList, isBlank c = true) : ofText? (v.pretty ++ back) = some v := by
  have read : lex (indented 0 v.tokens ++ back.toList) = some v.tokens :=
    lex_of_isLayout (isLayout_indented (isChain_tokens v) legible blank 0)
  rw [ofText?, pretty, String.toList_append, String.toList_ofList, read, Option.bind_some, ofTokens?_tokens]

/-- A value is read back from the indented layout. -/
theorem ofText?_pretty {v : Json} (legible : v.IsLegible) : ofText? v.pretty = some v := by
  rw [← String.append_empty (s := v.pretty)]
  exact ofText?_pretty_append legible (by simp)

end SenderPolicy.Json
