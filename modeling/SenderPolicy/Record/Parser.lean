import SenderPolicy.Error
import SenderPolicy.Record.Basic

/-!
# Reading a policy record

A text is read once from left to right. Each character either belongs to the token at hand or ends it; a token that
ends becomes a directive or an error, and the first error is the answer. Modifiers are moved behind the other
directives.

- `directivesFrom_named`: a name takes every character but a blank or a separator;
- `directivesFrom_lead_named`: a name starts with any character that has no other meaning;
- `directivesFrom_valued`: a value takes every character but a blank.
-/

namespace SenderPolicy.Record

/-- What a character means between tokens. -/
inductive Glyph where
  /-- One of `+ - ~ ?`. -/
  | sign
  /-- A colon or an equals sign. -/
  | separator
  /-- A space or the end of a line. -/
  | blank
  | other
  deriving DecidableEq, Repr

/-- What a character means between tokens. -/
def glyph (c : Char) : Glyph :=
  if c ∈ ['+', '-', '~', '?'] then .sign
  else if c ∈ [':', '='] then .separator
  else if c ∈ [' ', '\r', '\n'] then .blank
  else .other

/-- The token at hand. -/
inductive Token where
  /-- Nothing but signs and blanks so far; the last sign counts. -/
  | lead (qualifier : Qualifier)
  /-- A name that is not empty. -/
  | named (qualifier : Qualifier) (name : List Char)
  /-- A name, a separator and the value so far. -/
  | valued (qualifier : Qualifier) (name : List Char) (separator : Char) (value : List Char)
  deriving DecidableEq, Repr

/-- A token of which nothing has been read. -/
def Token.start : Token :=
  .lead .default

/-- The qualifier of a symbol. -/
def qualifier (c : Char) : Except Error Qualifier :=
  match Qualifier.ofSymbol? c with
  | some q => .ok q
  | none => .error (.unknownSymbol c)

/-- The directive of a token that is no modifier. -/
def ordinary (q : Qualifier) (name value : List Char) : Except Error Directive :=
  match Mechanism.ofName? name with
  | some m => .ok ⟨q, m, String.ofList value⟩
  | none => .error (.unknownMechanism (String.ofList name))

/-- The directive of a modifier; its qualifier is always `pass`. -/
def modifier (name value : List Char) : Except Error Directive :=
  match Mechanism.modifier? name with
  | some m => .ok ⟨.pass, m, String.ofList value⟩
  | none => .error (.unknownModifier (String.ofList name))

/-- The directives of a token that has ended, none if it has no name. -/
def Token.finish : Token → Except Error (List Directive)
  | lead _ => .ok []
  | named q name => (ordinary q name []).map fun d => [d]
  | valued q name sep value =>
    (if sep = '=' then modifier name value else ordinary q name value).map fun d => [d]

/-- Whether a blank ends the token. -/
def Token.endsAtBlank : Token → Bool
  | lead _ => false
  | named .. => true
  | valued _ _ _ value => value ≠ []

/-- The token with one more character, which does not end it. -/
def Token.push (c : Char) : Token → Except Error Token
  | lead q =>
    match glyph c with
    | .sign => (qualifier c).map lead
    | .separator => .error .malformed
    | .blank => .ok (lead q)
    | .other => .ok (named q [c])
  | named q name =>
    match glyph c with
    | .separator => .ok (valued q name c [])
    | _ => .ok (named q (name ++ [c]))
  | valued q name sep value =>
    match glyph c with
    | .blank => .ok (valued q name sep value)
    | _ => .ok (valued q name sep (value ++ [c]))

/-- The directives of the text that follows the token at hand, in the order of the text. -/
def directivesFrom (t : Token) : List Char → Except Error (List Directive)
  | [] => t.finish
  | c :: s =>
    if glyph c = .blank ∧ t.endsAtBlank then do
      let ds ← t.finish
      let es ← directivesFrom .start s
      return ds ++ es
    else do
      let u ← t.push c
      directivesFrom u s

/-- A name takes every character but a blank or a separator. -/
theorem directivesFrom_named {q : Qualifier} {name w s : List Char}
    (h : ∀ c ∈ w, glyph c ≠ .blank ∧ glyph c ≠ .separator) :
    directivesFrom (.named q name) (w ++ s) = directivesFrom (.named q (name ++ w)) s := by
  induction w generalizing name with
  | nil => simp
  | cons c w ih =>
    have hc := h c (by simp)
    have hp : Token.push c (.named q name) = .ok (.named q (name ++ [c])) := by
      cases hg : glyph c <;> simp_all [Token.push]
    rw [List.cons_append, directivesFrom, if_neg (fun hb => hc.1 hb.1), hp]
    show directivesFrom (.named q (name ++ [c])) (w ++ s) = _
    rw [ih fun d hd => h d (by simp [hd]), List.append_assoc, List.singleton_append]

/-- A name starts with any character that has no other meaning. -/
theorem directivesFrom_lead_named {q : Qualifier} {c : Char} {w : List Char} (hc : glyph c = .other)
    (hw : ∀ x ∈ w, glyph x ≠ .blank ∧ glyph x ≠ .separator) (s : List Char) :
    directivesFrom (.lead q) (c :: w ++ s) = directivesFrom (.named q (c :: w)) s := by
  rw [List.cons_append, directivesFrom, if_neg (by simp [Token.endsAtBlank]), Token.push, hc]
  show directivesFrom (.named q [c]) (w ++ s) = _
  rw [directivesFrom_named hw]
  rfl

/-- A value takes every character but a blank. -/
theorem directivesFrom_valued {q : Qualifier} {name v w s : List Char} {sep : Char}
    (h : ∀ c ∈ w, glyph c ≠ .blank) :
    directivesFrom (.valued q name sep v) (w ++ s) = directivesFrom (.valued q name sep (v ++ w)) s := by
  induction w generalizing v with
  | nil => simp
  | cons c w ih =>
    have hc := h c (by simp)
    have hp : Token.push c (.valued q name sep v) = .ok (.valued q name sep (v ++ [c])) := by
      cases hg : glyph c <;> simp_all [Token.push]
    rw [List.cons_append, directivesFrom, if_neg (fun hb => hc hb.1), hp]
    show directivesFrom (.valued q name sep (v ++ [c])) (w ++ s) = _
    rw [ih fun d hd => h d (by simp [hd]), List.append_assoc, List.singleton_append]

/-- The record with its modifiers moved behind the other directives. -/
def ofDirectives (ds : List Directive) : Record :=
  ⟨ds.filter (!·.mechanism.isModifier) ++ ds.filter (·.mechanism.isModifier)⟩

/-- The record of the characters behind the mark. -/
def ofTail (s : List Char) : Except Error Record :=
  (directivesFrom .start s).map ofDirectives

/-- The record that characters write. -/
def ofChars (s : List Char) : Except Error Record :=
  match mark.toList.isPrefixOf? s with
  | some rest => ofTail rest
  | none => .error .unmarked

/-- The record that a text writes. -/
def parse (text : String) : Except Error Record :=
  ofChars text.toList

end SenderPolicy.Record
