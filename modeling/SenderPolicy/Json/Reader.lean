import SenderPolicy.Json.Lexer

/-!
# Reading JSON

The tokens are read once from left to right, with the collections that are still open on a stack.

- `run?_append`: the tokens in front determine how those behind are read;
- `ofTokens?_tokens`: the tokens of a value are read as the value.
-/

namespace SenderPolicy.Json

/-- A collection that is still open, with what it holds so far, the last one first. -/
inductive Frame where
  | array (items : List Json)
  /-- An object and the name of its next member. -/
  | member (members : List (Option String × Json)) (name : Option String)

/-- What the next token has to be, below it the open collections, the innermost first. -/
inductive Parse where
  /-- The start of a value. -/
  | value (stack : List Frame)
  /-- The start of the first item of an array, or its end. -/
  | firstItem (stack : List Frame)
  /-- The end of an array, or a comma. -/
  | afterItem (items : List Json) (stack : List Frame)
  /-- The name of the first member of an object, or its end. -/
  | firstName (stack : List Frame)
  /-- The name of a member. -/
  | name (members : List (Option String × Json)) (stack : List Frame)
  /-- The colon after a name. -/
  | colon (members : List (Option String × Json)) (name : Option String) (stack : List Frame)
  /-- The end of an object, or a comma. -/
  | afterMember (members : List (Option String × Json)) (stack : List Frame)
  /-- Nothing: the value is complete. -/
  | done (v : Json)

namespace Parse

/-- The value goes into the innermost collection. -/
def deliver (v : Json) : List Frame → Parse
  | [] => done v
  | .array items :: stack => afterItem (v :: items) stack
  | .member members key :: stack => afterMember ((key, v) :: members) stack

/-- The first token of a value. -/
def start? (stack : List Frame) : Token → Option Parse
  | .null => some (deliver .null stack)
  | .bool b => some (deliver (.bool b) stack)
  | .number s => some (deliver (.number s) stack)
  | .string s => some (deliver (.string s) stack)
  | .openArray => some (firstItem stack)
  | .openObject => some (firstName stack)
  | _ => none

/-- One more token. -/
def step? (t : Token) : Parse → Option Parse
  | value stack => start? stack t
  | firstItem stack =>
    if t = .closeArray then some (deliver (.array []) stack) else start? (.array [] :: stack) t
  | afterItem items stack =>
    match t with
    | .closeArray => some (deliver (.array items.reverse) stack)
    | .comma => some (value (.array items :: stack))
    | _ => none
  | firstName stack =>
    match t with
    | .closeObject => some (deliver (.object []) stack)
    | .string s => some (colon [] s stack)
    | _ => none
  | name members stack =>
    match t with
    | .string s => some (colon members s stack)
    | _ => none
  | colon members s stack =>
    match t with
    | .colon => some (value (.member members s :: stack))
    | _ => none
  | afterMember members stack =>
    match t with
    | .closeObject => some (deliver (.object members.reverse) stack)
    | .comma => some (name members stack)
    | _ => none
  | done _ => none

/-- The state behind some tokens. -/
def run? (p : Parse) (ts : List Token) : Option Parse :=
  ts.foldlM (fun p t => p.step? t) p

/-- The tokens in front determine how those behind are read. -/
theorem run?_append (p : Parse) (ts us : List Token) : p.run? (ts ++ us) = (p.run? ts).bind (·.run? us) := by
  simp [run?, List.foldlM_append]

end Parse

/-- The value that tokens write. -/
def ofTokens? (ts : List Token) : Option Json :=
  match Parse.run? (.value []) ts with
  | some (.done v) => some v
  | _ => none

/-- The value that a text writes. -/
def ofText? (s : String) : Option Json :=
  (lex s.toList).bind ofTokens?

/-! ## Reading what is written -/

namespace Parse

/-- The first token is read first. -/
theorem run?_cons (p : Parse) (t : Token) (ts : List Token) : p.run? (t :: ts) = (p.step? t).bind (·.run? ts) := by
  simp [run?]

/-- The first item of an array is read as a value. -/
theorem firstItem_step? {t : Token} (h : t ≠ .closeArray) (stack : List Frame) :
    (firstItem stack).step? t = (value (.array [] :: stack)).step? t :=
  if_neg h

end Parse

/-- No value starts with the end of an array. -/
theorem exists_tokens_eq_cons (v : Json) : ∃ t ts, v.tokens = t :: ts ∧ t ≠ .closeArray := by
  cases v <;> exact ⟨_, _, by rw [tokens], by simp⟩

namespace Parse

mutual

/-- The tokens of a value are read as the value. -/
theorem run?_tokens (v : Json) (stack : List Frame) : (value stack).run? v.tokens = some (deliver v stack) := by
  cases v with
  | null => rfl
  | bool b => rfl
  | number s => rfl
  | string s => rfl
  | array items =>
    rw [tokens, run?_cons]
    cases items with
    | nil => rfl
    | cons v vs =>
      obtain ⟨t, ts, h, ht⟩ : ∃ t ts, itemTokens (v :: vs) = t :: ts ∧ t ≠ .closeArray := by
        obtain ⟨t, ts, h, ht⟩ := exists_tokens_eq_cons v
        cases vs with
        | nil => exact ⟨t, _, by rw [itemTokens, h]; rfl, ht⟩
        | cons w ws => exact ⟨t, _, by rw [itemTokens, h, List.cons_append]; simp, ht⟩
      have hr := run?_itemTokens v vs [] stack
      rw [h, run?_cons, ← firstItem_step? ht, ← run?_cons, ← h] at hr
      exact hr
  | object members =>
    rw [tokens, run?_cons]
    cases members with
    | nil => rfl
    | cons m ms =>
      obtain ⟨k, v⟩ := m
      obtain ⟨ts, h⟩ : ∃ ts, memberTokens ((k, v) :: ms) = .string k :: ts := by
        cases ms with
        | nil => exact ⟨_, by rw [memberTokens, List.cons_append]⟩
        | cons n ns => exact ⟨_, by rw [memberTokens, List.cons_append]; simp⟩
      have hr := run?_memberTokens (k, v) ms [] stack
      rw [h] at hr ⊢
      exact hr
  termination_by sizeOf v

/-- The tokens of the items of an array are read as the rest of it. -/
theorem run?_itemTokens (v : Json) (vs items : List Json) (stack : List Frame) :
    (value (.array items :: stack)).run? (itemTokens (v :: vs)) =
      some (deliver (.array (items.reverse ++ v :: vs)) stack) := by
  cases vs with
  | nil =>
    rw [itemTokens, run?_append, run?_tokens]
    simp [deliver, run?, step?]
  | cons w ws =>
    rw [itemTokens, run?_append, run?_tokens, Option.bind_some, run?_cons]
    · show (value (.array (v :: items) :: stack)).run? (itemTokens (w :: ws)) = _
      rw [run?_itemTokens w ws]
      simp
    · simp
  termination_by sizeOf (v :: vs)

/-- The tokens of the members of an object are read as the rest of it. -/
theorem run?_memberTokens (m : Option String × Json) (ms members : List (Option String × Json))
    (stack : List Frame) :
    (name members stack).run? (memberTokens (m :: ms)) =
      some (deliver (.object (members.reverse ++ m :: ms)) stack) := by
  obtain ⟨k, v⟩ := m
  have h (ts : List Token) : (name members stack).run? (.string k :: .colon :: v.tokens ++ ts) =
      (afterMember ((k, v) :: members) stack).run? ts := by
    rw [List.cons_append, List.cons_append, run?_cons]
    show (value (.member members k :: stack)).run? (v.tokens ++ ts) = _
    rw [run?_append, run?_tokens]
    rfl
  cases ms with
  | nil =>
    rw [memberTokens, h]
    simp [run?, step?]
  | cons n ns =>
    rw [memberTokens, h, run?_cons]
    · show (name ((k, v) :: members) stack).run? (memberTokens (n :: ns)) = _
      rw [run?_memberTokens n ns]
      simp
    · simp
  termination_by sizeOf (m :: ms)

end

end Parse

/-- The tokens of a value are read as the value. -/
theorem ofTokens?_tokens (v : Json) : ofTokens? v.tokens = some v := by
  rw [ofTokens?, Parse.run?_tokens]
  rfl

end SenderPolicy.Json
