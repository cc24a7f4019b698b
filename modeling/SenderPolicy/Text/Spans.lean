import SenderPolicy.Text.Numeral

/-!
# Tables of code points

A property of characters is given by runs of code points with one value each. The runs are written as hexadecimal
numbers or pairs of them with a dash between, with blanks between the runs, and kept in ascending order.

- `contains_of_find?`: a run that is found contains the code point.
-/

namespace SenderPolicy.Text

/-- A run of code points with one value. -/
structure Span (α : Type) where
  first : Nat
  last : Nat
  value : α

namespace Span

variable {α : Type}

/-- Whether the run contains a code point. -/
def contains (s : Span α) (n : Nat) : Bool :=
  s.first ≤ n && n ≤ s.last

/-- The ends of the run that a text writes. -/
def bounds? (s : List Char) : Option (Nat × Nat) :=
  match s.splitOn '-' with
  | [a] => (readNat? 16 a).map fun n => (n, n)
  | [a, b] => do return (← readNat? 16 a, ← readNat? 16 b)
  | _ => none

/-- The entries of a text, which have blanks or ends of lines between them. -/
def entries (s : String) : List (List Char) :=
  (s.toList.splitOnP fun c => c = ' ' || c = '\n').filter (· ≠ [])

/-- The runs that a text writes, all with the same value. -/
def ofText (value : α) (s : String) : List (Span α) :=
  (entries s).filterMap fun e => (bounds? e).map fun (first, last) => ⟨first, last, value⟩

/-- The character of a code point in hexadecimal. -/
def char? (s : List Char) : Option Char :=
  (readNat? 16 s).map Char.ofNat

/-- The texts that a list writes: code points with dots inside a text and commas between texts. -/
def texts? (s : List Char) : Option (List (List Char)) :=
  (s.splitOn ',').mapM fun t => if t = [] then some [] else (t.splitOn '.').mapM char?

/-- The texts of consecutive code points, written as the first code point, a colon and the list of texts. -/
def listed? (s : List Char) : Option (Span (List (List Char))) :=
  match s.splitOn ':' with
  | [a, b] => do
    let first ← readNat? 16 a
    let texts ← texts? b
    return ⟨first, first + texts.length - 1, texts⟩
  | _ => none

end Span

/-- Runs in ascending order. -/
abbrev Spans (α : Type) : Type :=
  Array (Span α)

namespace Spans

variable {α : Type}

/-- The runs in ascending order. -/
def ofList (l : List (Span α)) : Spans α :=
  (l.mergeSort fun a b => a.first ≤ b.first).toArray

/-- The run between two places of the table that contains a code point. -/
def search (t : Spans α) (n lo hi : Nat) : Option (Span α) :=
  if lo < hi then
    let mid := (lo + hi) / 2
    match t[mid]? with
    | some s => if n < s.first then search t n lo mid else if s.last < n then search t n (mid + 1) hi else some s
    | none => none
  else none
  termination_by hi - lo

/-- The run that contains a code point. -/
def find? (t : Spans α) (n : Nat) : Option (Span α) :=
  t.search n 0 t.size

/-- The value of a character. -/
def value? (t : Spans α) (c : Char) : Option α :=
  (t.find? c.toNat).map Span.value

/-- A run that is found contains the code point. -/
theorem contains_of_search {t : Spans α} {n lo hi : Nat} {s : Span α} (h : t.search n lo hi = some s) :
    s.contains n = true := by
  fun_induction search t n lo hi with
  | case1 _ _ _ _ _ _ _ ih => exact ih h
  | case2 _ _ _ _ _ _ _ _ ih => exact ih h
  | case3 _ _ _ _ s' _ h1 h2 =>
    cases h
    simp [Span.contains]
    omega
  | case4 => cases h
  | case5 => cases h

/-- A run that is found contains the code point. -/
theorem contains_of_find? {t : Spans α} {n : Nat} {s : Span α} (h : t.find? n = some s) : s.contains n = true :=
  contains_of_search h

end Spans

end SenderPolicy.Text
