import SenderPolicy.Domain.Direction
import SenderPolicy.Domain.Label
import SenderPolicy.Error

/-!
# Domains in ASCII

The ASCII form of a domain is that of its labels, with dots between them. If a character of any label runs from right
to left, then every label has to keep one direction. The normal form of a domain text is the ASCII form of what is left
without the blanks around it and the dots at its end.

- `normalize_eq_emptyDomain_iff`: which texts are no domain because nothing is left of them.
-/

namespace SenderPolicy.Domain

open Text

/-- The labels of a domain, if each of them is one and they go together. -/
def labels? (s : List Char) : Option (List Label) := do
  let ls := (← (s.splitOn '.').mapM Label.ofChars?).flatten
  if keepDirections (ls.map Label.chars) then some ls else none

/-- The ASCII form of a domain. -/
def toAscii? (s : List Char) : Option (List Char) :=
  (labels? s).map fun ls => ['.'].intercalate (ls.map Label.ascii)

/-- The text of a domain without the blanks around it and then without the dots at its end. -/
def bare (s : List Char) : List Char :=
  dropEndWhile (· = '.') (trim s)

/-- The normal form of a domain text. -/
def normalize (domain : String) : Except Error String :=
  match bare domain.toList with
  | [] => .error .emptyDomain
  | s =>
    match toAscii? s with
    | some t => .ok (String.ofList t)
    | none => .error .invalidDomain

/-- Nothing is left of a text exactly if it is blanks, dots, and blanks. -/
theorem normalize_eq_emptyDomain_iff {domain : String} :
    normalize domain = .error .emptyDomain ↔ ∀ c ∈ trim domain.toList, c = '.' := by
  have hb : bare domain.toList = [] ↔ ∀ c ∈ trim domain.toList, c = '.' := by
    simp [bare, dropEndWhile_eq_nil_iff]
  rw [← hb, normalize]
  constructor
  · intro h
    split at h
    · assumption
    · split at h <;> cases h
  · intro h
    rw [h]

end SenderPolicy.Domain
