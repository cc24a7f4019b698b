import SenderPolicy.Text.CombiningClass
import SenderPolicy.Text.Composite
import SenderPolicy.Text.Replacement

/-!
# Composed normal form

Canonically equivalent texts have one composed form: characters that are replaced give way to others, composites are
taken apart, the marks behind each letter are sorted by their class, and what makes a composite is put together again,
from left to right.
-/

namespace SenderPolicy.Text

/-- The parts of a composite, taken apart at most `depth` times. -/
def parts : (depth : Nat) → Char → List Char
  | 0, c => [c]
  | depth + 1, c =>
    match parts? c with
    | some (a, b) => parts depth a ++ [b]
    | none => [c]

/-- How often a character can be taken apart. -/
def maxDepth : Nat :=
  8

/-- The characters that are canonically equivalent to a character and cannot be taken apart. -/
def decompose (c : Char) : List Char :=
  (replacement? c).getD (parts maxDepth c)

/-- A character put in front of a text with sorted marks; a mark goes behind the marks of lower classes. -/
def insertMark (c : Char) (s : List Char) : List Char :=
  let k := combiningClass c
  if k = 0 then c :: s
  else
    let before := s.takeWhile fun d => 0 < combiningClass d && combiningClass d < k
    before ++ c :: s.drop before.length

/-- The text with the marks behind each letter sorted by their class; marks of one class keep their order. -/
def sortMarks (s : List Char) : List Char :=
  s.foldr insertMark []

/-- The text behind a letter put together with it, where `skipped` holds the marks that did not combine, the last one
first. -/
def composeFrom (letter : Char) (skipped : List Char) : List Char → List Char
  | [] => letter :: skipped.reverse
  | c :: s =>
    let k := combiningClass c
    let blocked := skipped.head?.any fun d => k ≤ combiningClass d
    match if blocked then none else compose? letter c with
    | some d => composeFrom d skipped s
    | none =>
      if k = 0 then letter :: (skipped.reverse ++ composeFrom c [] s) else composeFrom letter (c :: skipped) s

/-- The text with what makes a composite put together, from left to right. -/
def compose : List Char → List Char
  | [] => []
  | c :: s => if combiningClass c = 0 then composeFrom c [] s else c :: compose s

/-- The composed form of a text. -/
def normalize (s : List Char) : List Char :=
  compose (sortMarks (s.flatMap decompose))

end SenderPolicy.Text
