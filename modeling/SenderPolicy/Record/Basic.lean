import SenderPolicy.Directive

/-!
# Policy records

A policy as it is published: the mark `v=spf1` and directives with a space in front of each.

- `isMarked_text`: the text of a record carries the mark.
-/

namespace SenderPolicy

/-- A published policy. -/
structure Record where
  directives : List Directive
  deriving DecidableEq, Repr

namespace Record

/-- The mark at the start of every policy. -/
def mark : String :=
  "v=spf1"

/-- Whether a text claims to be a policy. -/
def isMarked (text : String) : Bool :=
  mark.toList.isPrefixOf text.toList

/-- The first redirection of a policy. -/
def redirect? (r : Record) : Option Directive :=
  r.directives.find? (·.mechanism = .redirect)

/-- The characters of directives, a space in front of each. -/
def tailChars (ds : List Directive) : List Char :=
  ds.flatMap fun d => ' ' :: d.toChars

/-- The characters of a record. -/
def toChars (r : Record) : List Char :=
  mark.toList ++ tailChars r.directives

/-- The text of a record. -/
def text (r : Record) : String :=
  String.ofList r.toChars

/-- The text of a record carries the mark. -/
theorem isMarked_text (r : Record) : isMarked r.text = true := by
  simp [isMarked, text, toChars]

end Record

end SenderPolicy
