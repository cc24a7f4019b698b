/-!
# Mechanisms

The kinds of directives, with their names. Names are read without regard to ASCII case.

- `ofExactName?_name`, `ofName?_name`, `modifier?_name`: a name is read back;
- `isModifier_of_modifier?`: only `redirect` is a modifier.
-/

namespace SenderPolicy

/-- How a directive matches senders. -/
inductive Mechanism where
  | all
  | ip4
  | ip6
  | a
  | mx
  | ptr
  | exists
  | include
  /-- The modifier that hands the verdict to another policy. -/
  | redirect
  deriving DecidableEq, Repr

namespace Mechanism

/-- The mechanisms that are no modifiers. -/
def ordinary : List Mechanism :=
  [.all, .ip4, .ip6, .a, .mx, .ptr, .exists, .include]

/-- The name of a mechanism. -/
def name : Mechanism → String
  | all => "all"
  | ip4 => "ip4"
  | ip6 => "ip6"
  | a => "a"
  | mx => "mx"
  | ptr => "ptr"
  | .exists => "exists"
  | .include => "include"
  | redirect => "redirect"

/-- Whether it is written with an equals sign, behind the other directives. -/
def isModifier (m : Mechanism) : Bool :=
  m = redirect

/-- Whether it asks the name service. -/
def requiresLookup : Mechanism → Bool
  | all | ip4 | ip6 => false
  | _ => true

/-- The text with its ASCII letters in lower case. -/
def fold (s : List Char) : List Char :=
  s.map Char.toLower

/-- The mechanism, no modifier, of a name. -/
def ofName? (s : List Char) : Option Mechanism :=
  ordinary.find? fun m => m.name.toList = fold s

/-- The modifier of a name. -/
def modifier? (s : List Char) : Option Mechanism :=
  if fold s = redirect.name.toList then some redirect else none

/-- The mechanism of a name written exactly so. -/
def ofExactName? (s : String) : Option Mechanism :=
  (ordinary ++ [redirect]).find? fun m => m.name = s

/-- A name is read back. -/
theorem ofExactName?_name (m : Mechanism) : ofExactName? m.name = some m := by
  cases m <;> decide

/-- A name that is no modifier's is read back, in any case. -/
theorem ofName?_name {m : Mechanism} (h : m.isModifier = false) : ofName? m.name.toList = some m := by
  revert h
  cases m <;> decide

/-- The name of the modifier is read back. -/
theorem modifier?_name : modifier? redirect.name.toList = some redirect := by
  decide

/-- What is read as a modifier is one. -/
theorem isModifier_of_modifier? {s : List Char} {m : Mechanism} (h : modifier? s = some m) : m.isModifier = true := by
  unfold modifier? at h
  split at h
  · cases h; rfl
  · cases h

end Mechanism

end SenderPolicy
