/-!
# Qualifiers

What a directive says of the senders that it matches, and the verdict of a whole policy.

- `ofSymbol?_eq_some_iff`: a symbol is read as the qualifier that is written so;
- `ofName?_name`: a name is read back.
-/

namespace SenderPolicy

/-- What a policy says of a sender. -/
inductive Qualifier where
  | pass
  | fail
  | softfail
  | neutral
  /-- No directive matches. -/
  | none
  deriving DecidableEq, Repr, Inhabited

namespace Qualifier

/-- The qualifiers, in the order of their definition. -/
def all : List Qualifier :=
  [pass, fail, softfail, neutral, none]

/-- The qualifier of a directive that is written without one. -/
def default : Qualifier :=
  pass

/-- The symbol in front of a directive. -/
def symbol? : Qualifier → Option Char
  | pass => '+'
  | fail => '-'
  | softfail => '~'
  | neutral => '?'
  | none => Option.none

/-- The qualifier that a symbol in front of a directive stands for. -/
def ofSymbol? (c : Char) : Option Qualifier :=
  all.find? fun q => q.symbol? = some c

/-- The name of a qualifier. -/
def name : Qualifier → String
  | pass => "pass"
  | fail => "fail"
  | softfail => "softfail"
  | neutral => "neutral"
  | none => "none"

/-- The qualifier of a name. -/
def ofName? (s : String) : Option Qualifier :=
  all.find? fun q => q.name = s

/-- A symbol is read as the qualifier that is written so. -/
theorem ofSymbol?_eq_some_iff {c : Char} {q : Qualifier} : ofSymbol? c = some q ↔ q.symbol? = some c := by
  constructor
  · intro h
    simpa using List.find?_some h
  · intro h
    cases q <;> cases h <;> rfl

/-- A name is read back. -/
theorem ofName?_name (q : Qualifier) : ofName? q.name = some q := by
  cases q <;> decide

end Qualifier

end SenderPolicy
