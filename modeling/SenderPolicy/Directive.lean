import SenderPolicy.Mechanism
import SenderPolicy.Qualifier

/-!
# Directives

One directive of a policy: a qualifier, a mechanism and a value. A modifier is written `name=value`. Another directive
is written with the symbol of its qualifier in front, unless that is a plus, and `:value` behind, unless the value is
empty.

- `toChars_modifier`, `toChars_ordinary`: the two ways of writing a directive.
-/

namespace SenderPolicy

/-- One directive of a policy. -/
structure Directive where
  qualifier : Qualifier
  mechanism : Mechanism
  value : String
  deriving DecidableEq, Repr

namespace Directive

/-- Whether it takes the verdict of the policy at another domain. -/
def nests (d : Directive) : Bool :=
  d.mechanism = .include || d.mechanism = .redirect

/-- The symbol of a qualifier where it is written. -/
def sign (q : Qualifier) : List Char :=
  if q = .default then [] else q.symbol?.toList

/-- The characters of a directive. -/
def toChars (d : Directive) : List Char :=
  let name := d.mechanism.name.toList
  let value := d.value.toList
  if d.mechanism.isModifier then name ++ '=' :: value
  else sign d.qualifier ++ name ++ if value = [] then [] else ':' :: value

/-- The text of a directive. -/
def text (d : Directive) : String :=
  String.ofList d.toChars

/-- A modifier is written with an equals sign, and without its qualifier. -/
theorem toChars_modifier {d : Directive} (h : d.mechanism.isModifier = true) :
    d.toChars = d.mechanism.name.toList ++ '=' :: d.value.toList := by
  simp [toChars, h]

/-- Another directive is written with its qualifier in front, and with a colon where it has a value. -/
theorem toChars_ordinary {d : Directive} (h : d.mechanism.isModifier = false) :
    d.toChars = sign d.qualifier ++ d.mechanism.name.toList ++
      if d.value.toList = [] then [] else ':' :: d.value.toList := by
  simp [toChars, h]

end Directive

end SenderPolicy
