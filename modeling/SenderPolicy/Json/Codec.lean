import SenderPolicy.Json.Printer
import SenderPolicy.Json.Reader
import SenderPolicy.Resolver

/-!
# Policies in JSON

Qualifiers and mechanisms are their names; a directive and a mail exchange are objects, and a record is the array of
its directives. Reading also takes a name as the only member of an object, with the value null, and an object as the
array of its values in order; members of other names do not count, and none may be missing or come twice.

- `Record.ofJson?_toJson`, `Directive.ofJson?_toJson`, `MailExchange.ofJson?_toJson`: the value that is written is
  read back.
-/

namespace SenderPolicy

namespace Json

/-- The text of a string. -/
def text? : Json → Option String
  | string s => s
  | _ => none

/-- The items of an array. -/
def items? : Json → Option (List Json)
  | array vs => some vs
  | _ => none

/-- The name that stands for a choice. -/
def choice? : Json → Option String
  | string s => s
  | object [(k, null)] => k
  | _ => none

/-- The value of the only member of a name. -/
def field? (members : List (Option String × Json)) (name : String) : Option Json :=
  match members.filter (·.1 = some name) with
  | [(_, v)] => some v
  | _ => none

/-- The values of the fields of these names, in their order. -/
def fields? (names : List String) : Json → Option (List Json)
  | array vs => if vs.length = names.length then some vs else none
  | object members =>
    if members.all (·.1.isSome) then names.mapM (field? members) else none
  | _ => none

/-- The number below `bound` that a spelling without sign, point and exponent writes. -/
def natBelow? (bound : Nat) : Json → Option Nat
  | number s => (Text.readNat? 10 s).filter (· < bound)
  | _ => none

/-- An object of members with these names. -/
def ofMembers (members : List (String × Json)) : Json :=
  object (members.map fun (k, v) => (some k, v))

/-- A string of this text. -/
def ofText (s : String) : Json :=
  string (some s)

end Json

namespace Qualifier

/-- A qualifier in JSON. -/
def toJson (q : Qualifier) : Json :=
  .ofText q.name

/-- The qualifier that a value writes. -/
def ofJson? (v : Json) : Option Qualifier :=
  v.choice?.bind ofName?

/-- A qualifier is read back. -/
theorem ofJson?_toJson (q : Qualifier) : ofJson? q.toJson = some q :=
  ofName?_name q

end Qualifier

namespace Mechanism

/-- A mechanism in JSON. -/
def toJson (m : Mechanism) : Json :=
  .ofText m.name

/-- The mechanism that a value writes. -/
def ofJson? (v : Json) : Option Mechanism :=
  v.choice?.bind ofExactName?

/-- A mechanism is read back. -/
theorem ofJson?_toJson (m : Mechanism) : ofJson? m.toJson = some m :=
  ofExactName?_name m

end Mechanism

namespace Directive

/-- A directive in JSON. -/
def toJson (d : Directive) : Json :=
  .ofMembers [("qualifier", d.qualifier.toJson), ("mechanism", d.mechanism.toJson), ("value", .ofText d.value)]

/-- The directive that a value writes. -/
def ofJson? (v : Json) : Option Directive := do
  match ← v.fields? ["qualifier", "mechanism", "value"] with
  | [q, m, s] => return ⟨← Qualifier.ofJson? q, ← Mechanism.ofJson? m, ← s.text?⟩
  | _ => none

/-- A directive is read back. -/
theorem ofJson?_toJson (d : Directive) : ofJson? d.toJson = some d := by
  simp [ofJson?, toJson, Json.fields?, Json.ofMembers, Json.field?, Qualifier.ofJson?_toJson,
    Mechanism.ofJson?_toJson, Json.text?, Json.ofText]

end Directive

namespace Record

/-- A record in JSON. -/
def toJson (r : Record) : Json :=
  .array (r.directives.map Directive.toJson)

/-- The record that a value writes. -/
def ofJson? (v : Json) : Option Record := do
  return ⟨← (← v.items?).mapM Directive.ofJson?⟩

/-- A record is read back. -/
theorem ofJson?_toJson (r : Record) : ofJson? r.toJson = some r := by
  have h : (r.directives.map Directive.toJson).mapM Directive.ofJson? = some r.directives := by
    induction r.directives with
    | nil => rfl
    | cons d ds ih => simp [Directive.ofJson?_toJson, ih]
  simp [ofJson?, toJson, Json.items?, h]

end Record

namespace MailExchange

/-- A mail exchange in JSON. -/
def toJson (m : MailExchange) : Json :=
  .ofMembers [("preference", .number (Nat.toDigits 10 m.preference.toNat)), ("exchange", .ofText m.exchange)]

/-- The mail exchange that a value writes. -/
def ofJson? (v : Json) : Option MailExchange := do
  match ← v.fields? ["preference", "exchange"] with
  | [p, e] => return ⟨UInt16.ofNat (← p.natBelow? UInt16.size), ← e.text?⟩
  | _ => none

/-- A mail exchange is read back. -/
theorem ofJson?_toJson (m : MailExchange) : ofJson? m.toJson = some m := by
  have h : m.preference.toNat < UInt16.size := m.preference.toNat_lt
  simp [ofJson?, toJson, Json.fields?, Json.ofMembers, Json.field?, Json.natBelow?, Text.readNat?_toDigits,
    Json.text?, Json.ofText, Option.filter, h]

end MailExchange

end SenderPolicy
