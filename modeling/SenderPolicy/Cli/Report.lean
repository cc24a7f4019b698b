import SenderPolicy.Error
import SenderPolicy.Json.Codec

/-!
# Reports

The answer to each check is a row with the address and the domain as they were given, and a verdict or an error. Rows
are written as lines or in JSON, and together they give the exit code.

- `exitCode_eq_one_iff`, `exitCode_eq_zero_iff`, `exitCode_eq_two_iff`: what the exit code says of the rows.
-/

namespace SenderPolicy.Cli

/-- The answer to one check. -/
structure Row where
  /-- The text of the sender's address, empty if there is none. -/
  ip : String
  domain : String
  /-- The verdict, if there is one. -/
  result : Option Qualifier
  /-- What went wrong, if something did. -/
  error : Option String
  deriving DecidableEq, Repr

namespace Row

/-- The row of the check of a sender and a domain. -/
def ofOutcome (sender : Address) (domain : String) : Except Error Qualifier → Row
  | .ok q => ⟨sender.text, domain, some q, none⟩
  | .error e => ⟨sender.text, domain, none, some e.message⟩

/-- The row of a line that does not name a sender and a domain. -/
def invalid (line reason : String) : Row :=
  ⟨"", line, none, some reason⟩

/-- Whether the check failed. -/
def isError (r : Row) : Bool :=
  r.error.isSome

/-- Whether the verdict is a pass. -/
def isPass (r : Row) : Bool :=
  r.result = some .pass

/-- The row as a line. -/
def line (r : Row) : String :=
  match r.result, r.error with
  | some q, _ => "[" ++ q.name ++ "] " ++ r.ip ++ " " ++ r.domain
  | none, some e => "[error] " ++ r.ip ++ " " ++ r.domain ++ " :: " ++ e
  | none, none => "[unknown] " ++ r.ip ++ " " ++ r.domain

/-- The row in JSON, without what there is not. -/
def toJson (r : Row) : Json :=
  let result := r.result.toList.map fun q => ("result", q.toJson)
  let error := r.error.toList.map fun e => ("error", Json.ofText e)
  .ofMembers ([("ip", .ofText r.ip), ("domain", .ofText r.domain)] ++ result ++ error)

end Row

/-- The exit code for rows: 1 if a check failed, else 2 if a verdict is no pass, else 0. -/
def exitCode (rows : List Row) : Nat :=
  if rows.any Row.isError then 1 else if rows.all Row.isPass then 0 else 2

/-- The exit code is 1 exactly if a check failed. -/
theorem exitCode_eq_one_iff {rows : List Row} : exitCode rows = 1 ↔ ∃ r ∈ rows, r.isError = true := by
  rw [← List.any_eq_true, exitCode]
  cases rows.any Row.isError
  · cases rows.all Row.isPass <;> decide
  · simp

/-- The exit code is 0 exactly if no check failed and every verdict is a pass. -/
theorem exitCode_eq_zero_iff {rows : List Row} :
    exitCode rows = 0 ↔ (∀ r ∈ rows, r.isError = false) ∧ ∀ r ∈ rows, r.isPass = true := by
  have he : (∀ r ∈ rows, r.isError = false) ↔ rows.any Row.isError = false := by simp
  rw [he, ← List.all_eq_true, exitCode]
  cases rows.any Row.isError <;> cases rows.all Row.isPass <;> decide

/-- The exit code is 2 exactly if no check failed and a verdict is no pass. -/
theorem exitCode_eq_two_iff {rows : List Row} :
    exitCode rows = 2 ↔ (∀ r ∈ rows, r.isError = false) ∧ ∃ r ∈ rows, r.isPass = false := by
  have he : (∀ r ∈ rows, r.isError = false) ↔ rows.any Row.isError = false := by simp
  have hp : (∃ r ∈ rows, r.isPass = false) ↔ rows.all Row.isPass = false := by simp
  rw [he, hp, exitCode]
  cases rows.any Row.isError <;> cases rows.all Row.isPass <;> decide

/-- The line of a directive; a hyphen stands for an empty value. -/
def directiveLine (d : Directive) : String :=
  d.qualifier.name ++ " " ++ d.mechanism.name ++ " " ++ if d.value = "" then "-" else d.value

/-- Lines, each with its end. -/
def unlines (ls : List String) : String :=
  String.join (ls.map (· ++ "\n"))

end SenderPolicy.Cli
