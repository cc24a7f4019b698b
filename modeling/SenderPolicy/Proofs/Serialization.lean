import SenderPolicy.Cli.Program
import SenderPolicy.Proofs.Canonical
import SenderPolicy.Proofs.JsonText

/-!
# Policies are read back from JSON

Records, directives and mail exchanges are written as JSON that can be read back from both layouts, whatever their texts
hold. So a program that writes JSON gives for every policy text that it accepts a JSON text of exactly that policy.

- `Json.isReadBack_of_isLegible`: what is written legibly is read back;
- `Record.isLegible_toJson`, `Directive.isLegible_toJson`, `MailExchange.isLegible_toJson`: what is written;
- `Cli.ofArguments?_parseArgs`: a command line for a policy text;
- `Cli.run?_isReadBack`: all of it, and the output of the program.
-/

namespace SenderPolicy

/-! ## Values -/

namespace Json

/-- A value is read as `x` from each of its two layouts. -/
def IsReadBack {α : Type} (ofJson? : Json → Option α) (v : Json) (x : α) : Prop :=
  (ofText? v.compact).bind ofJson? = some x ∧ (ofText? v.pretty).bind ofJson? = some x

/-- What is written legibly is read back. -/
theorem isReadBack_of_isLegible {α : Type} {ofJson? : Json → Option α} {v : Json} {x : α} (legible : v.IsLegible)
    (h : ofJson? v = some x) : v.IsReadBack ofJson? x := by
  constructor
  · rw [ofText?_compact legible, Option.bind_some, h]
  · rw [ofText?_pretty legible, Option.bind_some, h]

/-- A string with a text is legible. -/
theorem isLegible_ofText (s : String) : (ofText s).IsLegible := by
  intro t ht
  rw [List.mem_singleton.1 ht]
  rfl

/-- A number is legible in decimal. -/
theorem isLegible_number (n : Nat) : (number (Nat.toDigits 10 n)).IsLegible := by
  intro t ht
  rw [List.mem_singleton.1 ht]
  exact isNumber_toDigits n

/-- An object is legible if the values of its members are. -/
theorem isLegible_ofMembers {members : List (String × Json)} (h : ∀ m ∈ members, m.2.IsLegible) :
    (ofMembers members).IsLegible := by
  apply isLegible_object
  intro m hm
  obtain ⟨n, hn, rfl⟩ := List.mem_map.1 hm
  exact ⟨rfl, h n hn⟩

end Json

open Json

theorem Directive.isLegible_toJson (d : Directive) : d.toJson.IsLegible := by
  apply isLegible_ofMembers
  intro m hm
  simp only [List.mem_cons, List.not_mem_nil, or_false] at hm
  rcases hm with rfl | rfl | rfl <;> exact isLegible_ofText _

theorem Record.isLegible_toJson (r : Record) : r.toJson.IsLegible := by
  apply isLegible_array
  intro v hv
  obtain ⟨d, _, rfl⟩ := List.mem_map.1 hv
  exact d.isLegible_toJson

theorem MailExchange.isLegible_toJson (m : MailExchange) : m.toJson.IsLegible := by
  apply isLegible_ofMembers
  intro n hn
  simp only [List.mem_cons, List.not_mem_nil, or_false] at hn
  rcases hn with rfl | rfl
  · exact isLegible_number _
  · exact isLegible_ofText _

/-! ## The program -/

namespace Cli

/-- A command line that asks for a policy text in JSON. -/
def parseArgs (text : String) : List String :=
  ["parse", "--format", "json", text]

/-- The command line is understood if the text is a policy. -/
theorem ofArguments?_parseArgs {text : String} {r : Record} (h : Record.parse text = .ok r) :
    Request.ofArguments? (parseArgs text) = some (.run (.parse text) "json" false) := by
  obtain ⟨s, ds, ht, -, -⟩ := Record.parse_eq_ok_iff.1 h
  -- the mark does not look like an option
  have role (t : Scan) (only : t.onlyOperands = false) : t.role text = .operand := by
    have first : text.toList = 'v' :: ("=spf1".toList ++ s) := ht
    simp only [Scan.role, only, first]
    rfl
  show scan { level := .parse, given := [(.parse, .format, "json")] } [text] = _
  rw [scan, role _ rfl]
  rfl

/-- The output for a policy text is the record in the indented layout, on lines of their own. -/
theorem runParse_eq {env : Environment} (hasJson : env.hasJson = true) {text : String} {r : Record}
    (h : Record.parse text = .ok r) :
    runParse env.hasJson "json" text = { exit := 0, stdout := r.toJson.pretty ++ "\n" } := by
  have format : formatted true "json" (r.directives.map directiveLine) r.toJson = .ok (r.toJson.pretty ++ "\n") := by
    rw [formatted, if_neg (by decide), if_pos rfl, if_pos rfl]
  simp only [runParse, h, hasJson, format]

/-- **Records, directives and mail exchanges are read back from JSON**, from both layouts and whatever their texts hold.
So a program that writes JSON gives for every policy text that it accepts, whatever command line asks for it in JSON, a
text that is read as exactly that policy. -/
theorem run?_isReadBack :
    (∀ r : Record, r.toJson.IsReadBack Record.ofJson? r) ∧
    (∀ d : Directive, d.toJson.IsReadBack Directive.ofJson? d) ∧
    (∀ m : MailExchange, m.toJson.IsReadBack MailExchange.ofJson? m) ∧
    ∀ (env : Environment) (text : String) (r : Record), env.hasJson = true → Record.parse text = .ok r →
      Request.ofArguments? (parseArgs text) = some (.run (.parse text) "json" false) ∧
      ∀ args verbose input, Request.ofArguments? args = some (.run (.parse text) "json" verbose) →
        ∃ out, run? env args input = some out ∧ out.exit = 0 ∧
          (Json.ofText? out.stdout).bind Record.ofJson? = some r := by
  refine ⟨fun r => ?_, fun d => ?_, fun m => ?_, fun env text r hasJson parsed => ⟨?_, ?_⟩⟩
  · exact isReadBack_of_isLegible r.isLegible_toJson r.ofJson?_toJson
  · exact isReadBack_of_isLegible d.isLegible_toJson d.ofJson?_toJson
  · exact isReadBack_of_isLegible m.isLegible_toJson m.ofJson?_toJson
  · exact ofArguments?_parseArgs parsed
  · intro args verbose input asked
    have read : Json.ofText? (r.toJson.pretty ++ "\n") = some r.toJson :=
      ofText?_pretty_append r.isLegible_toJson (List.all_eq_true.1 rfl)
    -- a request to be verbose changes neither the exit code nor the output
    have same : ∃ out, run? env args input = some out ∧ out.exit = (runParse env.hasJson "json" text).exit ∧
        out.stdout = (runParse env.hasJson "json" text).stdout := by
      rw [run?, asked]
      cases verbose <;> exact ⟨_, rfl, rfl, rfl⟩
    rw [runParse_eq hasJson parsed] at same
    obtain ⟨out, ran, exit, stdout⟩ := same
    refine ⟨out, ran, exit, ?_⟩
    rw [stdout, read, Option.bind_some, r.ofJson?_toJson]

/-- A policy with a quote, a letter that is not ASCII, a control character and a backslash in a value. -/
theorem run?_isReadBack_escapes :
    Record.parse "v=spf1 a:\"ü\x01\\ -all" = .ok ⟨[⟨.pass, .a, "\"ü\x01\\"⟩, ⟨.fail, .all, ""⟩]⟩ ∧
    ∃ out, run? { link := .down "timeout", hasJson := true }
        ["parse", "--format", "json", "v=spf1 a:\"ü\x01\\ -all"] "" = some out ∧
      out.exit = 0 ∧
      (Json.ofText? out.stdout).bind Record.ofJson? = some ⟨[⟨.pass, .a, "\"ü\x01\\"⟩, ⟨.fail, .all, ""⟩]⟩ := by
  have parsed : Record.parse "v=spf1 a:\"ü\x01\\ -all" = .ok ⟨[⟨.pass, .a, "\"ü\x01\\"⟩, ⟨.fail, .all, ""⟩]⟩ := rfl
  obtain ⟨asked, run⟩ := run?_isReadBack.2.2.2 { link := .down "timeout", hasJson := true } _ _ rfl parsed
  exact ⟨parsed, run _ false "" asked⟩

end Cli

end SenderPolicy
