import SenderPolicy.Cli.Help
import SenderPolicy.Cli.Report
import SenderPolicy.Validation

/-!
# The program

What the program does for its arguments and its input: the output, the exit code, and the questions that it asked. A
check asks a name server over a link; where its depth has no limit it may not come to an end, and then neither does the
program. JSON can be left out of the program.
-/

namespace SenderPolicy.Cli

open Text

/-- What the program runs in. -/
structure Environment where
  link : Dns.Link
  /-- Whether the program writes JSON. -/
  hasJson : Bool
  /-- How deep policies are followed where the depth has no limit. -/
  fuel : Nat := 1

/-- What came of a run of the program. -/
structure Outcome where
  exit : Nat
  stdout : String := ""
  stderr : String := ""
  /-- The questions to the name service. -/
  queries : List Query := []
  deriving DecidableEq, Repr

/-- The program ends with an error, and perhaps the reason for it. -/
def Outcome.failed (message : String) (cause : Option String) : Outcome :=
  { exit := 1
    stderr := "Error: " ++ message ++ "\n" ++ cause.elim "" fun c => "\nCaused by:\n    " ++ c ++ "\n" }

/-! ## Formats -/

/-- The output in the format of a name, or the reason why there is none. -/
def formatted (hasJson : Bool) (format : String) (lines : List String) (json : Json) : Except String String :=
  if format = "human" then .ok (unlines lines)
  else if format = "json" then
    if hasJson then .ok (json.pretty ++ "\n") else .error "format=json requires the 'with-serde' feature"
  else .error ("unknown --format '" ++ format ++ "', use: human|json")

/-! ## Parsing -/

/-- Parses a policy text and writes its directives. -/
def runParse (hasJson : Bool) (format text : String) : Outcome :=
  match Record.parse text with
  | .error e => .failed ("parse '" ++ text ++ "'") (some e.message)
  | .ok record =>
    match formatted hasJson format (record.directives.map directiveLine) record.toJson with
    | .ok out => { exit := 0, stdout := out }
    | .error message => .failed message none

/-! ## Checking -/

/-- The row of a check and the questions it asked. -/
abbrev Check := Row × List Query

/-- The check of a sender whose verdict comes from a run; none if the run does not come to an end. -/
def Check.ofRun? (sender : Address) (domain : String) (x : Run Halt Qualifier) : Option Check :=
  x.outcome?.map fun outcome => (.ofOutcome sender domain outcome, x.queries)

/-- The check of a line that does not name a sender and a domain. -/
def Check.invalid (line reason : String) : Check :=
  (.invalid line reason, [])

section

variable (env : Environment) (depth : Int)

/-- The check of a sender and a domain. -/
def checkDomain (sender : Address) (domain : String) : Option Check :=
  Check.ofRun? sender domain ((env.link.inquiry sender depth env.fuel).check domain)

/-- The check of a sender and a policy text in place of that of the domain. -/
def checkPolicy (sender : Address) (domain policy : String) : Option Check :=
  Check.ofRun? sender domain ((env.link.inquiry sender depth env.fuel).checkText domain policy)

/-- The check of a line without blanks around it. -/
def checkLine (line : List Char) : Option Check :=
  match words line with
  | [ip, domain] =>
    match Address.ofChars? ip with
    | some sender => checkDomain env depth sender (String.ofList domain)
    | none =>
      some (.invalid (String.ofList line) ("invalid ip '" ++ String.ofList ip ++ "': invalid IP address syntax"))
  | _ => some (.invalid (String.ofList line) "expected '<ip> <domain>'")

/-- Whether a line without blanks around it asks for a check: it is not empty and no comment. -/
def isRequest (line : List Char) : Bool :=
  line ≠ [] && line.head? ≠ some '#'

/-- The checks that the lines of an input ask for. -/
def checkLines (input : String) : Option (List Check) :=
  (((lines input.toList).map trim).filter isRequest).mapM (checkLine env depth)

/-- The checks of a subject. -/
def Subject.checks (input : String) : Subject → Option (List Check)
  | one sender domain none => (checkDomain env depth sender domain).map fun c => [c]
  | one sender domain (some policy) => (checkPolicy env depth sender domain policy).map fun c => [c]
  | lines => checkLines env depth input

end

/-- Reports checks: writes a row for each. -/
def report (hasJson : Bool) (format : String) (checks : List Check) : Outcome :=
  let rows := checks.map Prod.fst
  let queries := checks.flatMap Prod.snd
  match formatted hasJson format (rows.map Row.line) (.array (rows.map Row.toJson)) with
  | .ok out => { exit := exitCode rows, stdout := out, queries := queries }
  | .error message => { Outcome.failed message none with queries := queries }

/-- Checks senders, and reports the checks when all of them have come to an end. -/
def runCheck? (env : Environment) (format input : String) (subject : Subject) (options : Options) : Option Outcome :=
  (subject.checks env options.maxDepth input).map (report env.hasJson format)

/-! ## The whole program -/

/-- What a command does; none if it does not come to an end. -/
def Command.outcome? (env : Environment) (format input : String) : Command → Option Outcome
  | overview => some { exit := 0, stdout := Level.program.page ++ "\n" }
  | parse text => some (runParse env.hasJson format text)
  | check subject options => runCheck? env format input subject options

/-- The outcome of a program that is to be verbose. -/
def Outcome.verbose (out : Outcome) : Outcome :=
  { out with stderr := "--verbose requires the 'with-tracing' feature\n" ++ out.stderr }

/-- What the program does for a request; none if it does not come to an end. -/
def Request.outcome? (env : Environment) (input : String) : Request → Option Outcome
  | help level => some { exit := 0, stdout := level.page }
  | version => some { exit := 0, stdout := programName ++ " " ++ programVersion ++ "\n" }
  | run command format verbose =>
    (command.outcome? env format input).map fun out => if verbose then out.verbose else out

/-- What the program does for its arguments; none if they are not understood, or if it does not come to an end. -/
def run? (env : Environment) (args : List String) (input : String) : Option Outcome :=
  (Request.ofArguments? args).bind fun r => r.outcome? env input

end SenderPolicy.Cli
