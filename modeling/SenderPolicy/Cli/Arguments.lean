import SenderPolicy.Options
import SenderPolicy.Text.Numeral

/-!
# Arguments

The command line is read from left to right, one level of commands after the other. An option takes the value behind
its equals sign, or else the next argument; a value may not look like an option, except that the depth may be negative.
An option may be given once at each level, but verbosity any number of times. A request for help or for the version is
answered as soon as it is reached. What the arguments ask for is settled at their end (`scan_nil`).
-/

namespace SenderPolicy.Cli

open Text

/-! ## Options -/

/-- An option of the command line. -/
inductive Opt where
  | format
  | verbose
  | help
  | version
  | ip
  | domain
  | record
  | stdin
  | nameserver
  | depth
  | timeout
  | attempts
  deriving DecidableEq, Repr

namespace Opt

/-- The name behind two hyphens. -/
def long : Opt → String
  | format => "format"
  | verbose => "verbose"
  | help => "help"
  | version => "version"
  | ip => "ip"
  | domain => "domain"
  | record => "record"
  | stdin => "stdin"
  | nameserver => "nameserver"
  | depth => "depth"
  | timeout => "timeout-ms"
  | attempts => "attempts"

/-- The letter behind one hyphen. -/
def short? : Opt → Option Char
  | verbose => some 'v'
  | help => some 'h'
  | version => some 'V'
  | _ => none

/-- Whether it takes a value. -/
def takesValue : Opt → Bool
  | verbose | help | version | stdin => false
  | _ => true

/-- The number of questions or milliseconds that a value writes. -/
def word? (s : String) : Option Nat :=
  (readUnsigned? s.toList).filter (· < UInt64.size)

/-- The depth that a value writes. -/
def depth? (s : String) : Option Int :=
  (readInt? s.toList).filter fun n => -0x80000000 ≤ n && n < 0x80000000

/-- Whether a value is one of those that the option takes. -/
def accepts (s : String) : Opt → Bool
  | ip => (Address.ofText? s).isSome
  | nameserver => (Endpoint.ofText? s).isSome
  | depth => (depth? s).isSome
  | timeout | attempts => (word? s).isSome
  | _ => true

/-- Whether the next argument can be the value: it does not start with a hyphen, or is a hyphen, or a negative number
where one makes sense. -/
def mayTake (s : String) (o : Opt) : Bool :=
  match s.toList with
  | '-' :: rest => rest = [] || (o = depth && rest.all Char.isDigit)
  | _ => true

end Opt

/-! ## Requests -/

/-- A command, or the program itself. -/
inductive Level where
  | program
  | check
  | parse
  | help
  deriving DecidableEq, Repr

/-- The options of a level, in the order in which help lists them. -/
def Level.options : Level → List Opt
  | .program => [.format, .verbose, .help, .version]
  | .check =>
    [.ip, .domain, .format, .record, .stdin, .verbose, .nameserver, .depth, .timeout, .attempts, .help]
  | .parse => [.format, .verbose, .help]
  | .help => []

/-- The commands and their names. -/
def Level.commands : List (String × Level) :=
  [("check", .check), ("parse", .parse), ("help", .help)]

/-- Who is to be checked. -/
inductive Subject where
  /-- One sender and one domain, and the policy text to take in place of that of the domain. -/
  | one (sender : Address) (domain : String) (policy : Option String)
  /-- The senders and domains on the lines of the input. -/
  | lines
  deriving DecidableEq, Repr

/-- What the program is to do. -/
inductive Command where
  | overview
  | check (subject : Subject) (options : Options)
  | parse (text : String)
  deriving DecidableEq, Repr

/-- What the arguments ask for. -/
inductive Request where
  | run (command : Command) (format : String) (verbose : Bool)
  | help (level : Level)
  | version
  deriving DecidableEq, Repr

/-! ## Reading -/

/-- What has been read. -/
structure Scan where
  level : Level := .program
  /-- The options given, with their levels and values. -/
  given : List (Level × Opt × String) := []
  operands : List String := []
  /-- Whether what follows are operands, whatever they look like. -/
  onlyOperands : Bool := false

namespace Scan

variable (s : Scan)

/-- Whether an option is given at a level. -/
def has (l : Level) (o : Opt) : Bool :=
  s.given.any fun g => g.1 = l && g.2.1 = o

/-- The value of an option at the innermost level where it is given. -/
def value? (o : Opt) : Option String :=
  let atLevel (l : Level) := (s.given.find? fun g => g.1 = l && g.2.1 = o).map (·.2.2)
  (atLevel s.level).or (atLevel .program)

/-- One more option; at most once at each level, and with a value that it takes. -/
def give (o : Opt) (value : String) : Option Scan :=
  if (o ≠ .verbose && s.has s.level o) || !o.accepts value then none
  else some { s with given := s.given ++ [(s.level, o, value)] }

/-- The settings of a check. -/
def settings? : Option Options := do
  let given {α : Type} (o : Opt) (read : String → Option α) (default : α) : Option α :=
    (s.value? o).elim (some default) read
  let base : Options := default
  let nameserver ← given .nameserver Endpoint.ofText? base.nameserver
  let maxDepth ← given .depth Opt.depth? base.maxDepth
  let timeout ← given .timeout Opt.word? base.timeout
  let attempts ← given .attempts Opt.word? base.attempts
  return { base with nameserver := nameserver, maxDepth := maxDepth, timeout := timeout }.withAttempts attempts

/-- Who is to be checked. -/
def subject? : Option Subject :=
  if s.has .check .stdin then if s.has .check .record then none else some .lines
  else do
    let sender ← Address.ofText? (← s.value? .ip)
    return .one sender (← s.value? .domain) (s.value? .record)

/-- The command that the arguments name. -/
def command? : Option Command :=
  match s.level with
  | .program => some .overview
  | .check => do return .check (← s.subject?) (← s.settings?)
  | .parse => s.operands.head?.map .parse
  | .help => none

/-- What the arguments ask for when all of them are read. -/
def finish? : Option Request := do
  let verbose := s.given.any fun g => g.2.1 = .verbose
  return .run (← s.command?) ((s.value? .format).getD "human") verbose

/-- What an argument is at a level. -/
inductive Role where
  /-- Everything behind it is an operand. -/
  | endOfOptions
  | operand
  /-- Options without values; `none` for a letter that is no option. -/
  | flags (os : List (Option Opt))
  /-- An option with the value behind the equals sign. -/
  | valued (o : Opt) (value : Option String)
  | unknown

/-- What an argument is at the level that has been reached. -/
def role (arg : String) : Role :=
  let options := s.level.options
  if s.onlyOperands then .operand
  else match arg.toList with
    | '-' :: '-' :: [] => .endOfOptions
    | '-' :: '-' :: rest =>
      let name := String.ofList (rest.takeWhile (· ≠ '='))
      let value := (rest.dropWhile (· ≠ '=')).tail?.map String.ofList
      match options.find? (·.long = name), value with
      | none, _ => .unknown
      | some o, value => if o.takesValue then .valued o value else if value.isSome then .unknown else .flags [some o]
    | '-' :: c :: rest => .flags ((c :: rest).map fun c => options.find? (·.short? = some c))
    | _ => .operand

/-- Options without values, one after the other, up to a request that is answered at once. -/
def flags : List (Option Opt) → Scan → Option (Scan ⊕ Request)
  | [], s => some (.inl s)
  | none :: _, _ => none
  | some .help :: _, s => some (.inr (.help s.level))
  | some .version :: _, _ => some (.inr .version)
  | some o :: os, s => (s.give o "").bind (flags os)

/-- The help that a row of command names asks for. -/
def helpFor : List String → Option Request
  | [] => some (.help .program)
  | [name] => (Level.commands.lookup name).map .help
  | _ => none

/-- An operand of the level: the name of a command, or the text to parse. -/
def operand (arg : String) : Option Scan :=
  match s.level, s.operands with
  | .program, _ =>
    if s.onlyOperands then none else (Level.commands.lookup arg).map fun l => { s with level := l }
  | .parse, [] => some { s with operands := [arg] }
  | _, _ => none

end Scan

/-- What the arguments that follow ask for; none if they are not understood. -/
def scan (s : Scan) : List String → Option Request
  | [] => s.finish?
  | arg :: args =>
    match s.role arg with
    | .unknown => none
    | .endOfOptions => scan { s with onlyOperands := true } args
    | .operand => do
      let t ← s.operand arg
      if t.level = .help then Scan.helpFor args else scan t args
    | .flags os => do
      match ← Scan.flags os s with
      | .inl t => scan t args
      | .inr r => return r
    | .valued o (some value) => do scan (← s.give o value) args
    | .valued o none =>
      match args with
      | [] => none
      | value :: args => if o.mayTake value then do scan (← s.give o value) args else none

/-- What a command line asks for; none if it is not understood. -/
def Request.ofArguments? (args : List String) : Option Request :=
  scan {} args

/-- What the arguments ask for is settled at their end. -/
theorem scan_nil (s : Scan) : scan s [] = s.finish? := rfl

end SenderPolicy.Cli
