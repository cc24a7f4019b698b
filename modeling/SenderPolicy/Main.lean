import SenderPolicy.Cli.Program

/-!
# The command line

Runs the program on its arguments and its input. It opens no connection: a question to a name server does not get
through.
-/

open SenderPolicy Cli

/-- The surroundings of the program: no link to any name server. -/
def environment : Environment :=
  { link := .down "io error: Network is unreachable (os error 101)", hasJson := true }

/-- Reads the input only where a check of its lines is asked for. -/
def readInput : Request → IO String
  | .run (.check .lines _) _ _ => do (← IO.getStdin).readToEnd
  | _ => return ""

def main (args : List String) : IO UInt32 := do
  match Request.ofArguments? args with
  | none =>
    IO.eprintln ("error: invalid arguments\n\nUsage: " ++ programName ++ " " ++ Level.program.usage)
    return 2
  | some request =>
    match request.outcome? environment (← readInput request) with
    | none =>
      IO.eprintln "policies are nested deeper than they are followed"
      return 1
    | some out =>
      IO.print out.stdout
      IO.eprint out.stderr
      return UInt32.ofNat out.exit
