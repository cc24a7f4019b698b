import SenderPolicy.Cli.Arguments

/-!
# Help

The help of the program and of its commands: what it does, how it is called, and its commands, arguments and options
with a word on each, in two columns.
-/

namespace SenderPolicy.Cli

/-- The name of the program. -/
def programName : String :=
  "spfcheck-cli"

/-- The version of the program. -/
def programVersion : String :=
  "0.1.0"

namespace Opt

/-- What an option does. -/
def about : Opt → String
  | format => "format: human|json"
  | verbose => "plus de logs sur stderr (-v debug, -vv trace; feature `with-tracing`)"
  | help => "Print help"
  | version => "Print version"
  | ip => "adresse IP de l'expéditeur"
  | domain => "domaine dont la politique SPF est évaluée"
  | record => "évalue ce texte au lieu de lire l'enregistrement TXT du domaine"
  | stdin => "lit des paires \"<ip> <domaine>\" depuis stdin (une par ligne)"
  | nameserver => "serveur DNS interrogé pour chaque requête"
  | depth => "budget de profondeur include/redirect (négatif = illimité)"
  | timeout => "délai par requête, en millisecondes"
  | attempts => "nombre de tentatives par requête"

/-- The value that an option has if it is not given. -/
def default? (o : Opt) : Option String :=
  let base : Options := default
  match o with
  | format => some "human"
  | nameserver => some base.nameserver.text
  | depth => some base.maxDepth.repr
  | timeout => some base.timeout.repr
  | attempts => some base.attempts.repr
  | _ => none

/-- How an option is written. -/
def spelling (o : Opt) : String :=
  let short := o.short?.elim "    " fun c => "-" ++ c.toString ++ ", "
  let upper (c : Char) : Char := if c = '-' then '_' else c.toUpper
  let value :=
    if o.takesValue then " <" ++ String.ofList (o.long.toList.map upper) ++ ">"
    else if o = verbose then "..." else ""
  short ++ "--" ++ o.long ++ value

/-- What an option does, and the value that it has if it is not given. -/
def note (o : Opt) : String :=
  o.about ++ o.default?.elim "" fun v => " [default: " ++ v ++ "]"

end Opt

namespace Level

/-- What a command does. -/
def about : Level → String
  | program => "Analyse SPF et autorisation d'expéditeur"
  | check => "évalue la politique SPF d'un domaine pour une adresse"
  | parse => "analyse un enregistrement et affiche ses directives"
  | help => "Print this message or the help of the given subcommand(s)"

/-- How a command is called, behind the name of the program. -/
def usage : Level → String
  | program => "[OPTIONS] [COMMAND]"
  | check => "check [OPTIONS]"
  | parse => "parse [OPTIONS] <RECORD>"
  | help => "help [COMMAND]..."

/-- The operands of a command. -/
def arguments : Level → List (String × String)
  | parse => [("<RECORD>", "texte de l'enregistrement, ex. \"v=spf1 mx -all\"")]
  | help => [("[COMMAND]...", "Print help for the subcommand(s)")]
  | _ => []

/-- The commands, for the program itself. -/
def subcommands : Level → List (String × String)
  | program => commands.map fun (name, l) => (name, l.about)
  | _ => []

end Level

/-- Rows in two columns under a title, with an empty line in front; nothing if there are no rows. -/
def columns (title : String) (rows : List (String × String)) : String :=
  let width := (rows.map (·.1.length)).foldl max 0
  let line (r : String × String) : String :=
    "  " ++ r.1 ++ String.ofList (List.replicate (width - r.1.length + 2) ' ') ++ r.2 ++ "\n"
  if rows = [] then "" else "\n" ++ title ++ ":\n" ++ String.join (rows.map line)

/-- The help of a level. -/
def Level.page (l : Level) : String :=
  l.about ++ "\n\nUsage: " ++ programName ++ " " ++ l.usage ++ "\n" ++ columns "Commands" l.subcommands ++
    columns "Arguments" l.arguments ++ columns "Options" (l.options.map fun o => (o.spelling, o.note))

end SenderPolicy.Cli
