import SenderPolicy.Endpoint

/-!
# Options

Which name server is asked, how deep policies may be nested, and how patient the questions are. A question
is tried at least once, which the type of the settings says.
-/

namespace SenderPolicy

/-- The settings of a validation. -/
structure Options where
  nameserver : Endpoint := .v4 0x08080808#32 53
  /-- How deep policies may be nested; a negative number means no limit. -/
  maxDepth : Int := 10
  /-- The time given to a question, in milliseconds. -/
  timeout : Nat := 5000
  /-- How often a question is tried. -/
  attempts : Nat := 2
  attempts_pos : 0 < attempts := by decide
  deriving DecidableEq, Repr

namespace Options

instance : Inhabited Options :=
  ⟨{}⟩

/-- The options without a limit on the nesting of policies. -/
def unbounded (o : Options) : Options :=
  { o with maxDepth := -1 }

/-- The options with a number of attempts; zero counts as one. -/
def withAttempts (o : Options) (n : Nat) : Options :=
  { o with attempts := max n 1, attempts_pos := by omega }

end Options

end SenderPolicy
