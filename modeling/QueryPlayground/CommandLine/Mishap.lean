/-!
What goes wrong in a command, and how it is told to the user. Faults of the program's own kinds are told
as they are, and all others as unexpected.
-/
namespace QueryPlayground.CommandLine

/-- A fault of a command. -/
inductive Mishap where
  | configuration (message : String)
  | domain (message : String)
  | complaint (message : String)
  | usage (message : String)
  | other (message : String)
  deriving DecidableEq, Repr

/-- What the user is told: a complaint, or that the command was misused. -/
inductive Notice where
  | complaint (message : String)
  | misuse (message : String)
  deriving DecidableEq, Repr

def Mishap.notice : Mishap → Notice
  | .configuration message => .complaint s!"Configuration error: {message}"
  | .domain message => .complaint message
  | .complaint message => .complaint message
  | .usage message => .misuse message
  | .other message => .complaint s!"Unexpected error: {message}"

def Notice.message : Notice → String
  | .complaint message => message
  | .misuse message => message

/-- The exit code after a notice. -/
def Notice.exitCode : Notice → Nat
  | .complaint _ => 1
  | .misuse _ => 2

end QueryPlayground.CommandLine
