import QueryPlayground.Files.Path
import QueryPlayground.Text.Blank

/-!
The machine that a program runs on: its environment variables, its accounts and its files. Texts may refer
to variables, and paths to home directories.
-/
namespace QueryPlayground

/-- Environment variables and their values. -/
abbrev Environment := List (String × String)

/-- What is found at a path. What may not be read is unreadable. -/
inductive Found where
  | nothing
  | nameTooLong
  | unreadable
  | directory
  | file (bytes : List UInt8)
  deriving DecidableEq, Repr

/-- The homes that the accounts of a machine give: that of the account that runs the program, and those of
all accounts by their names. -/
structure Accounts where
  own : Option String
  named : List (String × String)

/-- A machine: its variables, its accounts, its files, and the paths of its programs. `refusal` is what its
reader of settings files says about bytes that break the rules of the format. -/
structure Host where
  environment : Environment
  accounts : Accounts
  look : Path → Found
  programs : List Path
  refusal : Path → List UInt8 → String

/-- Why the home directory that a path starts with is not found. -/
inductive HomeFault where
  | unknown
  | zeroInName
  deriving DecidableEq, Repr

def HomeFault.message : HomeFault → String
  | .unknown => "Could not determine home directory."
  | .zeroInName => "embedded null byte"

namespace Environment

/-- Characters of the names that need no braces. -/
def isNameChar (c : Char) : Bool := c.isAlphanum || c == '_'

/-- The name of a variable at the front of a text that follows a dollar sign, as it is written and as it
is meant. -/
def nameAtFront? (s : List Char) : Option (List Char × List Char) :=
  match s with
  | '\x7b' :: rest =>
    let name := rest.takeWhile (· != '\x7d')
    if name.length < rest.length then some ('\x7b' :: (name ++ ['\x7d']), name) else none
  | _ =>
    let name := s.takeWhile isNameChar
    if name.isEmpty then none else some (name, name)

/-- A text with the references to known variables replaced by their values; others stay. -/
def expandChars (env : Environment) : List Char → List Char
  | [] => []
  | c :: rest =>
    if c = '$' then
      match nameAtFront? rest with
      | none => c :: expandChars env rest
      | some (written, name) =>
        let value := match env.lookup (String.ofList name) with
          | some value => value.toList
          | none => '$' :: written
        value ++ expandChars env (rest.drop written.length)
    else c :: expandChars env rest
termination_by s => s.length
decreasing_by all_goals simp only [List.length_drop, List.length_cons]; omega

def expand (env : Environment) (s : String) : String := String.ofList (env.expandChars s.toList)

end Environment

namespace Host

/-- The home of a user, who is named or the one that runs the program. For the latter a variable comes
before the accounts. -/
def home? (host : Host) (user : List Char) : Option String :=
  if user.isEmpty then (host.environment.lookup "HOME").or host.accounts.own
  else host.accounts.named.lookup (String.ofList user)

/-- A home without slashes at its end, unless it is the root. -/
def plainHome (home : String) : String :=
  let home := Text.dropTrailing '/' home
  if home.isEmpty then "/" else home

/-- A path with a tilde and the name of a user at its front replaced by the home of the user. A home with a
tilde at its front is none, and nobody has a name with the character of code zero. -/
def expandHome (host : Host) (path : Path) : Except HomeFault Path :=
  match path.slashes, path.names with
  | 0, ('~' :: user) :: names =>
    if user.contains '\x00' then .error .zeroInName
    else
      match (host.home? user).map plainHome with
      | none => .error .unknown
      | some home =>
        if home.toList.head? = some '~' then .error .unknown
        else
          let home := Path.ofText home
          .ok { home with names := home.names ++ names }
  | _, _ => .ok path

/-- The path that a text means, with variables and home directories replaced. -/
def resolve (host : Host) (s : String) : Except HomeFault Path :=
  host.expandHome (.ofText (host.environment.expand s))

end Host

/-- Where programs are looked for when no variable names other directories. -/
def programDirectories : String := "/bin:/usr/bin"

/-- The paths where a program may be. -/
def Environment.programPaths (env : Environment) (name : String) : List Path :=
  let directories := (env.lookup "PATH").getD programDirectories
  if directories.isEmpty then []
  else (Text.pieces ':' directories.toList).map fun directory =>
    (Path.ofText (String.ofList directory)).child name

/-- Whether a program is found by its name. -/
def Host.hasProgram (host : Host) (name : String) : Bool :=
  (host.environment.programPaths name).any (host.programs.contains ·)

end QueryPlayground
