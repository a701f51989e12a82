import QueryPlayground.CommandLine.Commands
import QueryPlayground.CommandLine.CompletionScript
import QueryPlayground.Files.Host
import QueryPlayground.Text.IntegerText
import QueryPlayground.Text.ShellWords

/-!
Completing words in a shell. The shell asks by environment variables and gives the words of its line; what
may stand in the place of an incomplete word depends on the words before it, in which faults are passed
over.
-/
namespace QueryPlayground.CommandLine

/-- What a shell asks for. A shell that is not known, or that asks for anything else, gets nothing. -/
inductive ShellRequest where
  | script (shell : Shell)
  | completions (shell : Shell)
  | unknown
  deriving DecidableEq, Repr

namespace ShellRequest

/-- The variable by which a shell asks. -/
def variableName : String := "_DBPLAY_COMPLETE"

/-- Reads a request: the name of a shell, a low line, and what it asks for. -/
def read (text : String) : ShellRequest :=
  let name := text.toList.takeWhile (· != '_')
  let subject := String.ofList (text.toList.drop (name.length + 1))
  match Shell.all.find? fun shell => shell.name.toList == name with
  | none => .unknown
  | some shell =>
    if subject = "source" then .script shell
    else if subject = "complete" then .completions shell
    else .unknown

/-- The request in the variables, if a shell asks at all. -/
def find? (env : Environment) : Option ShellRequest :=
  ((env.lookup variableName).filter (!·.isEmpty)).map read

end ShellRequest

/-- Why there are no completions. -/
inductive CompletionFault where
  | variableMissing (name : String)
  | place (fault : Text.IntegerFault)
  | wordMissing
  deriving DecidableEq, Repr

def CompletionFault.message : CompletionFault → String
  | .variableMissing name => Text.quoted name
  | .place fault => fault.message
  | .wordMissing => "list index out of range"

/-- The words of a line in front of the incomplete one, and that one. -/
structure Line where
  before : List String
  incomplete : String
  deriving DecidableEq, Repr

namespace Line

/-- The value of a variable that the shell must give. -/
def given (env : Environment) (name : String) : Except CompletionFault String :=
  match env.lookup name with
  | some value => .ok value
  | none => .error (.variableMissing name)

/-- The line with its incomplete word at a place; a negative place counts from the end. -/
def atPlace (words : List String) (place : Int) : Line :=
  let index := if place < 0 then words.length + place else place
  let incomplete := if index < 0 then "" else words.getD index.toNat ""
  ⟨(words.take index.toNat).drop 1, incomplete⟩

/-- The line in which the incomplete word is given by its text, and may be the last word too. -/
def ending (words : List String) (text : String) : Except CompletionFault Line :=
  let before := words.drop 1
  if text.isEmpty then .ok ⟨before, ""⟩
  else
    match Text.shellWords text with
    | [] => .error .wordMissing
    | incomplete :: _ =>
      let isLast := !incomplete.isEmpty && before.getLast? == some incomplete
      .ok ⟨if isLast then before.dropLast else before, incomplete⟩

/-- The line that a shell gives by its variables. -/
def read (env : Environment) (shell : Shell) : Except CompletionFault Line := do
  let words := Text.shellWords (← given env "COMP_WORDS")
  let place ← given env "COMP_CWORD"
  match shell with
  | .fish => ending words place
  | _ => return atPlace words (← (Text.readInteger 10 place.toList).mapError .place)

end Line

/-- What may stand in the place of an incomplete word: a text with its help, or the name of a file. -/
inductive Candidate where
  | text (value : String) (help : String)
  | file (front : String)
  deriving DecidableEq, Repr

/-- The command that words lead to, with the words read after it. -/
structure Position where
  command : Command
  words : Words
  isFaulty : Bool

namespace Position

/-- The position behind some words, as far as they can be read. -/
def after (words : List String) : Position :=
  let reach (command : Command) (words : List String) : Position :=
    let (words, fault) := command.scan words
    ⟨command, words, fault.isSome⟩
  let top := reach root words
  match top.words.rest with
  | [] => top
  | name :: rest => (commands.lookup name).elim top fun command => reach command rest

/-- Whether an argument has not been given yet. -/
def wantsArgument (position : Position) : Bool :=
  !position.command.arguments.isEmpty &&
    (position.isFaulty || position.words.rest.length < position.command.arguments.length)

/-- The commands that begin with a text. -/
def commandCandidates (position : Position) (front : String) : List Candidate :=
  if position.command.hasCommands then
    (commands.filter fun (name, _) => name.startsWith front).map fun (name, command) =>
      .text name command.shortHelp
  else []

/-- The options that begin with a text and have not been given. -/
def optionCandidates (position : Position) (front : String) : List Candidate :=
  if front.isEmpty then []
  else
    (position.command.allOptions.filter fun option =>
      option.name.startsWith front && !position.words.isGiven option.name).map fun option =>
        .text option.name option.help

end Position

/-- The values of an option that begin with a text. -/
def OptionKind.candidates (kind : OptionKind) (front : String) : List Candidate :=
  match kind with
  | .choice values => (values.filter (·.startsWith front)).map fun value => .text value ""
  | .path => [.file front]
  | _ => []

def beginsOption (word : String) : Bool := word.startsWith "-"

/-- A line whose incomplete word is no equals sign and holds none behind an option: the option counts as a
word before it. -/
def Line.withoutEquals (line : Line) : Line :=
  if line.incomplete = "=" then { line with incomplete := "" }
  else
    match beginsOption line.incomplete, splitValue line.incomplete with
    | true, (name, some value) => ⟨line.before ++ [name], value⟩
    | _, _ => line

/-- What may stand in the place of the incomplete word of a line. -/
def candidates (line : Line) : List Candidate :=
  let position := Position.after line.before
  let line := line.withoutEquals
  let front := line.incomplete
  let all := position.commandCandidates front ++ position.optionCandidates front
  if beginsOption front && !line.before.contains "--" then all
  else
    match position.command.allOptions.find? fun option =>
        option.kind != .flag && line.before.getLast? == some option.name with
    | some option => option.kind.candidates front
    | none => if position.wantsArgument then [] else all

/-- A candidate as a shell reads it. -/
def Candidate.written (shell : Shell) (candidate : Candidate) : String :=
  let (kind, value, help) := match candidate with
    | .text value help => ("plain", value, help)
    | .file front => ("file", front, "")
  match shell with
  | .bash => kind ++ "," ++ value
  | .fish => kind ++ "," ++ value ++ (if help.isEmpty then "" else "\t" ++ help)
  | .zsh => kind ++ "\n" ++ value ++ "\n" ++ (if help.isEmpty then "_" else help)

/-- The completions that a shell asks for by its variables. -/
def completionsText (env : Environment) (shell : Shell) : Except CompletionFault String := do
  return "\n".intercalate ((candidates (← Line.read env shell)).map (Candidate.written shell))

end QueryPlayground.CommandLine
