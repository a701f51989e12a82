import QueryPlayground.Text.Quoted
import QueryPlayground.Text.Similarity

/-!
Commands, their options and arguments, and how a list of words is read as an invocation of one. The first
fault ends the reading.
-/
namespace QueryPlayground.CommandLine

/-- What an option takes. -/
inductive OptionKind where
  | flag
  | text
  | path
  | choice (values : List String)
  deriving DecidableEq, Repr

/-- An option, and the value that counts when it is not given. -/
structure OptionSpec where
  name : String
  kind : OptionKind
  help : String
  default : Option String := none
  deriving DecidableEq, Repr

/-- A command: how it is called, its options, the names of its arguments, and whether other commands are
among its words. -/
structure Command where
  path : String
  options : List OptionSpec
  arguments : List String
  hasCommands : Bool
  help : String
  deriving DecidableEq, Repr

def helpOption : OptionSpec where
  name := "--help"
  kind := .flag
  help := "Show this message and exit."

/-- All options of a command. -/
def Command.allOptions (command : Command) : List OptionSpec := command.options ++ [helpOption]

/-- What is wrong with the words after a command. -/
inductive UsageFault where
  | unknownOption (name : String) (similar : List String)
  | valueMissing (name : String)
  | valueNotTaken (name : String)
  | badChoice (name value : String) (values : List String)
  | argumentMissing (name : String)
  | argumentsLeft (words : List String)
  | unknownCommand (name : String)
  | commandMissing
  deriving DecidableEq, Repr

/-- The hint to known options that are similar to an unknown one. -/
def hint : List String → String
  | [] => ""
  | [name] => s!" Did you mean {name}?"
  | names => " (Possible options: " ++ ", ".intercalate names ++ ")"

def UsageFault.message : UsageFault → String
  | .unknownOption name similar => s!"No such option: {name}" ++ hint similar
  | .valueMissing name => s!"Option {Text.quoted name} requires an argument."
  | .valueNotTaken name => s!"Option {Text.quoted name} does not take a value."
  | .badChoice name value values =>
    s!"Invalid value for '{name}': {Text.quoted value} is not one of " ++
      ", ".intercalate (values.map Text.quoted) ++ "."
  | .argumentMissing name => s!"Missing argument '{name}'."
  | .argumentsLeft [word] => s!"Got unexpected extra argument ({word})"
  | .argumentsLeft words => "Got unexpected extra arguments (" ++ " ".intercalate words ++ ")"
  | .unknownCommand name => s!"No such command {Text.quoted name}."
  | .commandMissing => "Missing command."

/-- Whether a fault shows the usage of the command: a fault in how a value is given does not. -/
def UsageFault.showsUsage : UsageFault → Bool
  | .valueMissing _ => false
  | .valueNotTaken _ => false
  | _ => true

/-- The words after a command: the options with their values, each where it was given first, and the
other words. -/
structure Words where
  given : List (String × String)
  rest : List String
  deriving DecidableEq, Repr

/-- Records an option; one that is given again keeps its place. -/
def record (name value : String) : List (String × String) → List (String × String)
  | [] => [(name, value)]
  | (n, v) :: more => if n = name then (n, value) :: more else (n, v) :: record name value more

/-- Whether a word is an option. -/
def isOption (word : String) : Bool :=
  match word.toList with
  | '-' :: _ :: _ => true
  | _ => false

/-- Splits a word at its first equals sign into a name and a value. -/
def splitValue (word : String) : String × Option String :=
  let name := word.toList.takeWhile (· != '=')
  match word.toList.drop name.length with
  | [] => (word, none)
  | _ :: value => (String.ofList name, some (String.ofList value))

/-- The fault of an unknown option. One with a single dash is taken for a row of letters. -/
def unknown (options : List OptionSpec) (word name : String) : UsageFault :=
  match word.toList with
  | ['-', c] => .unknownOption (String.ofList ['-', c]) []
  | '-' :: c :: _ =>
    if c = '-' then .unknownOption name (Text.suggestions name (options.map (·.name)))
    else .unknownOption (String.ofList ['-', c]) []
  | _ => .unknownOption name []

/-- Reads words up to the first fault. When `mixed` is not set, the first word that is no option ends the
options. The recorded options are passed along in `given`. -/
def scan (options : List OptionSpec) (mixed : Bool) (given : List (String × String)) :
    List String → Words × Option UsageFault
  | [] => (⟨given, []⟩, none)
  | word :: rest =>
    if word = "--" then (⟨given, rest⟩, none)
    else if isOption word then
      let (name, value) := splitValue word
      match options.find? (·.name == name) with
      | none => (⟨given, []⟩, some (unknown options word name))
      | some option =>
        match option.kind, value, rest with
        | .flag, none, rest => scan options mixed (record name "" given) rest
        | .flag, some _, _ => (⟨given, []⟩, some (.valueNotTaken name))
        | _, some value, rest => scan options mixed (record name value given) rest
        | _, none, [] => (⟨given, []⟩, some (.valueMissing name))
        | _, none, value :: rest => scan options mixed (record name value given) rest
    else if mixed then
      let (words, fault) := scan options mixed given rest
      ({ words with rest := word :: words.rest }, fault)
    else (⟨given, word :: rest⟩, none)

/-- Reads the words after a command up to the first fault. -/
def Command.scan (command : Command) (words : List String) : Words × Option UsageFault :=
  CommandLine.scan command.allOptions (!command.hasCommands) [] words

/-- Reads the words after a command. -/
def Command.read (command : Command) (words : List String) : Except UsageFault Words :=
  match command.scan words with
  | (words, none) => .ok words
  | (_, some fault) => .error fault

/-- Checks the value of an option. -/
def checkOption (options : List OptionSpec) (given : String × String) : Except UsageFault Unit :=
  match (options.find? fun option => option.name == given.1).map OptionSpec.kind with
  | some (.choice values) =>
    if given.2 ∈ values then .ok () else .error (.badChoice given.1 given.2 values)
  | _ => .ok ()

/-- Checks the options in their order, then the number of arguments. -/
def Command.check (command : Command) (words : Words) : Except UsageFault Unit := do
  words.given.forM (checkOption command.options)
  match command.arguments.drop words.rest.length with
  | name :: _ => throw (.argumentMissing name)
  | [] =>
    match words.rest.drop command.arguments.length with
    | [] => return ()
    | left => throw (.argumentsLeft left)

namespace Words

def asksForHelp (words : Words) : Bool := (words.given.lookup helpOption.name).isSome

def isGiven (words : Words) (name : String) : Bool := (words.given.lookup name).isSome

/-- The value of an option. -/
def value? (words : Words) (name : String) : Option String := words.given.lookup name

end Words

/-- Whether some path that a command is given holds the zero character, which ends a path for the system. -/
def Command.hasZeroInPath (command : Command) (words : Words) : Bool :=
  command.options.any fun option =>
    option.kind = .path && ((words.value? option.name).getD "").toList.contains '\x00'

end QueryPlayground.CommandLine
