import QueryPlayground.CommandLine.Command

/-!
The texts that describe commands: the usage line, and the help with its lists of options and commands.
-/
namespace QueryPlayground.CommandLine

/-- What an option looks like in a list. -/
def OptionSpec.form (option : OptionSpec) : String :=
  match option.kind with
  | .flag => option.name
  | .text => option.name ++ " TEXT"
  | .path => option.name ++ " PATH"
  | .choice values => option.name ++ " [" ++ "|".intercalate values ++ "]"

/-- What an option does, and what counts without it. -/
def OptionSpec.note (option : OptionSpec) : String :=
  match option.default with
  | none => option.help
  | some value => (if option.help.isEmpty then "" else option.help ++ "  ") ++ s!"[default: {value}]"

/-- The longest help of a command in a list of completions. -/
def maxShortHelp : Nat := 45

def sentenceEnd : String := "."

/-- The words up to the end of the first sentence. -/
def firstSentence : List String → List String
  | [] => []
  | word :: rest => if word.endsWith sentenceEnd then [word] else word :: firstSentence rest

/-- The help of a command in short: its first sentence, or as many words of it as there is room for. -/
def Command.shortHelp (command : Command) : String :=
  let sentence := firstSentence (command.help.splitOn " ")
  let joined (count : Nat) : String := " ".intercalate (sentence.take count)
  if (joined sentence.length).length ≤ maxShortHelp then joined sentence.length
  else
    let counts := (List.range sentence.length).filter fun count => (joined count).length + 3 ≤ maxShortHelp
    joined (counts.foldl max 0) ++ "..."

/-- The line that shows how a command is called. -/
def Command.usage (command : Command) : String :=
  " ".intercalate (["Usage:", command.path, "[OPTIONS]"] ++ command.arguments ++
    (if command.hasCommands then ["COMMAND", "[ARGS]..."] else []))

/-- Two columns of texts, the second one aligned. -/
def columns (rows : List (String × String)) : List String :=
  let width := (rows.map fun (first, _) => first.length).foldl max 0 + 2
  rows.map fun (first, second) =>
    "  " ++ first ++ String.ofList (List.replicate (width - first.length) ' ') ++ second

/-- The help of a command; `commands` lists the commands among its words. -/
def Command.helpText (command : Command) (commands : List (String × String)) : String :=
  let list (title : String) (rows : List (String × String)) : List String :=
    if rows.isEmpty then [] else ["", title ++ ":"] ++ columns rows
  "\n".intercalate ([command.usage, "", "  " ++ command.help] ++
    list "Options" (command.allOptions.map fun option => (option.form, option.note)) ++
    list "Commands" commands)

/-- A fault as it is shown. -/
def Command.complaint (command : Command) (fault : UsageFault) : String :=
  (if fault.showsUsage then
    command.usage ++ "\nTry '" ++ command.path ++ " " ++ helpOption.name ++ "' for help.\n\n"
  else "") ++ "Error: " ++ fault.message

end QueryPlayground.CommandLine
