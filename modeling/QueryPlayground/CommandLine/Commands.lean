import QueryPlayground.CommandLine.Help
import QueryPlayground.Engine.Mode

/-!
The commands of the program: how they are called, and what their helps say.
-/
namespace QueryPlayground.CommandLine

def modeOption (help : String) : OptionSpec := { name := "--mode", kind := .choice (Mode.all.map Mode.tag), help }

/-- The program itself, whose words hold one of the commands. -/
def root : Command where
  path := "dbplay"
  options := [
    { name := "--config", kind := .path, help := "Path to config file." },
    { name := "--service-url", kind := .text, help := "Override the SQL service base URL." },
    { name := "--verbose", kind := .flag, help := "Enable verbose logging output." }]
  arguments := []
  hasCommands := true
  help := "Query the simulated SQL, document, and cache engines."

def runCommand : Command where
  path := "dbplay run"
  options := [
    modeOption "Engine to query (defaults to config).",
    { name := "--format", kind := .choice ["html", "json"], help := "", default := some "html" },
    { name := "--no-delay", kind := .flag
      help := "Skip the simulated network delay for local engines." }]
  arguments := ["QUERY"]
  hasCommands := false
  help := "Execute QUERY and print the rendered result regions."

def samplesCommand : Command where
  path := "dbplay samples"
  options := [modeOption "Engine whose samples to list."]
  arguments := []
  hasCommands := false
  help := "List the canned queries for a mode."

def healthCommand : Command where
  path := "dbplay health"
  options := []
  arguments := []
  hasCommands := false
  help := "Check whether the SQL service is reachable."

/-- The commands by name, in alphabetical order. -/
def commands : List (String × Command) :=
  [("health", healthCommand), ("run", runCommand), ("samples", samplesCommand)]

def rootHelp : String := root.helpText (commands.map fun (name, command) => (name, command.help))

end QueryPlayground.CommandLine
