import QueryPlayground.CommandLine.Completion
import QueryPlayground.CommandLine.Mishap
import QueryPlayground.CommandLine.Table
import QueryPlayground.Session.Playground
import QueryPlayground.Settings.Load

/-!
The program: three commands that run a query, list samples, and ask for the health of the service.
-/
namespace QueryPlayground.CommandLine

/-- What a command needs: the settings that hold, and the time for the seeds of the stores. -/
structure Context where
  settings : Settings
  stamp : Except StampFault Int

namespace Context

/-- A playground in the mode that an option asks for. -/
def playground (context : Context) (words : Words) : Except Mishap Playground := do
  let stamp ← context.stamp.mapError fun fault => .other fault.message
  let playground ← (Playground.ofSettings context.settings stamp).mapError fun refusal => .domain refusal.message
  match words.value? "--mode" with
  | none => return playground
  | some tag => (playground.switch tag).mapError fun refusal => .domain refusal.message

/-- Prints texts on lines of their own, up to one that cannot be printed. -/
def printLines : List (List Char) → Act (Except Mishap Unit)
  | [] => return .ok ()
  | text :: rest => do
    match ← Act.printReported (printed text) with
    | .error fault => return .error (.other fault.message)
    | .ok () => printLines rest

/-- Prints a model: its regions, or all of it as JSON. -/
def printModel (format : String) (model : Page.Model) : Act (Except Mishap Unit) :=
  if format = "json" then printLines [model.toJson.dump.toList]
  else printLines [model.badge, model.content, model.statsHtml]

def run (context : Context) (words : Words) : Act (Except Mishap Unit) := do
  let settings := if words.isGiven "--no-delay" then context.settings.withoutLatency else context.settings
  match { context with settings }.playground words with
  | .error mishap => return .error mishap
  | .ok playground =>
    match (← playground.execute (words.rest.headD "")).2 with
    | .error escape => return .error (.other escape.message)
    | .ok model => printModel ((words.value? "--format").getD "html") model

/-- The table of some samples. -/
def sampleTable (title : String) (samples : List Sample) : Table :=
  ⟨title.toList, ["Title".toList, "Query".toList],
    samples.map fun sample => [sample.title.toList, sample.query.toList]⟩

/-- What is added to the fault of a table that cannot be printed. -/
def encodingHint : String := "\n*** You may need to add PYTHONIOENCODING=utf-8 to your environment ***"

def printSamples (selection : Selection) : Act (Except Mishap Unit) := do
  match selection.samples with
  | [] =>
    Act.printLine .results "No sample queries available.".toList
    return .ok ()
  | samples =>
    match ← Act.printReported (sampleTable selection.title samples).text with
    | .error fault => return .error (.other (fault.message ++ encodingHint))
    | .ok () => return .ok ()

def samples (context : Context) (words : Words) : Act (Except Mishap Unit) := do
  match context.playground words with
  | .error mishap => return .error mishap
  | .ok playground =>
    if playground.selection.mode.isRemote then
      match ← playground.connect with
      | (_, .error abort) => return .error (.other abort.message)
      | (playground, .ok _) => printSamples playground.selection
    else printSamples playground.selection

/-- What the service reported about its health, beside whether it is up. -/
def healthLines (health : Health) : List (List Char) :=
  (if health.message.isTruthy then [health.message.display.toList] else []) ++
    if health.tables.isEmpty then [] else [("Tables: " ++ ", ".intercalate health.tables).toList]

/-- Prints what the service reported about its health. -/
def printHealth (baseUrl : String) (health : Health) : Act (Except Mishap Unit) := do
  Act.printLine .results s!"{Page.statusClass health.connected} ({baseUrl})".toList
  match ← printLines (healthLines health) with
  | .error mishap => return .error mishap
  | .ok () =>
    if health.connected then Act.log .success "SQL service is up."
    else Act.log .warning "SQL service is unreachable; SQL queries will return empty results."
    return .ok ()

def health (context : Context) (words : Words) : Act (Except Mishap Unit) := do
  match context.playground words with
  | .error mishap => return .error mishap
  | .ok playground =>
    match (← playground.connect).2 with
    | .error abort => return .error (.other abort.message)
    | .ok health => printHealth context.settings.baseUrl health

/-- Carries out the command of a name. -/
def perform (context : Context) (name : String) (words : Words) : Act (Except Mishap Unit) :=
  if name = "run" then context.run words
  else if name = "samples" then context.samples words
  else context.health words

end Context

/-- A fault that the program does not tell the user. -/
inductive Untold where
  | settings (fault : Settings.LoadFault)
  | zeroInPath
  | completion (fault : CompletionFault)
  deriving DecidableEq, Repr

def Untold.message : Untold → String
  | .settings fault => fault.message
  | .zeroInPath => "embedded null byte"
  | .completion fault => fault.message

/-- How the program ends: with an exit code, or by a fault that it does not tell. -/
inductive Exit where
  | code (code : Nat)
  | untold (fault : Untold)
  deriving DecidableEq, Repr

/-- Prints a help text and ends. -/
def exitWithHelp (help : String) : Act Exit := do
  Act.printLine .results help.toList
  return .code 0

/-- Shows what is wrong with the words after a command and ends. -/
def exitWithFault (command : Command) (fault : UsageFault) : Act Exit := do
  Act.printLine .diagnostics (command.complaint fault).toList
  return .code 2

/-- Tells the user what went wrong and ends. -/
def exitWithNotice (notice : Notice) : Act Exit := do
  Act.printLine .diagnostics ("Error: " ++ notice.message).toList
  return .code notice.exitCode

/-- Whether a fault of loading settings is told to the user. -/
def isTold : Settings.LoadFault → Bool
  | .malformed .. => true
  | .notMapping _ => true
  | .settings .timeoutTooLarge => false
  | .settings _ => true
  | _ => false

/-- The settings file that a list of words leads to. -/
def settingsFile? (host : Host) (words : List String) : Option Path :=
  match root.read words with
  | .error _ => none
  | .ok words => (Settings.locate host host.environment ((words.value? "--config").getD "")).toOption

/-- The settings that the words in front of a command ask for. -/
def loadSettings (host : Host) (words : Words) : Except Settings.LoadFault Settings :=
  (Settings.load host host.environment ((words.value? "--config").getD "")).map fun settings =>
    match words.value? "--service-url" with
    | none => settings
    | some url => if url.isEmpty then settings else settings.withServiceUrl url

/-- Reads the words after a command's name and carries the command out. -/
def invoke (context : Context) (name : String) (command : Command) (words : List String) : Act Exit := do
  match command.read words with
  | .error fault => exitWithFault command fault
  | .ok words =>
    if words.asksForHelp then exitWithHelp (command.helpText [])
    else
      match command.check words with
      | .error fault => exitWithFault command fault
      | .ok () =>
        match ← context.perform name words with
        | .ok () => return .code 0
        | .error mishap => exitWithNotice mishap.notice

/-- Ends because no command has the given name. A name that looks like an option is read as one first. -/
def exitWithUnknown (name : String) (rest : List String) : Act Exit := do
  let again := if isOption name then root.read (name :: rest) else .ok ⟨[], []⟩
  match again with
  | .error fault => exitWithFault root fault
  | .ok words =>
    if words.asksForHelp then exitWithHelp rootHelp
    else if root.hasZeroInPath words then return .untold .zeroInPath
    else exitWithFault root (.unknownCommand name)

/-- Loads the settings, and then invokes the command. -/
def start (host : Host) (stamp : Except StampFault Int) (words : Words) : Act Exit := do
  match words.rest with
  | [] => exitWithFault root .commandMissing
  | name :: rest =>
    match commands.lookup name with
    | none => exitWithUnknown name rest
    | some command =>
      match loadSettings host words with
      | .error fault =>
        if isTold fault then exitWithNotice (.complaint fault.message) else return .untold (.settings fault)
      | .ok settings =>
        Act.log .debug s!"dbplay using service {settings.baseUrl}"
        invoke ⟨settings, stamp⟩ name command rest

/-- The program on a list of words, and whether it shows debug lines. -/
def performWords (host : Host) (stamp : Except StampFault Int) (words : List String) :
    Act (Exit × Bool) := do
  if words.isEmpty then
    Act.printLine .diagnostics rootHelp.toList
    return (.code 2, false)
  else
    match root.read words with
    | .error fault => return (← exitWithFault root fault, false)
    | .ok words =>
      if words.asksForHelp then return (← exitWithHelp rootHelp, false)
      else if root.hasZeroInPath words then return (.untold .zeroInPath, false)
      else return (← start host stamp words, words.isGiven "--verbose")

/-- Answers a shell that asks for its script or for completions. -/
def answerShell (host : Host) (request : ShellRequest) : Act Exit := do
  match request with
  | .unknown => return .code 1
  | .script shell =>
    if shell = .bash && !host.hasProgram Shell.bash.name then
      Act.printLine .diagnostics
        "Couldn't detect Bash version, shell completion is not supported.".toList
    Act.printLine .results shell.scriptText.toList
    return .code 0
  | .completions shell =>
    match completionsText host.environment shell with
    | .error fault => return .untold (.completion fault)
    | .ok text =>
      Act.printLine .results text.toList
      return .code 0

/-- The program on a list of words, and whether it shows debug lines. The words do not matter when a shell
asks for something. -/
def program (host : Host) (stamp : Except StampFault Int) (words : List String) : Act (Exit × Bool) := do
  match ShellRequest.find? host.environment with
  | some request => return (← answerShell host request, false)
  | none => performWords host stamp words

end QueryPlayground.CommandLine
