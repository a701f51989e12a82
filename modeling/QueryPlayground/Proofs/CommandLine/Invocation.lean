import QueryPlayground.CommandLine.Program

/-! Calls of the command that runs a query and gives its model as JSON. A call may be spelled in many ways:
the program reads its options in any order and form, and looks at what it has read only in a few places. One
way to spell it exists for every call, whatever the texts of its query and its options are. -/
namespace QueryPlayground.CommandLine

/-- What a call of the run command with JSON as its format asks for: the options of the program and of the
command, and the query. -/
structure JsonCall where
  config : Option String
  serviceUrl : Option String
  verbose : Bool
  mode : Option Mode
  noDelay : Bool
  query : String
  deriving DecidableEq, Repr

namespace JsonCall

variable (call : JsonCall)

/-- The words in front of the command, as far as the program looks at them. -/
structure OfProgram (program : Words) : Prop where
  help : program.asksForHelp = false
  config : program.value? "--config" = call.config
  serviceUrl : program.value? "--service-url" = call.serviceUrl
  verbose : program.isGiven "--verbose" = call.verbose

/-- The words behind the name of the command, as far as it looks at them. -/
structure OfCommand (command : Words) : Prop where
  help : command.asksForHelp = false
  check : runCommand.check command = .ok ()
  format : command.value? "--format" = some "json"
  mode : command.value? "--mode" = call.mode.map Mode.tag
  noDelay : command.isGiven "--no-delay" = call.noDelay
  rest : command.rest = [call.query]

/-- Words that are read as a call, in whatever order and form its options are written. -/
def Spells (words : List String) : Prop :=
  ∃ program rest command, root.read words = .ok program ∧ program.rest = "run" :: rest ∧
    runCommand.read rest = .ok command ∧ call.OfProgram program ∧ call.OfCommand command

/-! ### A call written out -/

/-- An option that takes a value, if one is given. -/
def optionWords (name : String) : Option String → List String
  | none => []
  | some value => [name, value]

/-- An option that takes no value, if it is given. -/
def flagWords (name : String) (given : Bool) : List String := if given then [name] else []

/-- The query, behind the end of the options if it looks like an option itself. -/
def queryWords : List String := if isOption call.query then ["--", call.query] else [call.query]

def commandWords : List String :=
  ["--format", "json"] ++ (optionWords "--mode" (call.mode.map Mode.tag) ++
    (flagWords "--no-delay" call.noDelay ++ call.queryWords))

def words : List String :=
  optionWords "--config" call.config ++ (optionWords "--service-url" call.serviceUrl ++
    (flagWords "--verbose" call.verbose ++ "run" :: call.commandWords))

/-- What is read of the words in front of the command. -/
def programRead : Words where
  given := (call.config.map fun path => ("--config", path)).toList ++
    ((call.serviceUrl.map fun url => ("--service-url", url)).toList ++
      if call.verbose then [("--verbose", "")] else [])
  rest := "run" :: call.commandWords

/-- What is read of the words behind the name of the command. -/
def commandRead : Words where
  given := ("--format", "json") :: ((call.mode.map fun mode => ("--mode", mode.tag)).toList ++
    if call.noDelay then [("--no-delay", "")] else [])
  rest := [call.query]

theorem root_read : root.read call.words = .ok call.programRead := by
  obtain ⟨config, serviceUrl, verbose, mode, noDelay, query⟩ := call
  cases config <;> cases serviceUrl <;> cases verbose <;> rfl

/-- Whatever the query is, it is not taken for an option. -/
theorem scan_queryWords (options : List OptionSpec) (given : List (String × String)) :
    scan options true given call.queryWords = (⟨given, [call.query]⟩, none) := by
  unfold queryWords
  split
  next => rw [scan, if_pos rfl]
  next hOption =>
      have hEnd : call.query ≠ "--" := by
        intro hSame
        rw [hSame] at hOption
        exact hOption rfl
      simp [scan, hEnd, hOption]

theorem runCommand_read : runCommand.read call.commandWords = .ok call.commandRead := by
  have hScan : runCommand.scan call.commandWords =
      scan runCommand.allOptions true call.commandRead.given call.queryWords := by
    obtain ⟨config, serviceUrl, verbose, mode, noDelay, query⟩ := call
    cases mode <;> cases noDelay <;> rfl
  rw [Command.read, hScan, scan_queryWords]
  rfl

theorem programRead_ofProgram : call.OfProgram call.programRead := by
  obtain ⟨config, serviceUrl, verbose, mode, noDelay, query⟩ := call
  cases config <;> cases serviceUrl <;> cases verbose <;> exact ⟨rfl, rfl, rfl, rfl⟩

theorem commandRead_ofCommand : call.OfCommand call.commandRead := by
  obtain ⟨config, serviceUrl, verbose, mode, noDelay, query⟩ := call
  rcases mode with _ | _ | _ | _ <;> cases noDelay <;> exact ⟨rfl, rfl, rfl, rfl, rfl, rfl⟩

/-- Every call can be spelled. -/
theorem spells_words : call.Spells call.words :=
  ⟨call.programRead, call.commandWords, call.commandRead, call.root_read, rfl, call.runCommand_read,
    call.programRead_ofProgram, call.commandRead_ofCommand⟩

/-! ### What is read -/

variable {call} {program command : Words}

/-- The only path among the options is that of the settings file. -/
theorem OfProgram.hasZeroInPath (h : call.OfProgram program)
    (hPath : ∀ path, call.config = some path → '\x00' ∉ path.toList) : root.hasZeroInPath program = false := by
  have hConfig : root.hasZeroInPath program =
      ((program.value? "--config").getD "").toList.contains '\x00' := by
    simp [Command.hasZeroInPath, root]
  rw [hConfig, h.config]
  cases hGiven : call.config with
  | none => rfl
  | some path => simpa using hPath path hGiven

/-- The settings depend on what is asked for and not on how it is spelled. -/
theorem OfProgram.loadSettings (h : call.OfProgram program) (host : Host) :
    loadSettings host program = loadSettings host call.programRead := by
  have hRead := call.programRead_ofProgram
  unfold CommandLine.loadSettings
  rw [h.config, h.serviceUrl, hRead.config, hRead.serviceUrl]

end JsonCall
end QueryPlayground.CommandLine
