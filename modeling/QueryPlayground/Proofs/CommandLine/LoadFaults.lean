import QueryPlayground.Proofs.Session.Journal
import QueryPlayground.Proofs.Settings.Timeout
import QueryPlayground.Proofs.Yaml.Bytes
import QueryPlayground.Proofs.Yaml.Scanning

/-! Faults of loading settings, and how the program ends with them. Most of what may be wrong with a settings file
is told to the user. Some of it is not: a home that is not known, a path that is too long or a directory, bytes
that are no text, scalars without a value, and a timeout out of range. With these the program ends by the fault
itself, and with no other fault it does. -/
namespace QueryPlayground

open CommandLine (isTold)
open Yaml (Fault Lacks Misspells Outline Source ValueFault)

namespace Settings

variable {host : Host} {env : Environment} {given : String} {path : Path} {fault : LoadFault}

/-- What keeps a found file from being read as a mapping without a word to the user. The reader comes upon bytes that
are no text, upon something in the text that has no value, or upon such a node. -/
inductive SpoilsUntold (host : Host) (path : Path) : LoadFault → Prop where
  | nameTooLong (hFound : host.look path = .nameTooLong) : SpoilsUntold host path (.nameTooLong path)
  | unreadable (hFound : host.look path = .unreadable) : SpoilsUntold host path (.unreadable path)
  | directory (hFound : host.look path = .directory) : SpoilsUntold host path (.isDirectory path)
  | encoding {bytes : List UInt8} {fault : Text.Utf8Fault} (hFound : host.look path = .file bytes)
      (hBytes : ¬Text.IsUtf8 bytes) (hEnding : (Source.ofBytes bytes).ending = some (.encoding fault))
      (hReached : Outline.ofSource? (.ofBytes bytes) = .error .broken) : SpoilsUntold host path (.encoding fault)
  | spelling {bytes : List UInt8} {fault : ValueFault} (hFound : host.look path = .file bytes)
      (hText : Misspells (Source.ofBytes bytes).text fault)
      (hReached : Outline.ofSource? (.ofBytes bytes) = .error (.value fault)) : SpoilsUntold host path (.value fault)
  | value {bytes : List UInt8} {outline : Outline} {fault : ValueFault} (hFound : host.look path = .file bytes)
      (hOutline : Outline.ofSource? (.ofBytes bytes) = .ok (some outline)) (hNode : Lacks outline.nodes fault)
      (hReached : outline.graph = .error (.value fault)) : SpoilsUntold host path (.value fault)

/-- What keeps settings from being loaded without a word to the user, each with its cause: the home in the path
is not known, the file is spoiled, or its timeout is out of range. -/
inductive FailsUntold (host : Host) (env : Environment) (given : String) : LoadFault → Prop where
  | home {fault : HomeFault} (hPath : locate host env given = .error fault) : FailsUntold host env given (.home fault)
  | spoilt {path : Path} {fault : LoadFault} (hPath : locate host env given = .ok path)
      (hSpoils : SpoilsUntold host path fault) : FailsUntold host env given fault
  | timeout {path : Path} {file : Tree.Members} (hPath : locate host env given = .ok path)
      (hFile : readFound host path = .ok file) (hOverflows : TimeoutOverflows env file) :
      FailsUntold host env given (.settings .timeoutTooLarge)

theorem isTold_settings_iff {fault : SettingsFault} :
    isTold (.settings fault) = false ↔ fault = .timeoutTooLarge := by
  cases fault <;> simp [isTold]

/-- A source has no tree if it has no document, or if no values can be made of its nodes. -/
theorem read_eq_error_iff {depth : Nat} {source : Source} {fault : Fault} :
    Yaml.read depth source = .error fault ↔
      Outline.ofSource? source = .error fault ∨
        ∃ outline, Outline.ofSource? source = .ok (some outline) ∧ outline.graph = .error fault := by
  unfold Yaml.read
  rw [bind_eq_error_iff]
  refine or_congr_right ⟨?_, ?_⟩
  · rintro ⟨_ | outline, hOutline, hRead⟩
    · cases hRead
    · rcases bind_eq_error_iff.mp hRead with hGraph | ⟨graph, -, hTree⟩
      · exact ⟨outline, hOutline, hGraph⟩
      · cases hTree
  · rintro ⟨outline, hOutline, hGraph⟩
    exact ⟨some outline, hOutline, bind_eq_error_iff.mpr (.inl hGraph)⟩

/-- Of the faults of reading, those are not told that stem from the bytes or from a value. -/
theorem readFault_untold_iff {ending : Option Yaml.Ending} {details : String} {reading : Fault} :
    fault = readFault ending (.malformed path details) reading ∧ isTold fault = false ↔
      (∃ cause, fault = .encoding cause ∧ ending = some (.encoding cause) ∧ reading = .broken) ∨
        ∃ cause, fault = .value cause ∧ reading = .value cause := by
  constructor
  · rintro ⟨rfl, hTold⟩
    unfold readFault at hTold ⊢
    split at hTold
    next => cases hTold
    next cause => exact .inr ⟨cause, rfl, rfl⟩
    next =>
        split at hTold
        next cause => exact .inl ⟨cause, rfl, rfl, rfl⟩
        next => cases hTold
  · rintro (⟨cause, rfl, rfl, rfl⟩ | ⟨cause, rfl, rfl⟩)
    · exact ⟨rfl, rfl⟩
    · exact ⟨rfl, rfl⟩

/-- A file fails without a word to the user where its reading does. -/
theorem readSource_untold_iff {details : String} {source : Source} :
    readSource path details source = .error fault ∧ isTold fault = false ↔
      (∃ cause, fault = .encoding cause ∧ source.ending = some (.encoding cause) ∧
          Yaml.read settingDepth source = .error .broken) ∨
        ∃ cause, fault = .value cause ∧ Yaml.read settingDepth source = .error (.value cause) := by
  unfold readSource
  cases hRead : Yaml.read settingDepth source with
  | error reading =>
      simp only [Except.error.injEq, @eq_comm _ _ fault]
      exact readFault_untold_iff
  | ok tree =>
      -- That there is no mapping in it is told.
      refine ⟨?_, by simp⟩
      dsimp only
      rintro ⟨hFault, hTold⟩
      split at hFault
      next =>
          split at hFault
          next => cases hFault
          next =>
              cases hFault
              cases hTold
      next => cases hFault

/-- Of the faults of a file its syntax alone is told, and that it holds no mapping. -/
theorem readFound_untold_iff :
    readFound host path = .error fault ∧ isTold fault = false ↔ SpoilsUntold host path fault := by
  unfold readFound
  constructor
  · rintro ⟨hRead, hTold⟩
    split at hRead
    next => cases hRead
    next hFound =>
        cases hRead
        exact .nameTooLong hFound
    next hFound =>
        cases hRead
        exact .unreadable hFound
    next hFound =>
        cases hRead
        exact .directory hFound
    next bytes hFound =>
        rcases readSource_untold_iff.mp ⟨hRead, hTold⟩ with ⟨cause, rfl, hEnding, hBroken⟩ | ⟨cause, rfl, hValue⟩
        · rcases read_eq_error_iff.mp hBroken with hReached | ⟨outline, -, hGraph⟩
          · exact .encoding hFound (Source.not_isUtf8_of_ending hEnding) hEnding hReached
          · exact (outline.ends_graph.of_error hGraph).elim
        · rcases read_eq_error_iff.mp hValue with hReached | ⟨outline, hOutline, hReached⟩
          · exact .spelling hFound ((Outline.ends_ofSource? _).of_error hReached) hReached
          · exact .value hFound hOutline (outline.ends_graph.of_error hReached) hReached
  · intro hSpoils
    cases hSpoils with
    | nameTooLong hFound =>
        rw [hFound]
        exact ⟨rfl, rfl⟩
    | unreadable hFound =>
        rw [hFound]
        exact ⟨rfl, rfl⟩
    | directory hFound =>
        rw [hFound]
        exact ⟨rfl, rfl⟩
    | encoding hFound hBytes hEnding hReached =>
        rw [hFound]
        exact readSource_untold_iff.mpr (.inl ⟨_, rfl, hEnding, read_eq_error_iff.mpr (.inl hReached)⟩)
    | spelling hFound hText hReached =>
        rw [hFound]
        exact readSource_untold_iff.mpr (.inr ⟨_, rfl, read_eq_error_iff.mpr (.inl hReached)⟩)
    | value hFound hOutline hNode hReached =>
        rw [hFound]
        exact readSource_untold_iff.mpr (.inr ⟨_, rfl, read_eq_error_iff.mpr (.inr ⟨_, hOutline, hReached⟩)⟩)

/-- Loading fails by its first step that does. -/
theorem load_eq_error_iff :
    load host env given = .error fault ↔
      (∃ cause, locate host env given = .error cause ∧ fault = .home cause) ∨
        ∃ path, locate host env given = .ok path ∧
          (readFound host path = .error fault ∨
            ∃ file, readFound host path = .ok file ∧
              ∃ cause, ofMembers file env path.text = .error cause ∧ fault = .settings cause) := by
  unfold load
  simp only [bind_eq_error_iff, mapError_eq_ok_iff, mapError_eq_error_iff, @eq_comm _ _ fault]

/-- Loading fails without a word to the user just for the causes above. -/
theorem load_untold_iff :
    load host env given = .error fault ∧ isTold fault = false ↔ FailsUntold host env given fault := by
  rw [load_eq_error_iff]
  constructor
  · rintro ⟨⟨cause, hPath, rfl⟩ | ⟨path, hPath, hRead | ⟨file, hFile, cause, hMembers, rfl⟩⟩, hTold⟩
    · exact .home hPath
    · exact .spoilt hPath (readFound_untold_iff.mp ⟨hRead, hTold⟩)
    · obtain rfl := isTold_settings_iff.mp hTold
      exact .timeout hPath hFile ((ofMembers_eq_timeoutTooLarge_iff (readFound_settled hFile)).mp hMembers)
  · intro hFails
    cases hFails with
    | home hPath => exact ⟨.inl ⟨_, hPath, rfl⟩, rfl⟩
    | spoilt hPath hSpoils =>
        obtain ⟨hRead, hTold⟩ := readFound_untold_iff.mpr hSpoils
        exact ⟨.inr ⟨_, hPath, .inl hRead⟩, hTold⟩
    | timeout hPath hFile hOverflows =>
        have hSettled := readFound_settled hFile
        exact ⟨.inr ⟨_, hPath, .inr ⟨_, hFile, _, (ofMembers_eq_timeoutTooLarge_iff hSettled).mpr hOverflows, rfl⟩⟩,
          rfl⟩

end Settings

namespace CommandLine

variable {outside : Outside} {trace : Trace}

/-! ### Ends with an exit code -/

/-- An activity that ends with an exit code, and by no fault. -/
def EndsByCode (act : Act Exit) : Prop :=
  ∀ (outside : Outside) (trace : Trace), ∃ code, (act.perform outside trace).1 = .code code

theorem endsByCode_help (help : String) : EndsByCode (exitWithHelp help) := by
  intro outside trace
  simp only [exitWithHelp, Act.perform_bind, Act.perform_pure]
  exact ⟨_, rfl⟩

theorem endsByCode_fault (command : Command) (fault : UsageFault) : EndsByCode (exitWithFault command fault) := by
  intro outside trace
  simp only [exitWithFault, Act.perform_bind, Act.perform_pure]
  exact ⟨_, rfl⟩

theorem exitWithNotice_perform (notice : Notice) :
    (exitWithNotice notice).perform outside trace =
      (.code notice.exitCode,
        { trace with
          effects := trace.effects ++ [.print .diagnostics (printed ("Error: " ++ notice.message).toList)] }) := by
  simp only [exitWithNotice, Act.printLine, Act.perform_bind, Act.perform_effect, Act.perform_pure]

/-- Whatever goes wrong in a command is told. -/
theorem endsByCode_invoke (context : Context) (name : String) (command : Command) (words : List String) :
    EndsByCode (invoke context name command words) := by
  intro outside trace
  unfold invoke
  cases command.read words with
  | error fault => exact endsByCode_fault command fault outside trace
  | ok words =>
      dsimp only
      split
      next => exact endsByCode_help _ outside trace
      next =>
          cases command.check words with
          | error fault => exact endsByCode_fault command fault outside trace
          | ok done =>
              simp only [Act.perform_bind]
              cases ((context.perform name words).perform outside trace).1 with
              | ok done => exact ⟨0, by rw [Act.perform_pure]⟩
              | error mishap => exact ⟨_, congrArg Prod.fst (exitWithNotice_perform mishap.notice)⟩

/-! ### Calls of a command -/

/-- Words that are read as a call of one of the commands. -/
structure Calls (words : List String) (program : Words) : Prop where
  read : root.read words = .ok program
  help : program.asksForHelp = false
  command : ∃ name rest command, program.rest = name :: rest ∧ commands.lookup name = some command

theorem Calls.words_ne_nil {words : List String} {program : Words} (h : Calls words program) :
    words.isEmpty = false := by
  obtain ⟨name, rest, command, hRest, -⟩ := h.command
  cases words with
  | nil =>
      have hRead := h.read
      cases hRead
      cases hRest
  | cons word words => rfl

/-- The settings file that is named in front of a command; no text stands for none. -/
def Words.config (program : Words) : String := (program.value? "--config").getD ""

theorem hasZeroInPath_eq (program : Words) : root.hasZeroInPath program = program.config.toList.contains '\x00' := by
  simp [Command.hasZeroInPath, root, Words.config]

/-- Another address for the service is no part of what may go wrong in loading. -/
theorem loadSettings_eq_error_iff {host : Host} {program : Words} {fault : Settings.LoadFault} :
    loadSettings host program = .error fault ↔
      Settings.load host host.environment program.config = .error fault := by
  unfold loadSettings Words.config
  cases Settings.load host host.environment ((program.value? "--config").getD "") with
  | error other => exact ⟨id, id⟩
  | ok settings => exact ⟨nofun, nofun⟩

namespace Calls

variable {host : Host} {words : List String} {program : Words} (h : Calls words program)
include h

/-- A path with the character of code zero is refused by the system before anything is loaded. -/
theorem program_of_zeroInPath (hShell : ShellRequest.find? host.environment = none)
    (hZero : root.hasZeroInPath program = true) (stamp : Except StampFault Int) :
    (CommandLine.program host stamp words).perform outside trace = ((.untold .zeroInPath, false), trace) := by
  simp only [CommandLine.program, hShell, performWords, h.words_ne_nil, h.read, h.help, hZero, Bool.false_eq_true,
    if_false, if_true, Act.perform_pure]

/-- Any other call starts by loading the settings. -/
theorem program_of_start (hShell : ShellRequest.find? host.environment = none)
    (hZero : root.hasZeroInPath program = false) (stamp : Except StampFault Int) :
    (CommandLine.program host stamp words).perform outside trace =
      let started := (start host stamp program).perform outside trace
      ((started.1, program.isGiven "--verbose"), started.2) := by
  simp only [CommandLine.program, hShell, performWords, h.words_ne_nil, h.read, h.help, hZero, Bool.false_eq_true,
    if_false, Act.perform_bind, Act.perform_pure]

theorem start_of_error {fault : Settings.LoadFault} (hFault : loadSettings host program = .error fault)
    (stamp : Except StampFault Int) :
    (start host stamp program).perform outside trace =
      if isTold fault then (exitWithNotice (.complaint fault.message)).perform outside trace
      else (.untold (.settings fault), trace) := by
  obtain ⟨name, rest, command, hRest, hCommand⟩ := h.command
  simp only [start, hRest, hCommand, hFault]
  split
  next => rfl
  next => rw [Act.perform_pure]

theorem endsByCode_start {settings : Settings} (hSettings : loadSettings host program = .ok settings)
    (stamp : Except StampFault Int) : EndsByCode (start host stamp program) := by
  obtain ⟨name, rest, command, hRest, hCommand⟩ := h.command
  intro outside trace
  simp only [start, hRest, hCommand, hSettings, Act.perform_bind]
  exact endsByCode_invoke _ _ _ _ outside _

end Calls

/-- The faults by which a call may end without a word to the user: its path holds the character with code zero,
or the settings fail so. -/
inductive Slips (host : Host) (given : String) : Untold → Prop where
  | zeroInPath (hZero : '\x00' ∈ given.toList) : Slips host given .zeroInPath
  | settings {fault : Settings.LoadFault} (hZero : '\x00' ∉ given.toList)
      (hFails : Settings.FailsUntold host host.environment given fault) : Slips host given (.settings fault)

/-- With a path that the system takes, a call slips by the untold faults of loading. -/
theorem slips_iff {host : Host} {program : Words} (hZero : '\x00' ∉ program.config.toList) {fault : Untold} :
    Slips host program.config fault ↔
      ∃ cause, fault = .settings cause ∧ loadSettings host program = .error cause ∧ isTold cause = false := by
  simp only [loadSettings_eq_error_iff, Settings.load_untold_iff]
  constructor
  · intro h
    cases h with
    | zeroInPath h => exact absurd h hZero
    | settings _ hFails => exact ⟨_, rfl, hFails⟩
  · rintro ⟨cause, rfl, hFails⟩
    exact .settings hZero hFails

end CommandLine
end QueryPlayground
