import QueryPlayground.Files.Host
import QueryPlayground.Settings.Basic
import QueryPlayground.Yaml.Document

/-!
Loading settings: which file they come from, and what the file and the environment give. A file that is
not there counts as an empty one.
-/
namespace QueryPlayground.Settings

/-- Why settings cannot be loaded. -/
inductive LoadFault where
  | home (fault : HomeFault)
  | nameTooLong (path : Path)
  | unreadable (path : Path)
  | isDirectory (path : Path)
  | encoding (fault : Text.Utf8Fault)
  | malformed (path : Path) (details : String)
  | value (fault : Yaml.ValueFault)
  | notMapping (path : Path)
  | settings (fault : SettingsFault)
  deriving DecidableEq, Repr

/-- The place of a fault in the bytes of its block, and of what the block before left over. -/
def encodingMessage (fault : Text.Utf8Fault) : String :=
  let place :=
    if fault.size = 1 then
      "byte 0x" ++ String.ofList (Text.hexDigits 2 fault.byte.toNat) ++ s!" in position {fault.start}"
    else s!"bytes in position {fault.start}-{fault.start + fault.size - 1}"
  s!"'utf-8' codec can't decode {place}: {fault.reason.message}"

def LoadFault.message : LoadFault → String
  | .home fault => fault.message
  | .nameTooLong path => s!"[Errno 36] File name too long: {Text.quoted path.text}"
  | .unreadable path => s!"[Errno 13] Permission denied: {Text.quoted path.text}"
  | .isDirectory path => s!"[Errno 21] Is a directory: {Text.quoted path.text}"
  | .encoding fault => encodingMessage fault
  | .malformed path details => s!"Config file at {path.text} is not valid YAML: {details}"
  | .value fault => fault.message
  | .notMapping path => s!"Config file at {path.text} must define a mapping root object."
  | .settings fault => fault.message

/-- The directory of the settings file if the environment names no other. -/
def defaultDirectory : String := "~/.dbplay"

def fileName : String := "config.yaml"

def directoryVariable : String := "DBPLAY_CONFIG_DIR"

def fileVariable : String := "DBPLAY_CONFIG_PATH"

/-- The directory of the settings file by some variables; references in texts are to those of the
host. -/
def directory (host : Host) (env : Environment) : Except HomeFault Path :=
  host.resolve ((env.lookup directoryVariable).getD defaultDirectory)

/-- The settings file by some variables: the one that is named, or the one in the directory. -/
def file (host : Host) (env : Environment) : Except HomeFault Path :=
  match env.lookup fileVariable with
  | some name => if name.isEmpty then inDirectory else host.resolve name
  | none => inDirectory
where
  inDirectory := (directory host env).map fun path => path.child fileName

/-- The settings file, which may also be given directly. -/
def locate (host : Host) (env : Environment) (given : String) : Except HomeFault Path :=
  if given.isEmpty then file host env else host.resolve given

/-- Settings lie in sections, and sections in the root. -/
def settingDepth : Nat := 2

/-- Why a source cannot be read, by the fault of its reader. A source that breaks off does so where its bytes
are no text, or in front of a character that is not allowed. -/
def readFault (ending : Option Yaml.Ending) (malformed : LoadFault) : Yaml.Fault → LoadFault
  | .malformed => malformed
  | .value fault => .value fault
  | .broken =>
    match ending with
    | some (.encoding fault) => .encoding fault
    | _ => malformed

/-- The mapping in a settings file; what counts as false counts as an empty mapping. -/
def readSource (path : Path) (details : String) (source : Yaml.Source) : Except LoadFault Tree.Members :=
  match Yaml.read settingDepth source with
  | .error fault => .error (readFault source.ending (.malformed path details) fault)
  | .ok tree =>
    if tree.isTruthy then
      match tree with
      | .map members => .ok members
      | _ => .error (.notMapping path)
    else .ok []

/-- The mapping at a path of a host. -/
def readFound (host : Host) (path : Path) : Except LoadFault Tree.Members :=
  match host.look path with
  | .nothing => .ok []
  | .nameTooLong => .error (.nameTooLong path)
  | .unreadable => .error (.unreadable path)
  | .directory => .error (.isDirectory path)
  | .file bytes => readSource path (host.refusal path bytes) (.ofBytes bytes)

/-- Loads settings on a host; the variables that override them may differ from those of the host. -/
def load (host : Host) (env : Environment) (given : String) : Except LoadFault Settings := do
  let path ← (locate host env given).mapError .home
  let members ← readFound host path
  (ofMembers members env path.text).mapError .settings

end QueryPlayground.Settings
