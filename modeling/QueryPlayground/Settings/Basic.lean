import QueryPlayground.Settings.Override

/-!
Settings in their final form, and how they are built: defaults, overridden by what a file holds,
overridden by environment variables.
-/
namespace QueryPlayground

structure Settings where
  sourcePath : String
  baseUrl : String
  healthPath : String
  queryPath : String
  timeout : Option Binary64
  simulateLatency : Bool
  defaultMode : String
  deriving DecidableEq, Repr

/-- Why settings cannot be built from a tree. -/
inductive StructureFault where
  | access (fault : AccessFault)
  | notShowable
  | timeout (fault : Binary64.ConversionFault)
  | timeoutNotPositive
  deriving DecidableEq, Repr

def StructureFault.message : StructureFault → String
  | .access fault => fault.message
  | .notShowable => Text.integerLimitMessage none
  | .timeout fault => fault.message
  | .timeoutNotPositive => "service.timeout_seconds must be positive or null"

/-- The words that the mode may be set to. -/
def Settings.validModes : List String := ["sql", "nosql", "cache"]

/-- Why a file and an environment give no settings. -/
inductive SettingsFault where
  | badVariable (fault : Override.BadVariable)
  | badStructure (fault : StructureFault)
  | badMode (mode : String)
  | timeoutTooLarge
  deriving DecidableEq, Repr

def SettingsFault.message : SettingsFault → String
  | .badVariable ⟨name, raw, fault⟩ =>
    s!"Environment override {name} has invalid value '{raw}': {fault.message}"
  | .badStructure fault => s!"Invalid configuration structure: {fault.message}"
  | .badMode mode =>
    "session.default_mode must be one of " ++ ", ".intercalate Settings.validModes ++ s!"; got '{mode}'."
  | .timeoutTooLarge => Binary64.ConversionFault.message .tooLarge

namespace Settings

private def text (s : String) : Tree := .scalar (.str s)

/-- The settings that hold when nothing else is said. -/
def defaults : Tree.Members :=
  [(.str "service", .map [
     (.str "base_url", text "http://localhost:8080"),
     (.str "health_path", text "/"),
     (.str "query_path", text "/api/query"),
     (.str "timeout_seconds", .scalar (.float (Binary64.ofInt 10)))]),
   (.str "dispatch", .map [(.str "simulate_latency", .scalar (.bool true))]),
   (.str "session", .map [(.str "default_mode", text "sql")])]

/-- A base address in the form in which it is kept, without slashes at the end. -/
def normalUrl (url : String) : String := Text.dropTrailing '/' url

/-- A word for the mode in the form in which it is kept. -/
def normalMode (mode : String) : String := Text.lower (Text.trim mode)

/-- The timeout that a value stands for; null stands for none. A timeout must not be zero or less. -/
def readTimeout : Tree → Except SettingsFault (Option Binary64)
  | .scalar .null => .ok none
  | t =>
    match t.toNumber with
    | .error .tooLarge => .error .timeoutTooLarge
    | .error fault => .error (.badStructure (.timeout fault))
    | .ok x => if x.le .zero then .error (.badStructure .timeoutNotPositive) else .ok (some x)

/-- The value of a setting in a mapping of sections. -/
def readItem (tree : Tree) (name : String) : Except SettingsFault Tree :=
  (tree.item name).mapError fun fault => .badStructure (.access fault)

/-- The text of the value of a setting in a mapping of sections. -/
def readText (tree : Tree) (name : String) : Except SettingsFault String := do
  let value ← readItem tree name
  if value.isShowable then return value.display else throw (.badStructure .notShowable)

/-- Builds settings from a complete tree. -/
def build (members : Tree.Members) (sourcePath : String) : Except SettingsFault Settings := do
  let service ← readItem (.map members) "service"
  let baseUrl ← readText service "base_url"
  let healthPath ← readText service "health_path"
  let queryPath ← readText service "query_path"
  let timeout ← readTimeout (← readItem service "timeout_seconds")
  let latency ← readItem (← readItem (.map members) "dispatch") "simulate_latency"
  let defaultMode := normalMode (← readText (← readItem (.map members) "session") "default_mode")
  if defaultMode ∈ validModes then
    return {
      sourcePath
      baseUrl := normalUrl baseUrl
      healthPath
      queryPath
      timeout
      simulateLatency := latency.isTruthy
      defaultMode }
  else throw (.badMode defaultMode)

/-- The settings of a file's mapping under an environment. -/
def ofMembers (file : Tree.Members) (env : Environment) (sourcePath : String) :
    Except SettingsFault Settings := do
  let members ← (Override.applyAll env (Tree.merge defaults file)).mapError .badVariable
  build members sourcePath

/-- The same settings with another service. -/
def withServiceUrl (settings : Settings) (url : String) : Settings :=
  { settings with baseUrl := normalUrl url }

/-- The same settings without pauses. -/
def withoutLatency (settings : Settings) : Settings := { settings with simulateLatency := false }

end Settings
end QueryPlayground
