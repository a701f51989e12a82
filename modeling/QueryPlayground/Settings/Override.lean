import QueryPlayground.Files.Host
import QueryPlayground.Settings.Merge
import QueryPlayground.Text.Lowercase
import QueryPlayground.Text.Blank

/-!
Overrides of settings by environment variables. Each override names the setting, the variable and the
type of its value.
-/
namespace QueryPlayground

namespace Override

/-- The type that the text of a variable is read as. -/
inductive ValueType where
  | text
  | number
  | boolean
  deriving DecidableEq, Repr

/-- Why a text cannot be read. -/
inductive Fault where
  | notBoolean
  | notNumber (fault : Binary64.ConversionFault)
  deriving DecidableEq, Repr

def Fault.message : Fault → String
  | .notBoolean => "expected boolean (true/false)"
  | .notNumber fault => fault.message

def trueWords : List String := ["1", "true", "yes", "on"]

def falseWords : List String := ["0", "false", "no", "off"]

/-- The value that a text stands for; white space around it does not count. -/
def read (type : ValueType) (raw : String) : Except Fault Scalar :=
  let cleaned := Text.trim raw
  match type with
  | .text => .ok (.str cleaned)
  | .number => ((Binary64.convertText cleaned).map .float).mapError .notNumber
  | .boolean =>
    let lowered := Text.lower cleaned
    if lowered ∈ trueWords then .ok (.bool true)
    else if lowered ∈ falseWords then .ok (.bool false)
    else .error .notBoolean

end Override

/-- A setting that a variable overrides. -/
structure Override where
  sectionName : String
  name : String
  variableName : String
  type : Override.ValueType
  deriving DecidableEq, Repr

namespace Override

/-- The overrides, in the order in which they are applied. -/
def all : List Override :=
  [⟨"service", "base_url", "DBPLAY_SERVICE_URL", .text⟩,
   ⟨"service", "health_path", "DBPLAY_SERVICE_HEALTH_PATH", .text⟩,
   ⟨"service", "query_path", "DBPLAY_SERVICE_QUERY_PATH", .text⟩,
   ⟨"service", "timeout_seconds", "DBPLAY_SERVICE_TIMEOUT", .number⟩,
   ⟨"dispatch", "simulate_latency", "DBPLAY_SIMULATE_LATENCY", .boolean⟩,
   ⟨"session", "default_mode", "DBPLAY_DEFAULT_MODE", .text⟩]

/-- A variable whose text cannot be read. -/
structure BadVariable where
  variableName : String
  raw : String
  fault : Fault
  deriving DecidableEq, Repr

/-- Sets a setting if its variable is set. -/
def apply (env : Environment) (members : Tree.Members) (override : Override) :
    Except BadVariable Tree.Members :=
  match env.lookup override.variableName with
  | none => .ok members
  | some raw =>
    match read override.type raw with
    | .ok value =>
      .ok (Tree.setInSection override.sectionName override.name (.scalar value) members)
    | .error fault => .error ⟨override.variableName, raw, fault⟩

/-- Sets every setting whose variable is set. -/
def applyAll (env : Environment) (members : Tree.Members) : Except BadVariable Tree.Members :=
  all.foldlM (apply env) members

end Override
end QueryPlayground
