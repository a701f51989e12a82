import QueryPlayground.Proofs.Binary64.Range
import QueryPlayground.Proofs.Except
import QueryPlayground.Proofs.Settings.Members
import QueryPlayground.Proofs.Text.Trim
import QueryPlayground.Settings.Basic

/-! What is given for a setting, and what form it takes. Both are said here as relations, by the kinds of values
and without the functions that build settings, and then shown to be what two functions compute. -/
namespace QueryPlayground

open QueryPlayground.Tree (Members settingIn?)

/-! ### Numbers and truth values -/

/-- The number that a scalar is or that its text denotes, unless it is an integer out of range. -/
inductive Scalar.Denotes : Scalar → Binary64 → Prop where
  | float (x : Binary64) : Denotes (.float x) x
  | int {n : Int} (h : (Binary64.ofInt n).isFinite = true) : Denotes (.int n) (Binary64.ofInt n)
  | no : Denotes (.bool false) (Binary64.ofInt 0)
  | yes : Denotes (.bool true) (Binary64.ofInt 1)
  | text {s : String} {x : Binary64} (h : Binary64.ofText? s.toList = some x) : Denotes (.str s) x
  | bytes {b : List UInt8} {x : Binary64} (hAscii : ∀ y ∈ b, y.toNat < 0x80)
      (h : Binary64.ofText? (b.map fun y => Char.ofNat y.toNat) = some x) : Denotes (.bytes b) x

/-- Only a scalar denotes a number. -/
inductive Tree.Denotes : Tree → Binary64 → Prop where
  | scalar {value : Scalar} {x : Binary64} (h : value.Denotes x) : Denotes (.scalar value) x

theorem Scalar.denotes_iff {value : Scalar} {x : Binary64} : value.Denotes x ↔ value.toNumber = .ok x := by
  constructor
  · rintro (_ | h | _ | _ | h | ⟨hAscii, h⟩)
    · rfl
    · exact if_pos h
    · rfl
    · rfl
    · simp only [toNumber, Binary64.convertText, h]
    · have hPlain : _ = true := List.all_eq_true.mpr fun y hy => decide_eq_true (hAscii y hy)
      simp only [toNumber, hPlain, h]
  · intro h
    cases value with
    | float y =>
        cases h
        exact .float x
    | int n =>
        simp only [toNumber, Binary64.convertInt] at h
        split at h
        next hFinite =>
            cases h
            exact .int hFinite
        next => cases h
    | bool b =>
        cases h
        cases b with
        | false => exact .no
        | true => exact .yes
    | str s =>
        simp only [toNumber, Binary64.convertText] at h
        split at h
        next y hText =>
            cases h
            exact .text hText
        next => cases h
    | bytes b =>
        simp only [toNumber] at h
        split at h
        next y hAscii hText =>
            cases h
            exact .bytes (fun y hy => of_decide_eq_true (List.all_eq_true.mp hAscii y hy)) hText
        next => cases h
    | _ => cases h

theorem Tree.denotes_iff {tree : Tree} {x : Binary64} : tree.Denotes x ↔ tree.toNumber = .ok x := by
  cases tree with
  | scalar value => exact ⟨fun ⟨h⟩ => Scalar.denotes_iff.mp h, fun h => .scalar (Scalar.denotes_iff.mpr h)⟩
  | _ => exact ⟨nofun, nofun⟩

/-- Null, the word for no, both zeros and what is empty count as false. -/
inductive Scalar.IsFalse : Scalar → Prop where
  | null : IsFalse .null
  | no : IsFalse (.bool false)
  | int : IsFalse (.int 0)
  | float (negative : Bool) (exponent : Int) : IsFalse (.float (.finite negative 0 exponent))
  | text : IsFalse (.str "")
  | bytes : IsFalse (.bytes [])

inductive Piece.IsFalse : Piece → Prop where
  | scalar {value : Scalar} (h : value.IsFalse) : IsFalse (.scalar value)
  | list : IsFalse (.list [])
  | pairs : IsFalse (.pairs [])
  | set : IsFalse (.set [])
  | map : IsFalse (.map [])

inductive Tree.IsFalse : Tree → Prop where
  | scalar {value : Scalar} (h : value.IsFalse) : IsFalse (.scalar value)
  | list : IsFalse (.list [])
  | map : IsFalse (.map [])
  | held {graph : Graph} {place : Nat} (h : (graph.piece place).IsFalse) : IsFalse (.held graph place)

theorem Scalar.isFalse_iff {value : Scalar} : value.IsFalse ↔ value.isTruthy = false := by
  constructor
  · rintro (_ | _ | _ | _ | _ | _) <;> rfl
  · intro h
    cases value with
    | null => exact .null
    | bool b =>
        obtain rfl : b = false := h
        exact .no
    | int n =>
        obtain rfl : n = 0 := by simpa [isTruthy] using h
        exact .int
    | float x =>
        have hZero : x.isZero = true := by simpa [isTruthy] using h
        cases x with
        | finite negative mantissa exponent =>
            obtain rfl : mantissa = 0 := beq_iff_eq.mp hZero
            exact .float negative exponent
        | _ => cases hZero
    | str s =>
        obtain rfl : s = "" := by simpa [isTruthy] using h
        exact .text
    | bytes b =>
        obtain rfl : b = [] := by simpa [isTruthy] using h
        exact .bytes
    | _ => cases h

theorem Piece.isFalse_iff {piece : Piece} : piece.IsFalse ↔ piece.isTruthy = false := by
  constructor
  · rintro (h | _ | _ | _ | _)
    · exact Scalar.isFalse_iff.mp h
    all_goals rfl
  · intro h
    cases piece with
    | scalar value => exact .scalar (Scalar.isFalse_iff.mpr h)
    | list items =>
        obtain rfl : items = [] := by simpa [isTruthy] using h
        exact .list
    | pairs items =>
        obtain rfl : items = [] := by simpa [isTruthy] using h
        exact .pairs
    | set members =>
        obtain rfl : members = [] := by simpa [isTruthy] using h
        exact .set
    | map members =>
        obtain rfl : members = [] := by simpa [isTruthy] using h
        exact .map

theorem Tree.isFalse_iff {tree : Tree} : tree.IsFalse ↔ tree.isTruthy = false := by
  constructor
  · rintro (h | _ | _ | h)
    · exact Scalar.isFalse_iff.mp h
    · rfl
    · rfl
    · exact Piece.isFalse_iff.mp h
  · intro h
    cases tree with
    | scalar value => exact .scalar (Scalar.isFalse_iff.mpr h)
    | list items =>
        obtain rfl : items = [] := by simpa [isTruthy] using h
        exact .list
    | map members =>
        obtain rfl : members = [] := by simpa [isTruthy] using h
        exact .map
    | held graph place => exact .held (Piece.isFalse_iff.mpr h)

/-! ### What is given -/

/-- What the text of a variable is read as; white space around it does not count. -/
inductive Override.Reads : ValueType → String → Scalar → Prop where
  | text (raw : String) : Reads .text raw (.str (Text.trim raw))
  | number {raw : String} {x : Binary64} (h : (Scalar.str (Text.trim raw)).Denotes x) : Reads .number raw (.float x)
  | yes {raw : String} (h : Text.lower (Text.trim raw) ∈ ["1", "true", "yes", "on"]) :
      Reads .boolean raw (.bool true)
  | no {raw : String} (h : Text.lower (Text.trim raw) ∈ ["0", "false", "no", "off"]) :
      Reads .boolean raw (.bool false)

theorem Override.read_boolean_of_falseWord {text : String} (h : Text.lower (Text.trim text) ∈ falseWords) :
    read .boolean text = .ok (.bool false) := by
  have hFalse : Text.lower (Text.trim text) ∉ trueWords := by
    revert h
    generalize Text.lower (Text.trim text) = word
    simp only [falseWords, trueWords, List.mem_cons, List.not_mem_nil, or_false]
    rintro (rfl | rfl | rfl | rfl) <;> decide
  simp only [read, if_neg hFalse, if_pos h]

theorem Override.reads_iff {type : ValueType} {raw : String} {value : Scalar} :
    Reads type raw value ↔ read type raw = .ok value := by
  constructor
  · rintro (_ | h | h | h)
    · rfl
    · rw [Scalar.denotes_iff, Scalar.toNumber] at h
      simp only [read, h, Except.map, Except.mapError]
    · have hTrue : Text.lower (Text.trim raw) ∈ trueWords := h
      simp only [read, if_pos hTrue]
    · exact read_boolean_of_falseWord h
  · intro h
    cases type with
    | text =>
        cases h
        exact .text raw
    | number =>
        simp only [read, mapError_eq_ok_iff] at h
        cases hText : Binary64.convertText (Text.trim raw) with
        | error fault =>
            rw [hText] at h
            cases h
        | ok x =>
            rw [hText] at h
            cases h
            exact .number (Scalar.denotes_iff.mpr (by rw [Scalar.toNumber, hText]))
    | boolean =>
        simp only [read] at h
        split at h
        next hTrue =>
            cases h
            exact .yes hTrue
        next =>
            split at h
            next hFalse =>
                cases h
                exact .no hFalse
            next => cases h

inductive Setting where
  | baseUrl
  | healthPath
  | queryPath
  | timeout
  | simulateLatency
  | defaultMode
  deriving DecidableEq, Repr

namespace Setting

instance {p : Setting → Prop} [DecidablePred p] : Decidable (∀ setting, p setting) :=
  decidable_of_iff
    (p .baseUrl ∧ p .healthPath ∧ p .queryPath ∧ p .timeout ∧ p .simulateLatency ∧ p .defaultMode)
    ⟨fun ⟨h₁, h₂, h₃, h₄, h₅, h₆⟩ setting => by cases setting <;> assumption, fun h =>
      ⟨h _, h _, h _, h _, h _, h _⟩⟩

/-- Where a setting stands, and the variable that overrides it. -/
def override : Setting → Override
  | .baseUrl => ⟨"service", "base_url", "DBPLAY_SERVICE_URL", .text⟩
  | .healthPath => ⟨"service", "health_path", "DBPLAY_SERVICE_HEALTH_PATH", .text⟩
  | .queryPath => ⟨"service", "query_path", "DBPLAY_SERVICE_QUERY_PATH", .text⟩
  | .timeout => ⟨"service", "timeout_seconds", "DBPLAY_SERVICE_TIMEOUT", .number⟩
  | .simulateLatency => ⟨"dispatch", "simulate_latency", "DBPLAY_SIMULATE_LATENCY", .boolean⟩
  | .defaultMode => ⟨"session", "default_mode", "DBPLAY_DEFAULT_MODE", .text⟩

/-- The value of a setting when nothing else is said. -/
def default : Setting → Scalar
  | .baseUrl => .str "http://localhost:8080"
  | .healthPath => .str "/"
  | .queryPath => .str "/api/query"
  | .timeout => .float (Binary64.ofInt 10)
  | .simulateLatency => .bool true
  | .defaultMode => .str "sql"

/-- The text of a variable for a setting. -/
def variableText? (setting : Setting) (env : Environment) : Option String :=
  env.lookup setting.override.variableName

/-- What a file says about a setting. -/
def fileValue? (setting : Setting) (file : Members) : Option Tree :=
  settingIn? file setting.override.sectionName setting.override.name

/-- The raw value of a setting: what its variable is read as, if it is set, else what the file says, else the
default. -/
inductive Given (env : Environment) (file : Members) (setting : Setting) : Tree → Prop where
  | byVariable {text : String} {value : Scalar} (hVariable : setting.variableText? env = some text)
      (hReads : Override.Reads setting.override.type text value) : Given env file setting (.scalar value)
  | byFile {value : Tree} (hVariable : setting.variableText? env = none)
      (hFile : setting.fileValue? file = some value) : Given env file setting value
  | byDefault (hVariable : setting.variableText? env = none) (hFile : setting.fileValue? file = none) :
      Given env file setting (.scalar setting.default)

/-- The raw value of a setting, computed. -/
def rawValue (setting : Setting) (env : Environment) (file : Members) : Option Tree :=
  match setting.variableText? env with
  | some raw => (Override.read setting.override.type raw).toOption.map .scalar
  | none => some ((setting.fileValue? file).getD (.scalar setting.default))

theorem given_iff {env : Environment} {file : Members} {setting : Setting} {raw : Tree} :
    setting.Given env file raw ↔ setting.rawValue env file = some raw := by
  unfold rawValue
  constructor
  · rintro (⟨hVariable, hReads⟩ | ⟨hVariable, hFile⟩ | ⟨hVariable, hFile⟩)
    · simp only [hVariable, Override.reads_iff.mp hReads, Except.toOption, Option.map_some]
    · simp only [hVariable, hFile, Option.getD_some]
    · simp only [hVariable, hFile, Option.getD_none]
  · intro h
    split at h
    next text hVariable =>
        obtain ⟨value, hRead, rfl⟩ := Option.map_eq_some_iff.mp h
        exact .byVariable hVariable (Override.reads_iff.mpr (toOption_eq_some_iff.mp hRead))
    next hVariable =>
        cases hFile : setting.fileValue? file with
        | some value =>
            rw [hFile] at h
            cases h
            exact .byFile hVariable hFile
        | none =>
            rw [hFile] at h
            cases h
            exact .byDefault hVariable hFile

theorem Given.unique {env : Environment} {file : Members} {setting : Setting} {raw other : Tree}
    (h : setting.Given env file raw) (hOther : setting.Given env file other) : other = raw :=
  Option.some.inj ((given_iff.mp hOther).symm.trans (given_iff.mp h))

/-! ### The forms -/

/-- The values that settings have in the end. -/
inductive Value where
  | text (text : String)
  | timeout (seconds : Option Binary64)
  | flag (flag : Bool)
  deriving DecidableEq, Repr

/-- The form of a raw value: an address without the slashes at its end, the text of a path, no timeout for null
and else a number that is not zero or less, the truth value, the trimmed text of a mode in lower case. What is
kept as a text must have a text to show. -/
inductive HasForm : Setting → Tree → Value → Prop where
  | baseUrl {raw : Tree} {url : String} {n : Nat} (hShown : raw.isShowable = true)
      (hText : raw.display = url ++ String.ofList (List.replicate n '/'))
      (hEnd : url.toList.getLast? ≠ some '/') : HasForm .baseUrl raw (.text url)
  | healthPath {raw : Tree} (hShown : raw.isShowable = true) : HasForm .healthPath raw (.text raw.display)
  | queryPath {raw : Tree} (hShown : raw.isShowable = true) : HasForm .queryPath raw (.text raw.display)
  | noTimeout : HasForm .timeout (.scalar .null) (.timeout none)
  | timeout {raw : Tree} {x : Binary64} (hDenotes : raw.Denotes x) (h : Binary64.lt .zero x = true ∨ x = .nan) :
      HasForm .timeout raw (.timeout (some x))
  | latency {raw : Tree} (h : ¬raw.IsFalse) : HasForm .simulateLatency raw (.flag true)
  | noLatency {raw : Tree} (h : raw.IsFalse) : HasForm .simulateLatency raw (.flag false)
  | mode {raw : Tree} (hShown : raw.isShowable = true)
      (h : Text.lower (Text.trim raw.display) ∈ ["sql", "nosql", "cache"]) :
      HasForm .defaultMode raw (.text (Text.lower (Text.trim raw.display)))

/-- The form of a value, computed. -/
def normalForm : Setting → Tree → Option Value
  | .baseUrl, raw => if raw.isShowable then some (.text (Settings.normalUrl raw.display)) else none
  | .healthPath, raw => if raw.isShowable then some (.text raw.display) else none
  | .queryPath, raw => if raw.isShowable then some (.text raw.display) else none
  | .timeout, raw => (Settings.readTimeout raw).toOption.map .timeout
  | .simulateLatency, raw => some (.flag raw.isTruthy)
  | .defaultMode, raw =>
    let mode := Settings.normalMode raw.display
    if raw.isShowable ∧ mode ∈ Settings.validModes then some (.text mode) else none

end Setting

theorem Settings.readTimeout_eq_ok_iff {raw : Tree} {timeout : Option Binary64} :
    readTimeout raw = .ok timeout ↔
      raw = .scalar .null ∧ timeout = none ∨
        ∃ x, raw.toNumber = .ok x ∧ x.le .zero = false ∧ timeout = some x := by
  by_cases hNull : raw = .scalar .null
  · subst hNull
    simp [readTimeout, Tree.toNumber, Scalar.toNumber, @eq_comm _ none]
  · unfold readTimeout
    split
    next => exact absurd rfl hNull
    next =>
        cases hNumber : raw.toNumber with
        | error fault => cases fault <;> simp [hNull]
        | ok x => cases hSign : x.le .zero <;> simp [hNull, hSign, @eq_comm _ (some x)]

namespace Setting

theorem hasForm_timeout_iff {raw : Tree} {value : Value} :
    HasForm .timeout raw value ↔ ∃ timeout, Settings.readTimeout raw = .ok timeout ∧ .timeout timeout = value := by
  simp only [Settings.readTimeout_eq_ok_iff, Binary64.le_zero_eq_false_iff, ← Tree.denotes_iff]
  constructor
  · rintro (_ | _ | _ | _ | ⟨hDenotes, h⟩)
    · exact ⟨none, .inl ⟨rfl, rfl⟩, rfl⟩
    · exact ⟨some _, .inr ⟨_, hDenotes, h, rfl⟩, rfl⟩
  · rintro ⟨timeout, ⟨rfl, rfl⟩ | ⟨x, hDenotes, h, rfl⟩, rfl⟩
    · exact .noTimeout
    · exact .timeout hDenotes h

theorem hasForm_iff {setting : Setting} {raw : Tree} {value : Value} :
    setting.HasForm raw value ↔ setting.normalForm raw = some value := by
  cases setting with
  | baseUrl =>
      simp only [normalForm, Option.ite_none_right_eq_some, Option.some.injEq]
      constructor
      · rintro ⟨hShown, hText, hEnd⟩
        exact ⟨hShown, congrArg Value.text (Text.dropTrailing_eq_iff.mpr ⟨⟨_, hText⟩, hEnd⟩)⟩
      · rintro ⟨hShown, rfl⟩
        obtain ⟨⟨n, hText⟩, hEnd⟩ := Text.dropTrailing_eq_iff.mp (rfl : Settings.normalUrl raw.display = _)
        exact .baseUrl hShown hText hEnd
  | healthPath =>
      simp only [normalForm, Option.ite_none_right_eq_some, Option.some.injEq]
      exact ⟨fun | .healthPath hShown => ⟨hShown, rfl⟩, fun ⟨hShown, h⟩ => h ▸ .healthPath hShown⟩
  | queryPath =>
      simp only [normalForm, Option.ite_none_right_eq_some, Option.some.injEq]
      exact ⟨fun | .queryPath hShown => ⟨hShown, rfl⟩, fun ⟨hShown, h⟩ => h ▸ .queryPath hShown⟩
  | timeout =>
      simp only [hasForm_timeout_iff, normalForm, Option.map_eq_some_iff, toOption_eq_some_iff]
  | simulateLatency =>
      simp only [normalForm, Option.some.injEq]
      constructor
      · rintro (_ | _ | _ | _ | _ | h | h)
        · rw [Tree.isFalse_iff, Bool.not_eq_false] at h
          rw [h]
        · rw [Tree.isFalse_iff.mp h]
      · rintro rfl
        cases h : raw.isTruthy with
        | true => exact .latency fun hFalse => absurd (Tree.isFalse_iff.mp hFalse) (by rw [h]; decide)
        | false => exact .noLatency (Tree.isFalse_iff.mpr h)
  | defaultMode =>
      simp only [normalForm, Option.ite_none_right_eq_some, Option.some.injEq]
      exact ⟨fun | .mode hShown hMode => ⟨⟨hShown, hMode⟩, rfl⟩, fun ⟨⟨hShown, hMode⟩, h⟩ => h ▸ .mode hShown hMode⟩

/-- Two answers about a setting that come to the same: both say nothing, or what they say has the same forms. -/
def SameForms (setting : Setting) : Option Tree → Option Tree → Prop :=
  Option.Rel fun raw other => ∀ value, setting.HasForm raw value ↔ setting.HasForm other value

theorem sameForms_iff {setting : Setting} {raw? other? : Option Tree} :
    setting.SameForms raw? other? ↔ raw?.map setting.normalForm = other?.map setting.normalForm := by
  have hForms {raw other : Tree} : (∀ value, setting.HasForm raw value ↔ setting.HasForm other value) ↔
      setting.normalForm raw = setting.normalForm other := by
    simp only [hasForm_iff]
    exact ⟨fun h => Option.ext h, fun h value => by rw [h]⟩
  cases raw? with
  | none => cases other? <;> simp [SameForms]
  | some raw => cases other? <;> simp [SameForms, hForms]

end Setting

/-- The value of a setting. -/
def Settings.value (settings : Settings) : Setting → Setting.Value
  | .baseUrl => .text settings.baseUrl
  | .healthPath => .text settings.healthPath
  | .queryPath => .text settings.queryPath
  | .timeout => .timeout settings.timeout
  | .simulateLatency => .flag settings.simulateLatency
  | .defaultMode => .text settings.defaultMode

end QueryPlayground
