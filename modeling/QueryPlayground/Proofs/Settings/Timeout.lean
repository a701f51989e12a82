import Mathlib.Algebra.Group.Int.Defs
import QueryPlayground.CommandLine.Program
import QueryPlayground.Proofs.Binary64.Range
import QueryPlayground.Proofs.Settings.Precedence

/-! The timeout among the settings. An integer that is out of the range of doubles is the one value that
makes settings fail without a word to the user, and a NaN is the one value that passes for a positive
timeout without being one. -/
namespace QueryPlayground

open QueryPlayground.Tree (IsSection Members Settled Unfolded settingIn? settingIn?_eq_some_iff)

/-- Only an integer is too large to be read as a number. -/
theorem Scalar.toNumber_eq_tooLarge_iff {value : Scalar} :
    value.toNumber = .error .tooLarge ↔ ∃ n : Int, value = .int n ∧ Binary64.rangeBound ≤ n.natAbs := by
  cases value with
  | int n => simp [toNumber, Binary64.convertInt_eq_tooLarge_iff]
  | str s =>
      simp only [toNumber, Binary64.convertText]
      split <;> simp
  | bytes b =>
      simp only [toNumber]
      split <;> simp
  | _ => simp [toNumber]

instance decidableEqExcept {ε α : Type} [DecidableEq ε] [DecidableEq α] : DecidableEq (Except ε α)
  | .ok a, .ok b => decidable_of_iff (a = b) ⟨congrArg Except.ok, Except.ok.inj⟩
  | .error a, .error b => decidable_of_iff (a = b) ⟨congrArg Except.error, Except.error.inj⟩
  | .ok _, .error _ => isFalse nofun
  | .error _, .ok _ => isFalse nofun

namespace Settings

variable {members file : Members} {env : Environment} {sourcePath : String} {settings : Settings}

/-! ### Reading a timeout -/

theorem readTimeout_eq_timeoutTooLarge_iff {raw : Tree} :
    readTimeout raw = .error .timeoutTooLarge ↔
      ∃ n : Int, raw = .scalar (.int n) ∧ Binary64.rangeBound ≤ n.natAbs := by
  have hNumber : readTimeout raw = .error .timeoutTooLarge ↔ raw.toNumber = .error .tooLarge := by
    unfold readTimeout
    split
    next => simp [Tree.toNumber, Scalar.toNumber]
    next =>
        cases raw.toNumber with
        | error fault => cases fault <;> simp
        | ok x =>
            dsimp only
            split <;> simp
  rw [hNumber]
  cases raw with
  | scalar value => simp [Tree.toNumber, Scalar.toNumber_eq_tooLarge_iff]
  | _ => simp [Tree.toNumber]

/-! ### The fault that is not told -/

theorem readItem_ne_timeoutTooLarge (tree : Tree) (name : String) :
    readItem tree name ≠ .error .timeoutTooLarge := by
  unfold readItem
  cases tree.item name <;> rintro ⟨⟩

theorem readText_ne_timeoutTooLarge (tree : Tree) (name : String) :
    readText tree name ≠ .error .timeoutTooLarge := by
  unfold readText
  rw [ne_eq, bind_eq_error_iff]
  rintro (h | ⟨value, _, h⟩)
  · exact readItem_ne_timeoutTooLarge tree name h
  · split at h <;> cases h

/-- The settings that are read in front of the timeout. -/
def shownBefore : List Setting := [.baseUrl, .healthPath, .queryPath]

/-- In an unfolded mapping the timeout is too large just if it is an integer out of range, as long as
what is read in front of it can be shown. -/
theorem build_eq_timeoutTooLarge_iff (h : Unfolded members) :
    build members sourcePath = .error .timeoutTooLarge ↔
      (∀ setting ∈ shownBefore, ∃ raw,
        settingIn? members setting.override.sectionName setting.override.name = some raw ∧
          raw.isShowable = true) ∧
      ∃ n : Int, settingIn? members "service" "timeout_seconds" = some (.scalar (.int n)) ∧
        Binary64.rangeBound ≤ n.natAbs := by
  unfold build
  simp only [bind_eq_error_iff, readItem_ne_timeoutTooLarge, readText_ne_timeoutTooLarge, false_or,
    readItem_map_iff, readText_eq_ok_iff, readTimeout_eq_timeoutTooLarge_iff]
  constructor
  · rintro ⟨service, hService, baseUrl, hBase, healthPath, hHealth, queryPath, hQuery, rawTimeout, hTimeout, hFault⟩
    obtain ⟨rawBase, hBase, hBaseShown, _⟩ := hBase
    obtain ⟨rawHealth, hHealth, hHealthShown, _⟩ := hHealth
    obtain ⟨rawQuery, hQuery, hQueryShown, _⟩ := hQuery
    rw [readItem_of_lookup h hService] at hBase hHealth hQuery hTimeout
    refine ⟨?_, ?_⟩
    · simp only [shownBefore, List.forall_mem_cons]
      exact ⟨⟨rawBase, hBase, hBaseShown⟩, ⟨rawHealth, hHealth, hHealthShown⟩, ⟨rawQuery, hQuery, hQueryShown⟩,
        nofun⟩
    · -- What is read behind the timeout fails in other ways.
      rcases hFault with ⟨n, rfl, hRange⟩ | ⟨_, _, _, _, _, _, _, _, mode, _, hMode⟩
      · exact ⟨n, hTimeout, hRange⟩
      · split at hMode <;> cases hMode
  · rintro ⟨hShown, n, hTimeout, hRange⟩
    simp only [shownBefore, List.forall_mem_cons, Setting.override] at hShown
    obtain ⟨⟨rawBase, hBase, hBaseShown⟩, ⟨rawHealth, hHealth, hHealthShown⟩, ⟨rawQuery, hQuery, hQueryShown⟩, _⟩ :=
      hShown
    obtain ⟨inner, hService, _⟩ := settingIn?_eq_some_iff.mp hTimeout
    rw [← readItem_of_lookup h hService] at hBase hHealth hQuery hTimeout
    exact ⟨.map inner, hService, _, ⟨rawBase, hBase, hBaseShown, rfl⟩, _, ⟨rawHealth, hHealth, hHealthShown, rfl⟩, _,
      ⟨rawQuery, hQuery, hQueryShown, rfl⟩, _, hTimeout, .inl ⟨n, rfl, hRange⟩⟩

/-- Overrides that succeed have read the text of every variable that is set. -/
theorem read_of_foldlM_apply {overrides : List Override} {after : Members}
    (h : overrides.foldlM (Override.apply env) members = .ok after) :
    ∀ override ∈ overrides, ∀ raw, env.lookup override.variableName = some raw →
      ∃ value, Override.read override.type raw = .ok value := by
  induction overrides generalizing members with
  | nil => nofun
  | cons first rest ih =>
      rw [List.foldlM_cons, bind_eq_ok_iff] at h
      obtain ⟨between, hFirst, hRest⟩ := h
      refine List.forall_mem_cons.mpr ⟨?_, ih hRest⟩
      intro raw hVariable
      unfold Override.apply at hFirst
      rw [hVariable] at hFirst
      dsimp only at hFirst
      split at hFirst
      next value hRead => exact ⟨value, hRead⟩
      next => cases hFirst

/-- A timeout in a file that is an integer out of range, with no variable in its place. All variables that
are set can be read, and so can what stands in front of the timeout. -/
structure TimeoutOverflows (env : Environment) (file : Members) : Prop where
  readable : ∀ setting : Setting, ∃ raw, setting.Given env file raw
  shown : ∀ setting ∈ shownBefore, ∀ raw, setting.Given env file raw → raw.isShowable = true
  outOfRange : ∃ n : Int, Setting.timeout.Given env file (.scalar (.int n)) ∧ Binary64.rangeBound ≤ n.natAbs

/-- An integer is a timeout just where the file gives one and no variable replaces it. -/
theorem timeout_given_int {n : Int} (h : Setting.timeout.Given env file (.scalar (.int n))) :
    Setting.timeout.variableText? env = none ∧ Setting.timeout.fileValue? file = some (.scalar (.int n)) := by
  cases h with
  | byVariable hVariable hReads => cases hReads
  | byFile hVariable hFile => exact ⟨hVariable, hFile⟩

/-- What the file and the environment have left under a setting is its raw value, unless its section is
missing. -/
theorem settingIn?_applyAll_iff (hFile : Settled file)
    (h : Override.applyAll env (Tree.merge defaults file) = .ok members) (setting : Setting) {raw : Tree} :
    settingIn? members setting.override.sectionName setting.override.name = some raw ↔
      (setting.variableText? env = none → IsSection file setting.override.sectionName) ∧
        setting.Given env file raw := by
  rw [Setting.given_iff]
  obtain ⟨hOwn, _, _⟩ := Override.foldlM_apply_spec all_apart h
  obtain ⟨hValue, hNone⟩ := value?_merge hFile env setting
  rw [hOwn _ (override_mem_all setting)]
  constructor
  · intro hFound
    have hSection : setting.variableText? env = none → IsSection file setting.override.sectionName := by
      refine Classical.byContradiction fun hMissing => ?_
      rw [hNone hMissing] at hFound
      cases hFound
    exact ⟨hSection, hValue hSection ▸ hFound⟩
  · rintro ⟨hSection, hRaw⟩
    rw [hValue hSection, hRaw]

/-- The timeout is too large for a double just if the file gives such an integer and nothing goes wrong
before it is read. -/
theorem ofMembers_eq_timeoutTooLarge_iff (hFile : Settled file) :
    ofMembers file env sourcePath = .error .timeoutTooLarge ↔ TimeoutOverflows env file := by
  have hMerged : Unfolded (Tree.merge defaults file) :=
    Unfolded.merge hFile.single unfolded_defaults hFile.unfolded
  have hUnfolded {members : Members} (h : Override.applyAll env (Tree.merge defaults file) = .ok members) :
      Unfolded members :=
    (Override.foldlM_apply_spec all_apart h).2.2 hMerged
  have hVariables : (Override.applyAll env (Tree.merge defaults file)).mapError SettingsFault.badVariable ≠
      .error .timeoutTooLarge := by
    cases Override.applyAll env (Tree.merge defaults file) <;> rintro ⟨⟩
  unfold ofMembers
  simp only [bind_eq_error_iff, hVariables, false_or, mapError_eq_ok_iff]
  constructor
  · rintro ⟨members, hApplied, hBuild⟩
    obtain ⟨hShown, n, hTimeout, hRange⟩ := (build_eq_timeoutTooLarge_iff (hUnfolded hApplied)).mp hBuild
    refine ⟨?_, ?_, n, ((settingIn?_applyAll_iff hFile hApplied .timeout).mp hTimeout).2, hRange⟩
    · intro setting
      cases hVariable : setting.variableText? env with
      | some text =>
          obtain ⟨value, hRead⟩ := read_of_foldlM_apply hApplied _ (override_mem_all setting) text hVariable
          exact ⟨.scalar value, .byVariable hVariable (Override.reads_iff.mpr hRead)⟩
      | none =>
          cases hValue : setting.fileValue? file with
          | some value => exact ⟨value, .byFile hVariable hValue⟩
          | none => exact ⟨_, .byDefault hVariable hValue⟩
    · intro setting hMem raw hRaw
      obtain ⟨found, hFound, hFoundShown⟩ := hShown setting hMem
      obtain ⟨_, hSame⟩ := (settingIn?_applyAll_iff hFile hApplied setting).mp hFound
      exact hRaw.unique hSame ▸ hFoundShown
  · rintro ⟨hReadable, hShown, n, hTimeout, hRange⟩
    obtain ⟨members, hApplied⟩ :=
      Override.exists_foldlM_apply (exists_read_of_given hReadable) (Tree.merge defaults file)
    -- The file gives the timeout, so it has the section that the other settings stand in.
    have hService : IsSection file "service" := by
      obtain ⟨inner, hInner, _⟩ := settingIn?_eq_some_iff.mp (timeout_given_int hTimeout).2
      intro value hValue
      exact ⟨inner, Option.some.inj (hValue.symm.trans hInner)⟩
    refine ⟨members, hApplied, (build_eq_timeoutTooLarge_iff (hUnfolded hApplied)).mpr ⟨?_, n, ?_, hRange⟩⟩
    · intro setting hMem
      have hSection : setting.override.sectionName = "service" := by
        simp only [shownBefore, List.mem_cons, List.not_mem_nil, or_false] at hMem
        rcases hMem with rfl | rfl | rfl <;> rfl
      obtain ⟨raw, hRaw⟩ := hReadable setting
      exact ⟨raw, (settingIn?_applyAll_iff hFile hApplied setting).mpr ⟨fun _ => hSection ▸ hService, hRaw⟩,
        hShown setting hMem raw hRaw⟩
    · exact (settingIn?_applyAll_iff hFile hApplied .timeout).mpr ⟨fun _ => hService, hTimeout⟩

/-- A mapping gives settings or a fault that the user is told, whatever it and the environment hold, unless
the timeout overflows. Then the fault is one that is not told. -/
theorem ofMembers_told_iff (hFile : Settled file) (env : Environment) (sourcePath : String) :
    (((∃ settings, ofMembers file env sourcePath = .ok settings) ∨
        ∃ fault, ofMembers file env sourcePath = .error fault ∧
          CommandLine.isTold (.settings fault) = true) ↔ ¬TimeoutOverflows env file) ∧
      (TimeoutOverflows env file → ofMembers file env sourcePath = .error .timeoutTooLarge ∧
        CommandLine.isTold (.settings .timeoutTooLarge) = false) := by
  have hOverflows : ofMembers file env sourcePath = .error .timeoutTooLarge ↔ TimeoutOverflows env file :=
    ofMembers_eq_timeoutTooLarge_iff hFile
  have hTold (fault : SettingsFault) :
      CommandLine.isTold (.settings fault) = true ↔ fault ≠ .timeoutTooLarge := by
    cases fault <;> simp [CommandLine.isTold]
  refine ⟨?_, fun h => ⟨hOverflows.mpr h, rfl⟩⟩
  rw [← hOverflows]
  cases ofMembers file env sourcePath with
  | ok settings => simp
  | error fault => simp [hTold]

/-- A timeout of a one with four hundred zeros, in a mapping that says nothing else. -/
theorem ofMembers_huge_timeout :
    let file := Tree.ofMembers [("service", .obj [("timeout_seconds", .int (10 ^ 400))])]
    ¬((∃ settings, ofMembers file [] "config.yaml" = .ok settings) ∨
      ∃ fault, ofMembers file [] "config.yaml" = .error fault ∧
        CommandLine.isTold (.settings fault) = true) := by
  intro file
  have hFault : ofMembers file [] "config.yaml" = .error .timeoutTooLarge := by decide +kernel
  rw [hFault]
  rintro (⟨settings, h⟩ | ⟨fault, h, hTold⟩)
  · cases h
  · cases h
    cases hTold

/-- The same mapping, with and without a variable that replaces its timeout. -/
theorem ofMembers_told_iff_huge_timeout :
    let file := Tree.ofMembers [("service", .obj [("timeout_seconds", .int (10 ^ 400))])]
    let env : Environment := [("DBPLAY_SERVICE_TIMEOUT", "2.5")]
    Settled file ∧
      (TimeoutOverflows [] file ∧ ofMembers file [] "config.yaml" = .error .timeoutTooLarge ∧
        CommandLine.isTold (.settings .timeoutTooLarge) = false) ∧
      ¬TimeoutOverflows env file := by
  intro file env
  have hSettled : Settled file := Tree.settled_section _ (List.pairwise_singleton _ _)
  have hFault : ofMembers file [] "config.yaml" = .error .timeoutTooLarge := by decide +kernel
  have hReplaced : (ofMembers file env "config.yaml").toOption.isSome := by decide +kernel
  obtain ⟨settings, hSettings⟩ := Option.isSome_iff_exists.mp hReplaced
  have hOverflows : TimeoutOverflows [] file := (ofMembers_eq_timeoutTooLarge_iff hSettled).mp hFault
  refine ⟨hSettled, ⟨hOverflows, (ofMembers_told_iff hSettled [] "config.yaml").2 hOverflows⟩, ?_⟩
  exact (ofMembers_told_iff hSettled env "config.yaml").1.mp (.inl ⟨settings, toOption_eq_some_iff.mp hSettings⟩)

/-! ### Positive timeouts -/

/-- What can be changed in settings once they are built. -/
inductive Change where
  | serviceUrl (url : String)
  | withoutLatency
  deriving DecidableEq, Repr

def Change.apply (settings : Settings) : Change → Settings
  | .serviceUrl url => settings.withServiceUrl url
  | .withoutLatency => settings.withoutLatency

/-- No change has a part in the timeout. -/
theorem foldl_apply_timeout (changes : List Change) (settings : Settings) :
    (changes.foldl Change.apply settings).timeout = settings.timeout := by
  induction changes generalizing settings with
  | nil => rfl
  | cons change changes ih =>
      rw [List.foldl_cons, ih]
      cases change <;> rfl

/-- The timeout is given as a NaN: by its variable, or by the file if that is not set. -/
def TimeoutIsNaN (env : Environment) (file : Members) : Prop :=
  ∃ raw, Setting.timeout.Given env file raw ∧ raw.Denotes .nan

/-- The timeout of settings is none or positive, however they are changed, unless it was given as a NaN.
Such a one is kept. -/
theorem foldl_apply_timeout_positive_iff (hFile : Settled file)
    (hSettings : ofMembers file env sourcePath = .ok settings) (changes : List Change) :
    (((changes.foldl Change.apply settings).timeout = none ∨
        ∃ t, (changes.foldl Change.apply settings).timeout = some t ∧ Binary64.lt .zero t = true) ↔
          ¬TimeoutIsNaN env file) ∧
      (TimeoutIsNaN env file → (changes.foldl Change.apply settings).timeout = some .nan) := by
  rw [foldl_apply_timeout]
  obtain ⟨_, hValues, _⟩ := (ofMembers_eq_ok_iff hFile).mp hSettings
  obtain ⟨raw, hRaw, hForm⟩ := Option.bind_eq_some_iff.mp (hValues .timeout)
  have hRead : readTimeout raw = .ok settings.timeout := by
    simpa only [Setting.normalForm, value, Option.map_eq_some_iff, Setting.Value.timeout.injEq,
      toOption_eq_some_iff, exists_eq_right] using hForm
  have hNaN : TimeoutIsNaN env file ↔ raw.toNumber = .ok .nan := by
    simp only [TimeoutIsNaN, Setting.given_iff, Tree.denotes_iff, hRaw, Option.some.injEq, exists_eq_left']
  rw [hNaN]
  rcases readTimeout_eq_ok_iff.mp hRead with ⟨rfl, hNone⟩ | ⟨x, hNumber, hSign, hSome⟩
  · simp [hNone, Tree.toNumber, Scalar.toNumber]
  · rw [hNumber, hSome]
    rcases (Binary64.le_zero_eq_false_iff x).mp hSign with hPositive | rfl
    · have hNumber : x ≠ .nan := by
        rintro rfl
        cases hPositive
      simp [hPositive, hNumber]
    · simp [Binary64.lt, Binary64.zero]

/-- An environment whose timeout is the word for a NaN, and which says nothing else. -/
theorem ofMembers_nan_timeout :
    ∃ settings, ofMembers [] [("DBPLAY_SERVICE_TIMEOUT", "nan")] "config.yaml" = .ok settings ∧
      ¬(settings.timeout = none ∨ ∃ t, settings.timeout = some t ∧ Binary64.lt .zero t = true) := by
  have hTimeout : (ofMembers [] [("DBPLAY_SERVICE_TIMEOUT", "nan")] "config.yaml").toOption.any
      (fun settings => settings.timeout = some .nan) := by
    decide +kernel
  obtain ⟨settings, hSettings, hTimeout⟩ := (Option.any_eq_true _ _).mp hTimeout
  refine ⟨settings, toOption_eq_some_iff.mp hSettings, ?_⟩
  rw [of_decide_eq_true hTimeout]
  rintro (h | ⟨t, h, hPositive⟩)
  · cases h
  · cases h
    cases hPositive

/-- The text of a timeout in a file, and a signed NaN in the place of it, behind both kinds of changes. -/
theorem foldl_apply_timeout_positive_iff_text :
    let file := Tree.ofMembers [("service", .obj [("timeout_seconds", .str " 2_5e-1 ")])]
    let env : Environment := [("DBPLAY_SERVICE_TIMEOUT", "-NaN")]
    let changes : List Change := [.serviceUrl "http://db.test/", .withoutLatency]
    Settled file ∧
      (∃ settings, ofMembers file [] "config.yaml" = .ok settings ∧
        ((changes.foldl Change.apply settings).timeout = none ∨
          ∃ t, (changes.foldl Change.apply settings).timeout = some t ∧ Binary64.lt .zero t = true)) ∧
      ∃ settings, ofMembers file env "config.yaml" = .ok settings ∧
        (changes.foldl Change.apply settings).timeout = some .nan := by
  intro file env changes
  have hSettled : Settled file := Tree.settled_section _ (List.pairwise_singleton _ _)
  have hGiven : (ofMembers file [] "config.yaml").toOption.isSome := by decide +kernel
  have hReplaced : (ofMembers file env "config.yaml").toOption.isSome := by decide +kernel
  obtain ⟨given, hGiven⟩ := Option.isSome_iff_exists.mp hGiven
  obtain ⟨replaced, hReplaced⟩ := Option.isSome_iff_exists.mp hReplaced
  rw [toOption_eq_some_iff] at hGiven hReplaced
  refine ⟨hSettled, ⟨given, hGiven, ?_⟩, replaced, hReplaced, ?_⟩
  · refine (foldl_apply_timeout_positive_iff hSettled hGiven changes).1.mpr ?_
    rintro ⟨raw, hRaw, hNumber⟩
    rw [Setting.given_iff] at hRaw
    cases hRaw
    rw [Tree.denotes_iff] at hNumber
    revert hNumber
    decide +kernel
  · refine (foldl_apply_timeout_positive_iff hSettled hReplaced changes).2 ?_
    exact ⟨.scalar (.float .nan), Setting.given_iff.mpr rfl, .scalar (.float .nan)⟩

end Settings
end QueryPlayground
