import QueryPlayground.Proofs.Settings.Forms
import QueryPlayground.Proofs.Yaml.Names

/-! Which of three layers decides a setting. A variable of the environment goes before the file, and the
file before the defaults, for each of the six settings on its own: neither the form of the other sections
of the file nor any other variable has a part in it. -/
namespace QueryPlayground

open QueryPlayground.Tree (IsSection Members Settled Unfolded settingIn? settingIn?_eq_some_iff settingIn?_merge
  settingIn?_setInSection)

/-! ### Variables -/

namespace Override

variable {env : Environment}

/-- What an override makes of the value of its setting. -/
def value? (override : Override) (env : Environment) (before : Option Tree) : Option Tree :=
  match env.lookup override.variableName with
  | none => before
  | some raw => (read override.type raw).toOption.map .scalar

/-- Two overrides of different settings. -/
def Apart (override other : Override) : Prop :=
  ¬(other.sectionName = override.sectionName ∧ other.name = override.name)

instance (override other : Override) : Decidable (override.Apart other) := inferInstanceAs (Decidable (¬_))

/-- An override changes its own setting, and no other one. -/
theorem apply_spec {override : Override} {members after : Members} (h : apply env members override = .ok after) :
    (∀ sectionName name, settingIn? after sectionName name =
        if sectionName = override.sectionName ∧ name = override.name then
          override.value? env (settingIn? members sectionName name)
        else settingIn? members sectionName name) ∧
      (Unfolded members → Unfolded after) := by
  unfold apply at h
  unfold value?
  cases hVariable : env.lookup override.variableName with
  | none =>
      rw [hVariable] at h
      cases h
      refine ⟨fun sectionName name => ?_, id⟩
      dsimp only
      rw [ite_self]
  | some raw =>
      rw [hVariable] at h
      dsimp only at h ⊢
      cases hRead : read override.type raw with
      | error fault =>
          rw [hRead] at h
          cases h
      | ok value =>
          rw [hRead] at h
          cases h
          exact ⟨fun sectionName name => settingIn?_setInSection _ _ _ _ _ _, fun hUnfolded =>
            hUnfolded.setInSection _ _ _⟩

/-- Overrides after each other change their own settings, each one for itself. -/
theorem foldlM_apply_spec {overrides : List Override} (hApart : overrides.Pairwise Apart)
    {members after : Members} (h : overrides.foldlM (apply env) members = .ok after) :
    (∀ override ∈ overrides, settingIn? after override.sectionName override.name =
        override.value? env (settingIn? members override.sectionName override.name)) ∧
      (∀ sectionName name,
        (∀ override ∈ overrides, ¬(sectionName = override.sectionName ∧ name = override.name)) →
          settingIn? after sectionName name = settingIn? members sectionName name) ∧
      (Unfolded members → Unfolded after) := by
  induction overrides generalizing members with
  | nil =>
      cases h
      exact ⟨by simp, fun _ _ _ => rfl, id⟩
  | cons first rest ih =>
      rw [List.foldlM_cons] at h
      cases hFirst : apply env members first with
      | error fault =>
          rw [hFirst] at h
          cases h
      | ok between =>
          rw [hFirst] at h
          obtain ⟨hNotFirst, hRest⟩ := List.pairwise_cons.mp hApart
          obtain ⟨hSetting, hUnfolded⟩ := apply_spec hFirst
          obtain ⟨hOwn, hOther, hUnfolded'⟩ := ih hRest h
          refine ⟨?_, ?_, fun hMembers => hUnfolded' (hUnfolded hMembers)⟩
          · intro override hMem
            rcases List.mem_cons.mp hMem with rfl | hMem
            · rw [hOther _ _ fun other hOther hSame => hNotFirst other hOther
                ⟨hSame.1.symm, hSame.2.symm⟩, hSetting, if_pos ⟨rfl, rfl⟩]
            · rw [hOwn override hMem, hSetting, if_neg (hNotFirst override hMem)]
          · intro sectionName name hNone
            rw [hOther _ _ fun override hMem => hNone override (List.mem_cons_of_mem _ hMem), hSetting,
              if_neg (hNone first List.mem_cons_self)]

/-- Overrides succeed as long as the texts of their variables can be read. -/
theorem exists_foldlM_apply {overrides : List Override}
    (h : ∀ override ∈ overrides, ∀ raw, env.lookup override.variableName = some raw →
      ∃ value, read override.type raw = .ok value) (members : Members) :
    ∃ after, overrides.foldlM (apply env) members = .ok after := by
  induction overrides generalizing members with
  | nil => exact ⟨members, rfl⟩
  | cons first rest ih =>
      have hFirst : ∃ between, apply env members first = .ok between := by
        unfold apply
        cases hVariable : env.lookup first.variableName with
        | none => exact ⟨_, rfl⟩
        | some raw =>
            obtain ⟨value, hRead⟩ := h first List.mem_cons_self raw hVariable
            simp only [hRead]
            exact ⟨_, rfl⟩
      obtain ⟨between, hFirst⟩ := hFirst
      obtain ⟨after, hAfter⟩ := ih (fun override hMem => h override (List.mem_cons_of_mem _ hMem)) between
      refine ⟨after, ?_⟩
      rw [List.foldlM_cons, hFirst]
      exact hAfter

end Override

/-! ### From sections to settings -/

namespace Settings

variable {members : Members}

theorem readItem_map_iff {name : String} {value : Tree} :
    readItem (.map members) name = .ok value ↔ members.lookup (.str name) = some value := by
  rw [readItem, mapError_eq_ok_iff, Tree.item]
  cases members.lookup (.str name) with
  | none => exact ⟨nofun, nofun⟩
  | some found => simp

/-- A setting is read from an unfolded mapping just as it stands there. -/
theorem readItem_of_lookup (h : Unfolded members) {sectionName name : String} {inner value : Tree}
    (hSection : members.lookup (.str sectionName) = some inner) :
    readItem inner name = .ok value ↔ settingIn? members sectionName name = some value := by
  by_cases hMap : ∃ settings, inner = .map settings
  · obtain ⟨settings, rfl⟩ := hMap
    rw [settingIn?, Tree.section?_of_map hSection, readItem_map_iff]
  · have hNone : settingIn? members sectionName name = none := by
      rw [settingIn?, Tree.section?_eq_nil fun settings hFound =>
        hMap ⟨settings, Option.some.inj (hSection.symm.trans hFound)⟩]
      rfl
    rw [hNone]
    constructor
    · intro hRead
      unfold readItem Tree.item at hRead
      cases inner with
      | map settings => exact absurd ⟨settings, rfl⟩ hMap
      | scalar value => cases value <;> cases hRead
      | list items => cases hRead
      | held graph place =>
          have hFolded := h sectionName graph place hSection
          dsimp only at hRead
          split at hRead
          next settings hPiece => exact absurd hPiece (hFolded settings)
          all_goals cases hRead
    · intro hFound
      cases hFound

theorem readText_eq_ok_iff {tree : Tree} {name text : String} :
    readText tree name = .ok text ↔
      ∃ value, readItem tree name = .ok value ∧ value.isShowable = true ∧ value.display = text := by
  unfold readText
  rw [bind_eq_ok_iff]
  refine exists_congr fun value => and_congr_right fun _ => ?_
  cases value.isShowable with
  | true => simp [pure, Except.pure]
  | false => exact ⟨nofun, nofun⟩

theorem build_eq_ok_iff (h : Unfolded members) {sourcePath : String} {settings : Settings} :
    build members sourcePath = .ok settings ↔
      settings.sourcePath = sourcePath ∧
        ∀ setting : Setting,
          (settingIn? members setting.override.sectionName setting.override.name).bind setting.normalForm =
            some (settings.value setting) := by
  unfold build
  simp only [bind_eq_ok_iff, readItem_map_iff, readText_eq_ok_iff]
  constructor
  · rintro ⟨service, hService, baseUrl, hBase, healthPath, hHealth, queryPath, hQuery, rawTimeout, hRawTimeout,
      timeout, hTimeout, dispatch, hDispatch, latency, hLatency, session, hSession, mode, hMode, hRest⟩
    obtain ⟨rawBase, hBase, hBaseShown, rfl⟩ := hBase
    obtain ⟨rawHealth, hHealth, hHealthShown, rfl⟩ := hHealth
    obtain ⟨rawQuery, hQuery, hQueryShown, rfl⟩ := hQuery
    obtain ⟨rawMode, hMode, hModeShown, rfl⟩ := hMode
    rw [readItem_of_lookup h hService] at hBase hHealth hQuery hRawTimeout
    rw [readItem_of_lookup h hDispatch] at hLatency
    rw [readItem_of_lookup h hSession] at hMode
    split at hRest
    next hValid =>
        cases hRest
        refine ⟨rfl, fun setting => ?_⟩
        cases setting with
        | baseUrl => simp [Setting.override, Setting.normalForm, value, hBase, hBaseShown]
        | healthPath => simp [Setting.override, Setting.normalForm, value, hHealth, hHealthShown]
        | queryPath => simp [Setting.override, Setting.normalForm, value, hQuery, hQueryShown]
        | timeout => simp [Setting.override, Setting.normalForm, value, hRawTimeout, hTimeout, Except.toOption]
        | simulateLatency => simp [Setting.override, Setting.normalForm, value, hLatency]
        | defaultMode => simp [Setting.override, Setting.normalForm, value, hMode, hModeShown, hValid]
    next => cases hRest
  · rintro ⟨rfl, hValues⟩
    obtain ⟨rawBase, hBase, hBaseForm⟩ := Option.bind_eq_some_iff.mp (hValues .baseUrl)
    obtain ⟨rawHealth, hHealth, hHealthForm⟩ := Option.bind_eq_some_iff.mp (hValues .healthPath)
    obtain ⟨rawQuery, hQuery, hQueryForm⟩ := Option.bind_eq_some_iff.mp (hValues .queryPath)
    obtain ⟨rawTimeout, hTimeout, hTimeoutForm⟩ := Option.bind_eq_some_iff.mp (hValues .timeout)
    obtain ⟨rawLatency, hLatency, hLatencyForm⟩ := Option.bind_eq_some_iff.mp (hValues .simulateLatency)
    obtain ⟨rawMode, hMode, hModeForm⟩ := Option.bind_eq_some_iff.mp (hValues .defaultMode)
    simp only [Setting.override] at hBase hHealth hQuery hTimeout hLatency hMode
    obtain ⟨service, hService, _⟩ := settingIn?_eq_some_iff.mp hBase
    obtain ⟨dispatch, hDispatch, _⟩ := settingIn?_eq_some_iff.mp hLatency
    obtain ⟨session, hSession, _⟩ := settingIn?_eq_some_iff.mp hMode
    rw [← readItem_of_lookup h hService] at hBase hHealth hQuery hTimeout
    rw [← readItem_of_lookup h hDispatch] at hLatency
    rw [← readItem_of_lookup h hSession] at hMode
    simp only [Setting.normalForm, value, Option.ite_none_right_eq_some, Option.some.injEq,
      Setting.Value.text.injEq, Setting.Value.flag.injEq, Option.map_eq_some_iff, Setting.Value.timeout.injEq,
      toOption_eq_some_iff, exists_eq_right]
      at hBaseForm hHealthForm hQueryForm hTimeoutForm hLatencyForm hModeForm
    obtain ⟨hBaseShown, hBaseUrl⟩ := hBaseForm
    obtain ⟨hHealthShown, hHealthPath⟩ := hHealthForm
    obtain ⟨hQueryShown, hQueryPath⟩ := hQueryForm
    obtain ⟨⟨hModeShown, hValid⟩, hModeTag⟩ := hModeForm
    refine ⟨.map service, hService, _, ⟨rawBase, hBase, hBaseShown, rfl⟩, _,
      ⟨rawHealth, hHealth, hHealthShown, rfl⟩, _, ⟨rawQuery, hQuery, hQueryShown, rfl⟩, rawTimeout, hTimeout, _,
      hTimeoutForm, .map dispatch, hDispatch, rawLatency, hLatency, .map session, hSession, _,
      ⟨rawMode, hMode, hModeShown, rfl⟩, ?_⟩
    rw [if_pos hValid, hBaseUrl, hHealthPath, hQueryPath, hLatencyForm, hModeTag]
    rfl

/-! ### The three layers -/

theorem settingIn?_defaults (setting : Setting) :
    settingIn? defaults setting.override.sectionName setting.override.name =
      some (.scalar setting.default) := by
  cases setting <;> rfl

theorem unfolded_defaults : Unfolded defaults := by
  intro name graph place h
  have hMem := mem_of_lookup h
  simp [defaults] at hMem

theorem override_mem_all (setting : Setting) : setting.override ∈ Override.all := by
  cases setting <;> decide

theorem all_apart : Override.all.Pairwise Override.Apart := by
  decide

/-- The value of a setting once the file and the environment have been heard. There is none if something
that is no mapping stands in the place of its section, and its variable is not set. -/
theorem value?_merge {file : Members} (hFile : Settled file) (env : Environment) (setting : Setting) :
    ((setting.variableText? env = none → IsSection file setting.override.sectionName) →
        setting.override.value? env
          (settingIn? (Tree.merge defaults file) setting.override.sectionName setting.override.name) =
            setting.rawValue env file) ∧
      (¬(setting.variableText? env = none → IsSection file setting.override.sectionName) →
        setting.override.value? env
          (settingIn? (Tree.merge defaults file) setting.override.sectionName setting.override.name) = none) := by
  obtain ⟨hSection, hNoSection⟩ :=
    settingIn?_merge hFile.single hFile.sections (settingIn?_defaults setting)
  unfold Override.value? Setting.rawValue Setting.variableText?
  cases env.lookup setting.override.variableName with
  | none => exact ⟨fun h => hSection (h rfl), fun h => hNoSection fun hIs => h fun _ => hIs⟩
  | some raw => exact ⟨fun _ => rfl, fun h => absurd nofun h⟩

theorem exists_setting {override : Override} (h : override ∈ Override.all) :
    ∃ setting : Setting, setting.override = override := by
  simp only [Override.all, List.mem_cons, List.not_mem_nil, or_false] at h
  rcases h with rfl | rfl | rfl | rfl | rfl | rfl
  · exact ⟨.baseUrl, rfl⟩
  · exact ⟨.healthPath, rfl⟩
  · exact ⟨.queryPath, rfl⟩
  · exact ⟨.timeout, rfl⟩
  · exact ⟨.simulateLatency, rfl⟩
  · exact ⟨.defaultMode, rfl⟩

/-- If something is given for every setting, then the texts of all variables that are set can be read. -/
theorem exists_read_of_given {file : Members} {env : Environment}
    (h : ∀ setting : Setting, ∃ raw, setting.Given env file raw) :
    ∀ override ∈ Override.all, ∀ text, env.lookup override.variableName = some text →
      ∃ value, Override.read override.type text = .ok value := by
  intro override hMem text hVariable
  obtain ⟨setting, rfl⟩ := exists_setting hMem
  obtain ⟨raw, hGiven⟩ := h setting
  cases hGiven with
  | byVariable hText hReads =>
      obtain rfl := Option.some.inj (hText.symm.trans hVariable)
      exact ⟨_, Override.reads_iff.mp hReads⟩
  | byFile hNone => exact nomatch hNone.symm.trans hVariable
  | byDefault hNone => exact nomatch hNone.symm.trans hVariable

/-- Settings are built just if each of them has a value of its form, and no section is missing that the
environment does not make up for. -/
theorem ofMembers_eq_ok_iff {file : Members} (hFile : Settled file) {env : Environment} {sourcePath : String}
    {settings : Settings} :
    ofMembers file env sourcePath = .ok settings ↔
      settings.sourcePath = sourcePath ∧
        (∀ setting : Setting,
          (setting.rawValue env file).bind setting.normalForm = some (settings.value setting)) ∧
        ∀ setting : Setting, setting.variableText? env = none → IsSection file setting.override.sectionName := by
  have hMerged : Unfolded (Tree.merge defaults file) :=
    Unfolded.merge hFile.single unfolded_defaults hFile.unfolded
  -- What is built on the mapping behind the overrides, setting by setting.
  have hBuild {members : Members} (h : Override.applyAll env (Tree.merge defaults file) = .ok members) :
      build members sourcePath = .ok settings ↔ settings.sourcePath = sourcePath ∧
        ∀ setting : Setting, (setting.override.value? env
          (settingIn? (Tree.merge defaults file) setting.override.sectionName setting.override.name)).bind
            setting.normalForm = some (settings.value setting) := by
    obtain ⟨hOwn, _, hUnfolded⟩ := Override.foldlM_apply_spec all_apart h
    rw [build_eq_ok_iff (hUnfolded hMerged)]
    simp only [fun setting : Setting => hOwn _ (override_mem_all setting)]
  unfold ofMembers
  rw [bind_eq_ok_iff]
  constructor
  · rintro ⟨members, hApplied, h⟩
    obtain ⟨hPath, hValues⟩ := (hBuild (mapError_eq_ok_iff.mp hApplied)).mp h
    have hSections (setting : Setting) :
        setting.variableText? env = none → IsSection file setting.override.sectionName := by
      refine Classical.byContradiction fun hNone => ?_
      have hValue := hValues setting
      rw [(value?_merge hFile env setting).2 hNone] at hValue
      cases hValue
    refine ⟨hPath, fun setting => ?_, hSections⟩
    rw [← (value?_merge hFile env setting).1 (hSections setting)]
    exact hValues setting
  · rintro ⟨hPath, hValues, hSections⟩
    obtain ⟨members, hApplied⟩ := Override.exists_foldlM_apply
      (exists_read_of_given fun setting =>
        (Option.bind_eq_some_iff.mp (hValues setting)).imp fun _ h => Setting.given_iff.mpr h.1)
      (Tree.merge defaults file)
    refine ⟨members, mapError_eq_ok_iff.mpr hApplied, (hBuild hApplied).mpr ⟨hPath, fun setting => ?_⟩⟩
    rw [(value?_merge hFile env setting).1 (hSections setting)]
    exact hValues setting

/-! ### Independence -/

/-- Mappings that say the same of every setting: neither of them says anything of it, or what they say has
the same forms. What is no setting may be in one of them and not in the other, at the top or inside a
section. -/
structure Alike (file other : Members) : Prop where
  values : ∀ setting : Setting, setting.SameForms (setting.fileValue? file) (setting.fileValue? other)
  sections : ∀ setting : Setting,
    IsSection other setting.override.sectionName ↔ IsSection file setting.override.sectionName

theorem Alike.rawValue_form {file other : Members} (h : Alike file other) {env changed : Environment}
    {setting : Setting} (hVariable : setting.variableText? changed = setting.variableText? env) :
    (setting.rawValue changed other).bind setting.normalForm =
      (setting.rawValue env file).bind setting.normalForm := by
  unfold Setting.rawValue
  rw [hVariable]
  cases setting.variableText? env with
  | some raw => rfl
  | none =>
      have hValue := congrArg (·.getD (setting.normalForm (.scalar setting.default)))
        (Setting.sameForms_iff.mp (h.values setting))
      simpa only [Option.bind_some, Option.getD_map] using hValue.symm

/-- A setting has the form of what is given for it. -/
theorem exists_given_hasForm_iff {file : Members} {env : Environment} {setting : Setting} {value : Setting.Value} :
    (∃ raw, setting.Given env file raw ∧ setting.HasForm raw value) ↔
      (setting.rawValue env file).bind setting.normalForm = some value := by
  simp only [Setting.given_iff, Setting.hasForm_iff, Option.bind_eq_some_iff]

/-- Each setting is decided on its own: by its variable, else by the file, else by the default, and it has the
form of the value that these give. So what another variable is changed to has no part in it, and what is no
setting has no part in any. -/
theorem ofMembers_precedence {host : Host} {path : Path} {file : Members} {env : Environment}
    {sourcePath : String} {settings : Settings} (hFile : readFound host path = .ok file)
    (hSettings : ofMembers file env sourcePath = .ok settings) :
    (∀ (setting : Setting) value,
        (∃ raw, setting.Given env file raw ∧ setting.HasForm raw value) ↔ settings.value setting = value) ∧
      (∀ (setting : Setting) changed settings', setting.variableText? changed = setting.variableText? env →
        ofMembers file changed sourcePath = .ok settings' →
          settings'.value setting = settings.value setting) ∧
      (∀ other otherHost otherPath changed, readFound otherHost otherPath = .ok other → Alike file other →
        (∀ setting : Setting, setting.variableText? changed = setting.variableText? env) →
          ofMembers other changed sourcePath = .ok settings) := by
  have hSettled := readFound_settled hFile
  obtain ⟨hPath, hValues, hSections⟩ := (ofMembers_eq_ok_iff hSettled).mp hSettings
  refine ⟨?_, ?_, ?_⟩
  · intro setting value
    rw [exists_given_hasForm_iff, hValues setting, Option.some.injEq]
  · intro setting changed settings' hVariable hChanged
    obtain ⟨_, hValues', _⟩ := (ofMembers_eq_ok_iff hSettled).mp hChanged
    have hRaw : setting.rawValue changed file = setting.rawValue env file := by
      rw [Setting.rawValue, Setting.rawValue, hVariable]
    have hValue := hValues' setting
    rw [hRaw, hValues setting] at hValue
    exact (Option.some.inj hValue).symm
  · intro other otherHost otherPath changed hOther hAlike hVariables
    refine (ofMembers_eq_ok_iff (readFound_settled hOther)).mpr ⟨hPath, fun setting => ?_, fun setting h => ?_⟩
    · rw [hAlike.rawValue_form (hVariables setting)]
      exact hValues setting
    · rw [hVariables] at h
      exact (hAlike.sections setting).mpr (hSections setting h)

/-- A file with slashes behind its address, a mode in another spelling and a truth value in the place of a
section, whose only setting comes from a variable. Another variable changes just its own setting; members and
variables that are no settings change none. -/
theorem ofMembers_precedence_partial_file :
    let content := "service:\n  base_url: http://db.test//\nsession:\n  default_mode: ' CaChe '\ndispatch: off\n"
    let otherContent :=
      "color: [7]\ndispatch: off\nsession:\n  default_mode: cache\nservice:\n  base_url: http://db.test\n  shape: \n"
    let host : Host := ⟨[], ⟨none, []⟩, fun _ => .file content.toUTF8.toList, [], fun _ _ => ""⟩
    let otherHost : Host := { host with look := fun _ => .file otherContent.toUTF8.toList }
    let path : Path := ⟨0, []⟩
    let env : Environment := [("DBPLAY_SIMULATE_LATENCY", " No ")]
    let changed : Environment := ("DBPLAY_SERVICE_TIMEOUT", "2.5") :: env
    let wider : Environment := ("DBPLAY_COLOR", "7") :: env
    let settings : Settings :=
      ⟨"config.yaml", "http://db.test", "/", "/api/query", some (Binary64.ofInt 10), false, "cache"⟩
    ∃ file other settings', readFound host path = .ok file ∧ readFound otherHost path = .ok other ∧
      (∃ raw, Setting.defaultMode.Given env file raw ∧ Setting.defaultMode.HasForm raw (.text "cache")) ∧
      (∃ raw, Setting.simulateLatency.Given env file raw ∧ Setting.simulateLatency.HasForm raw (.flag false)) ∧
      (ofMembers file changed "config.yaml" = .ok settings' ∧ settings'.timeout ≠ settings.timeout ∧
        settings'.value .baseUrl = settings.value .baseUrl) ∧
      ofMembers other wider "config.yaml" = .ok settings := by
  intro content otherContent host otherHost path env changed wider settings
  have hRead : (readFound host path).toOption.any (fun file =>
      (readFound otherHost path).toOption.any fun other =>
        (ofMembers file env "config.yaml").toOption = some settings ∧
        (ofMembers file changed "config.yaml").toOption.any (fun settings' =>
          settings'.timeout ≠ settings.timeout) ∧
        (∀ setting : Setting, (setting.fileValue? file).map setting.normalForm =
          (setting.fileValue? other).map setting.normalForm) ∧
        ∀ setting : Setting, IsSection other setting.override.sectionName ↔
          IsSection file setting.override.sectionName) := by
    decide +kernel
  obtain ⟨file, hFile, hRead⟩ := (Option.any_eq_true _ _).mp hRead
  obtain ⟨other, hOther, hRead⟩ := (Option.any_eq_true _ _).mp hRead
  obtain ⟨hSettings, hChanged, hValues, hSections⟩ := of_decide_eq_true hRead
  obtain ⟨settings', hChanged, hTimeout⟩ := (Option.any_eq_true _ _).mp hChanged
  rw [toOption_eq_some_iff] at hFile hOther hSettings hChanged
  obtain ⟨hForms, hOwn, hAlike⟩ := ofMembers_precedence hFile hSettings
  refine ⟨file, other, settings', hFile, hOther, (hForms _ _).mpr rfl, (hForms _ _).mpr rfl,
    ⟨hChanged, of_decide_eq_true hTimeout, ?_⟩, ?_⟩
  · exact hOwn .baseUrl changed settings' rfl hChanged
  · exact hAlike other _ _ wider hOther ⟨fun setting => Setting.sameForms_iff.mpr (hValues setting), hSections⟩
      fun setting => by cases setting <;> rfl

end Settings
end QueryPlayground
