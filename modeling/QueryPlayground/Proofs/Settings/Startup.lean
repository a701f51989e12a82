import QueryPlayground.Proofs.Service.Endpoint
import QueryPlayground.Proofs.Settings.Changes
import QueryPlayground.Proofs.Settings.ModeValue
import QueryPlayground.Session.Playground

/-! What a playground starts with. Settings are built from a file and an environment, and may be changed after
that. The mode that they give is taken just if it names a mode, and the playground starts in that one; the
addresses that it asks for do not depend on the slashes at the joints. -/
namespace QueryPlayground

open QueryPlayground.Tree (IsSection Members Settled settingIn?_eq_some_iff)
open Service

/-- The address of an endpoint by the settings: a path that is an address itself, or the base and the path with
one slash between them. -/
def Settings.addressOf (settings : Settings) (path : String) : String :=
  if isAddress path then path else settings.baseUrl ++ "/" ++ withoutSlash path

/-- Where settings come from: the mapping in a file, the environment, and the changes made afterwards. -/
structure Source where
  file : Members
  env : Environment
  changes : List Settings.Change

namespace Source

def settings (source : Source) (sourcePath : String) : Except SettingsFault Settings :=
  (Settings.ofMembers source.file source.env sourcePath).map fun settings =>
    source.changes.foldl Settings.Change.apply settings

/-- The mode is given as a value: by the text of its variable, or by the file where that is not set. -/
inductive GivesMode (source : Source) : Json → Prop
  | byVariable {text : String} (h : Setting.defaultMode.variableText? source.env = some text) :
      GivesMode source (.str text)
  | byFile {value : Json} (hVariable : Setting.defaultMode.variableText? source.env = none)
      (h : Setting.defaultMode.fileValue? source.file = some (Tree.ofJson value)) : GivesMode source value

/-- All settings but the mode are valid: under some variable for the mode, settings are built. -/
def OthersValid (source : Source) (sourcePath : String) : Prop :=
  ∃ text settings,
    Settings.ofMembers source.file (("DBPLAY_DEFAULT_MODE", text) :: source.env) sourcePath = .ok settings

/-- The text that is given for the base address, before slashes are dropped: the last change of it, else the
text of the value in force. -/
inductive GivesBase (source : Source) : String → Prop
  | byChange {url : String} (h : (source.changes.filterMap Settings.Change.url?).getLast? = some url) :
      GivesBase source url
  | byValue {raw : Tree} (hChanges : (source.changes.filterMap Settings.Change.url?).getLast? = none)
      (h : Setting.baseUrl.Given source.env source.file raw) : GivesBase source raw.display

/-- Another source gives the same addresses but for slashes that do not count: any number of them at the end
of the base, and one in front of a relative path. -/
structure SlashesApart (source other : Source) : Prop where
  base : ∀ text text', source.GivesBase text → other.GivesBase text' → Service.SlashesApart text text'
  path : ∀ setting ∈ [Setting.healthPath, Setting.queryPath], ∀ raw raw',
    setting.Given source.env source.file raw → setting.Given other.env other.file raw' →
      SlashApart raw.display raw'.display

variable {source : Source} {sourcePath : String} {settings : Settings}

/-! ### The mode -/

/-- What is given for the mode is a mode just if it names one. -/
theorem GivesMode.exists_given {value : Json} (h : source.GivesMode value) :
    (∃ raw, Setting.defaultMode.Given source.env source.file raw ∧
        ∀ word, Setting.defaultMode.HasForm raw (.text word) ↔
          ∃ mode, Mode.parseValue value = .ok mode ∧ mode.tag = word) ∧
      (Setting.defaultMode.variableText? source.env = none →
        IsSection source.file Setting.defaultMode.override.sectionName) := by
  cases h with
  | @byVariable text hVariable =>
      refine ⟨⟨.scalar (.str (Text.trim text)), .byVariable hVariable (.text text), fun word => ?_⟩, fun hNone => ?_⟩
      · have hForm := Setting.hasForm_ofJson_iff (.str (Text.trim text)) word
        simp only [Mode.parseValue, Json.display, Mode.parse_trim] at hForm ⊢
        exact hForm
      · rw [hVariable] at hNone
        cases hNone
  | byFile hVariable hFile =>
      refine ⟨⟨Tree.ofJson value, .byFile hVariable hFile, Setting.hasForm_ofJson_iff value⟩, fun _ => ?_⟩
      obtain ⟨inner, hInner, -⟩ := settingIn?_eq_some_iff.mp hFile
      intro found hFound
      exact ⟨inner, Option.some.inj (hFound.symm.trans hInner)⟩

/-- A mode in its place completes settings that are valid but for the mode. -/
theorem OthersValid.exists_ofMembers (h : source.OthersValid sourcePath) (hFile : Settled source.file) {raw : Tree}
    {word : String} (hGiven : Setting.defaultMode.Given source.env source.file raw)
    (hForm : Setting.defaultMode.HasForm raw (.text word))
    (hSection : Setting.defaultMode.variableText? source.env = none →
      IsSection source.file Setting.defaultMode.override.sectionName) :
    ∃ settings, Settings.ofMembers source.file source.env sourcePath = .ok settings := by
  obtain ⟨text, settings, hSettings⟩ := h
  have hSets : source.env.Sets Setting.defaultMode.override.variableName text _ := source.env.sets_cons _ text
  refine ⟨{ settings with defaultMode := word }, ?_⟩
  refine Settings.ofMembers_of_others .defaultMode hFile hSettings (fun other hOther => ?_) hSection
    (Setting.given_iff.mp hGiven) (Setting.hasForm_iff.mp hForm) ?_ rfl
  · exact (hSets.variableText? hOther).symm
  · intro other hOther
    cases other with
    | defaultMode => exact absurd rfl hOther
    | _ => rfl

theorem settings_eq_ok_iff : source.settings sourcePath = .ok settings ↔
    ∃ built, Settings.ofMembers source.file source.env sourcePath = .ok built ∧
      source.changes.foldl Settings.Change.apply built = settings := by
  rw [Source.settings]
  cases Settings.ofMembers source.file source.env sourcePath with
  | error fault => exact ⟨nofun, fun ⟨_, h, _⟩ => nomatch h⟩
  | ok built => simp [Except.map]

/-- Each setting has the form of what is given for it; changes have a part in the address and the pauses only. -/
theorem exists_hasForm (hFile : Settled source.file) (h : source.settings sourcePath = .ok settings)
    (setting : Setting) (hKept : setting ≠ .baseUrl ∧ setting ≠ .simulateLatency) :
    ∃ raw, setting.Given source.env source.file raw ∧ setting.HasForm raw (settings.value setting) := by
  obtain ⟨built, hBuilt, rfl⟩ := settings_eq_ok_iff.mp h
  obtain ⟨-, hValues, -⟩ := (Settings.ofMembers_eq_ok_iff hFile).mp hBuilt
  have hSame : (source.changes.foldl Settings.Change.apply built).value setting = built.value setting := by
    rw [Settings.foldl_apply_eq]
    cases setting with
    | baseUrl => exact absurd rfl hKept.1
    | simulateLatency => exact absurd rfl hKept.2
    | _ => rfl
  rw [hSame]
  exact Settings.exists_given_hasForm_iff.mpr (hValues setting)

/-- Settings keep the tag of the mode that was given, however they are changed. -/
theorem parseValue_of_settings (hFile : Settled source.file) {value : Json} (hGives : source.GivesMode value)
    (h : source.settings sourcePath = .ok settings) :
    ∃ mode, Mode.parseValue value = .ok mode ∧ mode.tag = settings.defaultMode := by
  obtain ⟨⟨raw, hRaw, hWords⟩, -⟩ := hGives.exists_given
  obtain ⟨given, hGiven, hForm⟩ := exists_hasForm hFile h .defaultMode (by decide)
  rw [hRaw.unique hGiven] at hForm
  exact (hWords _).mp hForm

/-- The word that settings hold for the mode names one. -/
theorem exists_mode (hFile : Settled source.file) (h : source.settings sourcePath = .ok settings) :
    ∃ mode, Mode.parse settings.defaultMode = .ok mode := by
  obtain ⟨raw, -, hForm⟩ := exists_hasForm hFile h .defaultMode (by decide)
  rw [Setting.hasForm_iff] at hForm
  simp only [Setting.normalForm, Option.ite_none_right_eq_some, Option.some.injEq, Settings.value,
    Setting.Value.text.injEq, and_assoc, Settings.normalMode_mem_iff] at hForm
  obtain ⟨-, mode, -, hTag⟩ := hForm
  exact ⟨mode, hTag ▸ Mode.parse_tag mode⟩

theorem exists_ofSettings (hFile : Settled source.file) (h : source.settings sourcePath = .ok settings) (stamp : Int) :
    ∃ playground, Playground.ofSettings settings stamp = .ok playground := by
  obtain ⟨mode, hMode⟩ := exists_mode hFile h
  exact ⟨_, by rw [Playground.ofSettings, hMode]; rfl⟩

/-- The playground that starts has the mode of the settings and asks at their addresses. -/
theorem ofSettings_eq_ok {stamp : Int} {playground : Playground}
    (h : Playground.ofSettings settings stamp = .ok playground) :
    Mode.parse settings.defaultMode = .ok playground.selection.mode ∧
      playground.dispatcher.registry.client =
        .make settings.baseUrl settings.healthPath settings.queryPath := by
  unfold Playground.ofSettings at h
  cases hMode : Mode.parse settings.defaultMode with
  | error refusal =>
      rw [hMode] at h
      cases h
  | ok mode =>
      rw [hMode] at h
      cases h
      exact ⟨rfl, rfl⟩

theorem exists_settings_iff (hFile : Settled source.file) (hOthers : source.OthersValid sourcePath) {value : Json}
    (hGives : source.GivesMode value) :
    (∃ settings, source.settings sourcePath = .ok settings) ↔ ∃ mode, Mode.parseValue value = .ok mode := by
  constructor
  · rintro ⟨settings, hSettings⟩
    obtain ⟨mode, hMode, -⟩ := parseValue_of_settings hFile hGives hSettings
    exact ⟨mode, hMode⟩
  · rintro ⟨mode, hMode⟩
    obtain ⟨⟨raw, hRaw, hWords⟩, hSection⟩ := hGives.exists_given
    obtain ⟨built, hBuilt⟩ := hOthers.exists_ofMembers hFile hRaw ((hWords mode.tag).mpr ⟨mode, hMode, rfl⟩) hSection
    exact ⟨_, settings_eq_ok_iff.mpr ⟨built, hBuilt, rfl⟩⟩

/-! ### The addresses -/

theorem exists_givesBase (hFile : Settled source.file) (h : source.settings sourcePath = .ok settings) :
    ∃ text, source.GivesBase text ∧ settings.baseUrl = Settings.normalUrl text := by
  obtain ⟨built, hBuilt, rfl⟩ := settings_eq_ok_iff.mp h
  obtain ⟨-, hValues, -⟩ := (Settings.ofMembers_eq_ok_iff hFile).mp hBuilt
  obtain ⟨raw, hRaw, hForm⟩ := Option.bind_eq_some_iff.mp (hValues .baseUrl)
  rw [Settings.foldl_apply_eq]
  cases hUrl : (source.changes.filterMap Settings.Change.url?).getLast? with
  | some url => exact ⟨url, .byChange hUrl, rfl⟩
  | none =>
      refine ⟨raw.display, .byValue hUrl (Setting.given_iff.mpr hRaw), ?_⟩
      rw [Setting.normalForm, Option.ite_none_right_eq_some] at hForm
      exact (Setting.Value.text.inj (Option.some.inj hForm.2)).symm

theorem exists_given_paths (hFile : Settled source.file) (h : source.settings sourcePath = .ok settings) :
    (∃ raw, Setting.healthPath.Given source.env source.file raw ∧ raw.display = settings.healthPath) ∧
      ∃ raw, Setting.queryPath.Given source.env source.file raw ∧ raw.display = settings.queryPath := by
  obtain ⟨rawHealth, hHealth, hHealthForm⟩ := exists_hasForm hFile h .healthPath (by decide)
  obtain ⟨rawQuery, hQuery, hQueryForm⟩ := exists_hasForm hFile h .queryPath (by decide)
  simp only [Setting.hasForm_iff, Setting.normalForm, Option.ite_none_right_eq_some] at hHealthForm hQueryForm
  exact ⟨⟨rawHealth, hHealth, Setting.Value.text.inj (Option.some.inj hHealthForm.2)⟩,
    rawQuery, hQuery, Setting.Value.text.inj (Option.some.inj hQueryForm.2)⟩

theorem baseUrl_getLast? (hFile : Settled source.file) (h : source.settings sourcePath = .ok settings) :
    settings.baseUrl.toList.getLast? ≠ some '/' := by
  obtain ⟨text, -, hBase⟩ := exists_givesBase hFile h
  rw [hBase]
  exact Text.getLast?_dropTrailing '/' text

theorem client_url (hFile : Settled source.file) (h : source.settings sourcePath = .ok settings) (path : String) :
    (Client.make settings.baseUrl settings.healthPath settings.queryPath).url path = settings.addressOf path := by
  rw [Settings.addressOf, ← endpoint_eq]
  exact congrArg (endpoint · path) (Text.dropTrailing_of_getLast? (baseUrl_getLast? hFile h))

theorem SlashesApart.addressOf_eq {other : Source} {otherPath : String} {settings' : Settings}
    (hApart : source.SlashesApart other) (hFile : Settled source.file) (hOther : Settled other.file)
    (h : source.settings sourcePath = .ok settings) (h' : other.settings otherPath = .ok settings') :
    settings'.addressOf settings'.healthPath = settings.addressOf settings.healthPath ∧
      settings'.addressOf settings'.queryPath = settings.addressOf settings.queryPath := by
  obtain ⟨text, hText, hBase⟩ := exists_givesBase hFile h
  obtain ⟨text', hText', hBase'⟩ := exists_givesBase hOther h'
  obtain ⟨⟨health, hHealth, hHealthText⟩, query, hQuery, hQueryText⟩ := exists_given_paths hFile h
  obtain ⟨⟨health', hHealth', hHealthText'⟩, query', hQuery', hQueryText'⟩ := exists_given_paths hOther h'
  have hSame : settings'.baseUrl = settings.baseUrl := by
    rw [hBase, hBase']
    exact (hApart.base text text' hText hText').dropTrailing_eq
  simp only [Settings.addressOf, ← endpoint_eq, hSame, ← hHealthText, ← hHealthText', ← hQueryText, ← hQueryText']
  exact ⟨(hApart.path _ (by simp) _ _ hHealth hHealth').endpoint_eq _,
    (hApart.path _ (by simp) _ _ hQuery hQuery').endpoint_eq _⟩

/-- What is given for the mode is taken just if it names a mode, and then the playground starts in that one.
Whatever settings are loaded, a playground starts. Its base address does not end with a slash, and its requests
go to the base and the path with one slash between them, or to a path that is an address itself. So neither
slashes at the end of the base, whether they come from the file, a variable or a change, nor one in front of a
path have a part in them. -/
theorem playground_starts (source : Source) (hFile : Settled source.file) (sourcePath : String) (stamp : Int) :
    (∀ value, source.OthersValid sourcePath → source.GivesMode value →
        ((∃ settings, source.settings sourcePath = .ok settings) ↔ ∃ mode, Mode.parseValue value = .ok mode) ∧
          ∀ settings, source.settings sourcePath = .ok settings →
            ∃ playground, Playground.ofSettings settings stamp = .ok playground ∧
              Mode.parseValue value = .ok playground.selection.mode) ∧
      ∀ settings, source.settings sourcePath = .ok settings →
        ∃ playground, Playground.ofSettings settings stamp = .ok playground ∧
          let client := playground.dispatcher.registry.client
          settings.baseUrl.toList.getLast? ≠ some '/' ∧
            (∀ path, client.url path = settings.addressOf path) ∧
            (GoesTo client.healthRequest (settings.addressOf settings.healthPath) ∧
              ∀ sql, GoesTo (client.queryRequest sql) (settings.addressOf settings.queryPath)) ∧
            ∀ other otherPath settings' playground', Settled other.file →
              other.settings otherPath = .ok settings' → Playground.ofSettings settings' stamp = .ok playground' →
              source.SlashesApart other →
                let client' := playground'.dispatcher.registry.client
                client'.healthRequest = client.healthRequest ∧
                  ∀ sql, client'.queryRequest sql = client.queryRequest sql := by
  refine ⟨fun value hOthers hGives => ⟨exists_settings_iff hFile hOthers hGives, fun settings h => ?_⟩, ?_⟩
  · obtain ⟨playground, hPlayground⟩ := exists_ofSettings hFile h stamp
    obtain ⟨mode, hMode, hTag⟩ := parseValue_of_settings hFile hGives h
    obtain ⟨hStart, -⟩ := ofSettings_eq_ok hPlayground
    rw [← hTag, Mode.parse_tag] at hStart
    exact ⟨playground, hPlayground, hMode.trans hStart⟩
  · intro settings h
    obtain ⟨playground, hPlayground⟩ := exists_ofSettings hFile h stamp
    refine ⟨playground, hPlayground, ?_⟩
    rw [(ofSettings_eq_ok hPlayground).2]
    intro client
    have hUrl : ∀ path, client.url path = settings.addressOf path := client_url hFile h
    refine ⟨baseUrl_getLast? hFile h, hUrl, ⟨?_, fun sql => ?_⟩, ?_⟩
    · rw [← hUrl]
      exact client.request_goesTo .get _ _
    · rw [← hUrl]
      exact client.request_goesTo .post _ _
    · intro other otherPath settings' playground' hOther h' hPlayground' hApart
      rw [(ofSettings_eq_ok hPlayground').2]
      intro client'
      have hUrl' : ∀ path, client'.url path = settings'.addressOf path := client_url hOther h'
      obtain ⟨hHealth, hQuery⟩ := hApart.addressOf_eq hFile hOther h h'
      rw [← hUrl, ← hUrl'] at hHealth hQuery
      exact ⟨Client.request_eq_of_url hHealth .get _, fun sql => Client.request_eq_of_url hQuery .post _⟩

/-- A file with slashes behind its base and none in front of its path, and no file at all with another base
that is changed once the settings are built. -/
theorem playground_starts_slashes :
    let given : Json := .str " NoSQL\u2003"
    let source : Source := ⟨Tree.ofMembers
      [("service", .obj [("base_url", .str "http://db.test///"), ("query_path", .str "api/query")]),
        ("session", .obj [("default_mode", given)])], [], []⟩
    let other : Source :=
      ⟨[], [("DBPLAY_SERVICE_URL", "http://a.test")], [.withoutLatency, .serviceUrl "http://db.test/"]⟩
    (Settled source.file ∧ Settled other.file ∧ source.OthersValid "config.yaml" ∧ source.GivesMode given ∧
        source.SlashesApart other) ∧
      ∃ settings settings' playground playground',
        (source.settings "config.yaml" = .ok settings ∧ other.settings "other.yaml" = .ok settings') ∧
          (Playground.ofSettings settings 0 = .ok playground ∧ Playground.ofSettings settings' 0 = .ok playground') ∧
          playground.selection.mode = .document ∧
          GoesTo (playground.dispatcher.registry.client.queryRequest "select 1") "http://db.test/api/query" ∧
          playground'.dispatcher.registry.client.queryRequest "select 1" =
            playground.dispatcher.registry.client.queryRequest "select 1" := by
  intro given source other
  have hFile : Settled source.file := Tree.settled_of_memberNames (by decide) (by decide)
  have hOthers : source.OthersValid "config.yaml" := by
    have hBuilt : (Settings.ofMembers source.file (("DBPLAY_DEFAULT_MODE", "sql") :: source.env)
        "config.yaml").toOption.isSome := by
      decide +kernel
    obtain ⟨settings, hSettings⟩ := Option.isSome_iff_exists.mp hBuilt
    exact ⟨"sql", settings, toOption_eq_some_iff.mp hSettings⟩
  have hGives : source.GivesMode given := .byFile rfl rfl
  have hText {source : Source} {setting : Setting} {raw : Tree}
      (hGiven : setting.Given source.env source.file raw) (text : String)
      (hText : (setting.rawValue source.env source.file).map Tree.display = some text) : raw.display = text := by
    rw [Setting.given_iff.mp hGiven] at hText
    exact Option.some.inj hText
  have hApart : source.SlashesApart other := by
    constructor
    · rintro text text' (hChange | ⟨-, hGiven⟩) (hChange' | ⟨hNone, -⟩)
      · cases hChange
      · cases hChange
      · obtain rfl : "http://db.test/" = text' := Option.some.inj hChange'
        rw [hText hGiven "http://db.test///" (by decide +kernel)]
        exact ⟨"http://db.test", 3, 1, by decide, by decide⟩
      · cases hNone
    · simp only [List.forall_mem_cons]
      refine ⟨?_, ?_, nofun⟩
      · intro raw raw' hGiven hGiven'
        rw [hText hGiven "/" (by decide +kernel), hText hGiven' "/" (by decide +kernel)]
        exact .inl rfl
      · intro raw raw' hGiven hGiven'
        rw [hText hGiven "api/query" (by decide +kernel),
          hText hGiven' "/api/query" (by decide +kernel)]
        exact .inr (.inl ⟨by decide, by decide, by decide⟩)
  have hLoaded : (other.settings "other.yaml").toOption.isSome := by decide +kernel
  obtain ⟨settings', hSettings'⟩ := Option.isSome_iff_exists.mp hLoaded
  rw [toOption_eq_some_iff] at hSettings'
  obtain ⟨playground', hPlayground'⟩ := exists_ofSettings Tree.settled_nil hSettings' 0
  obtain ⟨hModes, hRequests⟩ := playground_starts source hFile "config.yaml" 0
  obtain ⟨hAccepted, hStarts⟩ := hModes given hOthers hGives
  have hMode : Mode.parseValue given = .ok .document := by decide +kernel
  obtain ⟨settings, hSettings⟩ := hAccepted.mpr ⟨.document, hMode⟩
  obtain ⟨playground, hPlayground, hParsed⟩ := hStarts settings hSettings
  obtain ⟨_, hSame, -, -, ⟨-, hPosts⟩, hAlike⟩ := hRequests settings hSettings
  obtain rfl := Except.ok.inj (hPlayground.symm.trans hSame)
  have hAddress : settings.addressOf settings.queryPath = "http://db.test/api/query" := by
    have hAny : (source.settings "config.yaml").toOption.any (fun settings =>
        settings.addressOf settings.queryPath = "http://db.test/api/query") := by
      decide +kernel
    rw [hSettings] at hAny
    exact of_decide_eq_true hAny
  refine ⟨⟨hFile, Tree.settled_nil, hOthers, hGives, hApart⟩, settings, settings', playground, playground',
    ⟨hSettings, hSettings'⟩, ⟨hPlayground, hPlayground'⟩, ?_, ?_, ?_⟩
  · exact Except.ok.inj (hParsed.symm.trans hMode)
  · exact hAddress ▸ hPosts "select 1"
  · exact (hAlike other "other.yaml" settings' playground' Tree.settled_nil hSettings' hPlayground' hApart).2
      "select 1"

end Source
end QueryPlayground
