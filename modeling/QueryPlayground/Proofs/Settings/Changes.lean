import Mathlib.Data.List.Induction
import QueryPlayground.Proofs.Settings.Timeout

/-! Two ways to one setting. Settings that are changed once they are built, and settings that are built under
a variable that says the same, agree in everything; and changes of different settings do not meet. -/
namespace QueryPlayground

open QueryPlayground.Tree (IsSection Members Settled)

/-- Another environment has a variable set to a text, whatever it was before, and all others as they were. -/
structure Environment.Sets (env : Environment) (name text : String) (changed : Environment) : Prop where
  value : changed.lookup name = some text
  others : ∀ other, other ≠ name → changed.lookup other = env.lookup other

theorem Environment.sets_cons (env : Environment) (name text : String) :
    env.Sets name text ((name, text) :: env) where
  value := by rw [lookup_cons, if_pos rfl]
  others := by
    intro other hOther
    rw [lookup_cons, if_neg hOther]

theorem Setting.variableName_inj :
    ∀ setting other : Setting, other.override.variableName = setting.override.variableName → other = setting := by
  decide

theorem Environment.Sets.variableText? {env changed : Environment} {setting other : Setting} {text : String}
    (h : env.Sets setting.override.variableName text changed) (hOther : other ≠ setting) :
    other.variableText? changed = other.variableText? env :=
  h.others _ fun hName => hOther (Setting.variableName_inj setting other hName)

namespace Settings

variable {file : Members} {env changed : Environment} {sourcePath : String} {settings : Settings}

/-! ### Variables -/

/-- Settings under another environment that has the other variables as they were: one setting takes the form
of its new value, and all others stay. -/
theorem ofMembers_of_others (setting : Setting) (hFile : Settled file)
    (hSettings : ofMembers file env sourcePath = .ok settings)
    (hVariables : ∀ other, other ≠ setting → other.variableText? changed = other.variableText? env)
    (hSection : setting.variableText? changed = none → IsSection file setting.override.sectionName)
    {raw : Tree} (hRaw : setting.rawValue changed file = some raw) {settings' : Settings}
    (hForm : setting.normalForm raw = some (settings'.value setting))
    (hOthers : ∀ other, other ≠ setting → settings'.value other = settings.value other)
    (hPath : settings'.sourcePath = settings.sourcePath) :
    ofMembers file changed sourcePath = .ok settings' := by
  obtain ⟨hSource, hValues, hSections⟩ := (ofMembers_eq_ok_iff hFile).mp hSettings
  refine (ofMembers_eq_ok_iff hFile).mpr ⟨hPath.trans hSource, fun other => ?_, fun other hNone => ?_⟩
  · by_cases hOther : other = setting
    · rw [hOther, hRaw]
      exact hForm
    · rw [Setting.rawValue, hVariables other hOther, hOthers other hOther]
      exact hValues other
  · by_cases hOther : other = setting
    · exact hOther ▸ hSection (hOther ▸ hNone)
    · exact hSections other (hVariables other hOther ▸ hNone)

/-- A variable that is set changes the one setting that it stands for. -/
theorem ofMembers_of_sets (setting : Setting) (hFile : Settled file)
    (hSettings : ofMembers file env sourcePath = .ok settings) {text : String}
    (hSets : env.Sets setting.override.variableName text changed) {value : Scalar}
    (hRead : Override.read setting.override.type text = .ok value) {settings' : Settings}
    (hForm : setting.normalForm (.scalar value) = some (settings'.value setting))
    (hOthers : ∀ other, other ≠ setting → settings'.value other = settings.value other)
    (hPath : settings'.sourcePath = settings.sourcePath) :
    ofMembers file changed sourcePath = .ok settings' := by
  have hText : setting.variableText? changed = some text := hSets.value
  have hRaw : setting.rawValue changed file = some (.scalar value) := by
    rw [Setting.rawValue, hText]
    dsimp only
    rw [hRead]
    rfl
  refine ofMembers_of_others setting hFile hSettings (fun other => hSets.variableText?) (fun hNone => ?_) hRaw hForm
    hOthers hPath
  rw [hText] at hNone
  cases hNone

/-! ### Chains of changes -/

/-- The address that a change sets. -/
def Change.url? : Change → Option String
  | .serviceUrl url => some url
  | .withoutLatency => none

/-- The last address holds, and pauses once switched off stay off. Nothing else changes. -/
theorem foldl_apply_eq (changes : List Change) (settings : Settings) :
    changes.foldl Change.apply settings =
      { settings with
        baseUrl := ((changes.filterMap Change.url?).getLast?.map normalUrl).getD settings.baseUrl
        simulateLatency := if .withoutLatency ∈ changes then false else settings.simulateLatency } := by
  induction changes using List.reverseRecOn with
  | nil => simp
  | append_singleton changes change ih =>
      rw [List.foldl_append, ih, List.filterMap_append]
      cases change with
      | serviceUrl url => simp [Change.apply, Change.url?, withServiceUrl]
      | withoutLatency => simp [Change.apply, Change.url?, withoutLatency]

/-- Whatever the file and the environment hold, another address and the switch for pauses give the same
settings by a variable as by a change of what was built. Of a chain of changes only the order of its
addresses counts, and it leaves all else as it was. -/
theorem ofMembers_agrees_with_changes (hFile : Settled file)
    (hSettings : ofMembers file env sourcePath = .ok settings) :
    (∀ url changed, Text.trim url = url → env.Sets "DBPLAY_SERVICE_URL" url changed →
        ofMembers file changed sourcePath = .ok (settings.withServiceUrl url)) ∧
      (∀ text changed, Text.lower (Text.trim text) ∈ Override.falseWords →
        env.Sets "DBPLAY_SIMULATE_LATENCY" text changed →
          ofMembers file changed sourcePath = .ok settings.withoutLatency) ∧
      (∀ changes others : List Change, changes.filterMap Change.url? = others.filterMap Change.url? →
        (.withoutLatency ∈ changes ↔ .withoutLatency ∈ others) →
          changes.foldl Change.apply settings = others.foldl Change.apply settings) ∧
      ∀ changes : List Change, changes.foldl Change.apply settings =
        { settings with
          baseUrl := ((changes.filterMap Change.url?).getLast?.map normalUrl).getD settings.baseUrl
          simulateLatency := if .withoutLatency ∈ changes then false else settings.simulateLatency } := by
  refine ⟨?_, ?_, ?_, fun changes => foldl_apply_eq changes settings⟩
  · intro url changed hTrim hSets
    have hRead : Override.read .text url = .ok (.str url) := by
      simp only [Override.read, hTrim]
    have hForm : Setting.baseUrl.normalForm (.scalar (.str url)) = some (.text (normalUrl url)) := by
      rw [Setting.normalForm, Tree.display_str]
      rfl
    refine ofMembers_of_sets .baseUrl hFile hSettings hSets hRead hForm ?_ rfl
    intro other hOther
    cases other with
    | baseUrl => exact absurd rfl hOther
    | _ => rfl
  · intro text changed hWord hSets
    have hRead := Override.read_boolean_of_falseWord hWord
    refine ofMembers_of_sets .simulateLatency hFile hSettings hSets hRead rfl ?_ rfl
    intro other hOther
    cases other with
    | simulateLatency => exact absurd rfl hOther
    | _ => rfl
  · intro changes others hUrls hLatency
    rw [foldl_apply_eq, foldl_apply_eq, hUrls]
    simp only [hLatency]

/-- A file with a list in the place of a section, which only a variable makes up for. One variable is replaced
in the midst of the others, and another one is put in front of them. -/
theorem ofMembers_agrees_with_changes_partial_file :
    let file := Tree.ofMembers [("service", .obj [("health_path", .str "/up")]), ("dispatch", .arr [.int 7])]
    let env : Environment := [("DBPLAY_SIMULATE_LATENCY", "on"), ("DBPLAY_SERVICE_URL", "http://a.test")]
    let moved : Environment := [("DBPLAY_SIMULATE_LATENCY", "on"), ("DBPLAY_SERVICE_URL", "http://db.test//")]
    let quiet : Environment := ("DBPLAY_SIMULATE_LATENCY", " oFF\t") :: env
    let changes : List Change :=
      [.withoutLatency, .serviceUrl "http://b.test", .withoutLatency, .serviceUrl "http://c.test/"]
    let others : List Change := [.serviceUrl "http://b.test", .serviceUrl "http://c.test/", .withoutLatency]
    Settled file ∧ ∃ settings, ofMembers file env "config.yaml" = .ok settings ∧
      ofMembers file moved "config.yaml" = .ok (settings.withServiceUrl "http://db.test//") ∧
      ofMembers file quiet "config.yaml" = .ok settings.withoutLatency ∧
      changes.foldl Change.apply settings = others.foldl Change.apply settings ∧
      changes.foldl Change.apply settings =
        { settings with baseUrl := "http://c.test", simulateLatency := false } := by
  intro file env moved quiet changes others
  have hSettled : Settled file := Tree.settled_of_memberNames (by decide) (by decide)
  have hGiven : (ofMembers file env "config.yaml").toOption.isSome := by decide +kernel
  obtain ⟨settings, hSettings⟩ := Option.isSome_iff_exists.mp hGiven
  rw [toOption_eq_some_iff] at hSettings
  obtain ⟨hUrl, hLatency, hOrder, hChain⟩ := ofMembers_agrees_with_changes hSettled hSettings
  have hMoved : env.Sets "DBPLAY_SERVICE_URL" "http://db.test//" moved := by
    refine ⟨by decide, fun other hOther => ?_⟩
    simp only [env, moved, lookup_cons, if_neg hOther]
  refine ⟨hSettled, settings, hSettings, hUrl _ _ (by decide +kernel) hMoved, ?_, ?_, ?_⟩
  · exact hLatency _ _ (by decide +kernel) (env.sets_cons _ _)
  · exact hOrder changes others (by decide) (by decide)
  · rw [hChain]
    have hLast : (changes.filterMap Change.url?).getLast?.map normalUrl = some "http://c.test" := by decide +kernel
    rw [hLast]
    rfl

end Settings
end QueryPlayground
