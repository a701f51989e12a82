import QueryPlayground.Proofs.CommandLine.Invocation
import QueryPlayground.Proofs.CommandLine.Printed
import QueryPlayground.Proofs.Session.Display
import QueryPlayground.Proofs.Session.Overlap
import QueryPlayground.Proofs.Session.StandIns
import QueryPlayground.Proofs.Session.Verdict
import QueryPlayground.Proofs.Settings.Startup

/-! What a call prints. The run command comes to a model, whatever is asked and whatever the service replies,
and with JSON as its format it prints the model as one text and nothing else, from which the model can be read
again. Whatever else there is to say goes to the log. A text with surrogates of a reply cannot be printed; then
nothing is, and the call fails. -/
namespace QueryPlayground

open Service

/-- A model is one storable value, as long as its number can be written. -/
theorem Page.Model.toJson_storable {model : Page.Model} (h : Text.isWritable model.sequence = true) :
    model.toJson.Storable := by
  refine .obj (by simp) ?_
  simp only [List.forall_mem_cons]
  refine ⟨.int h, .bool _, .str _, .str _, ?stats, List.forall_mem_nil _⟩
  refine .obj (by simp) (List.forall_mem_cons.mpr ⟨.str _, List.forall_mem_singleton.mpr (.arr ?_)⟩)
  intro item hItem
  obtain ⟨⟨label, value⟩, _, rfl⟩ := List.mem_map.mp hItem
  exact .arr (List.forall_mem_cons.mpr ⟨.str label, List.forall_mem_singleton.mpr (.str value)⟩)

namespace Playground

/-- A query that is run from its start to its end holds to its forecast. -/
theorem execute_fulfils (playground : Playground) (query : String) (outside : Outside) (trace : Trace) :
    (Pending.through ((playground.execute query).perform outside trace).1.2).Fulfils
      (playground.dispatcher.forecast outside trace.counts (Text.trim query) playground.selection.mode)
      (playground.dispatcher.issued + 1) := by
  obtain ⟨ticket, hSequence, hSays⟩ := playground.dispatcher.run_spec (Text.trim query)
    playground.selection.mode.tag outside trace
  rw [Dispatcher.forecastTag, Mode.parse_tag] at hSays
  have hPage := fulfils_of_says hSays
  rw [hSequence] at hPage
  rw [execute_perform]
  dsimp only
  rw [(publish_spec _ _).2.2.2]
  exact hPage

/-- A query that is run from its start to its end comes to a model, which carries the next number. -/
theorem execute_model (playground : Playground) {query : String} {outside : Outside} (trace : Trace)
    (hRecords : playground.dispatcher.registry.documents.HoldsRecords)
    (hTexts : playground.dispatcher.registry.cache.FindsText (Text.trim query) Text.maxIntegerDigits)
    (hChance : ∀ n, ∃ x, outside.chance n = .real x)
    (hExchange : playground.selection.mode = .sql →
      ∃ request, playground.dispatcher.registry.client.queryRequest (Text.trim query) = .ok request ∧
        ∀ cause message, outside.query trace.queryReplies request ≠ .abort cause message) :
    ∃ model, ((playground.execute query).perform outside trace).1.2 = .ok model ∧
      model.sequence = playground.dispatcher.issued + 1 := by
  have hSql : Mode.normalTag playground.selection.mode.tag = Mode.tag .sql → playground.selection.mode = .sql := by
    cases playground.selection.mode <;> decide
  obtain ⟨outcome, hForecast, hRecord, -⟩ := playground.dispatcher.forecastTag_spec trace.counts hRecords
    (fun _ => hTexts) hChance fun hTag => hExchange (hSql hTag)
  rw [Dispatcher.forecastTag, Mode.parse_tag] at hForecast
  have hFulfils := playground.execute_fulfils query outside trace
  dsimp only at hForecast
  rw [hForecast] at hFulfils
  obtain ⟨model, hModel⟩ := hFulfils.exists_model hRecord.renders rfl
  rw [hModel] at hFulfils
  exact ⟨model, Pending.through.inj hModel, (hFulfils.model rfl).1⟩

end Playground

namespace CommandLine

theorem perform_printLine (channel : Channel) (s : List Char) (outside : Outside) (trace : Trace) :
    (Act.printLine channel s).perform outside trace =
      ((), { trace with effects := trace.effects ++ [.print channel (printed s)] }) :=
  Act.perform_effect outside trace _

/-- Effects that print nothing leave no results. -/
theorem resultsText_eq_nil {effects : List Effect} (h : ∀ channel text, .print channel text ∉ effects) :
    resultsText effects = [] := by
  refine List.flatMap_eq_nil_iff.mpr fun effect hMem => ?_
  cases effect with
  | print channel text => exact absurd hMem (h channel text)
  | _ => rfl

theorem resultsText_concat (effects : List Effect) (channel : Channel) (text : List Char) :
    resultsText (effects ++ [.print channel text]) =
      resultsText effects ++ if channel = .results then text else [] := by
  rw [resultsText, List.flatMap_append, List.flatMap_singleton]
  cases channel <;> rfl

/-! ### A model on the terminal -/

theorem surrogates?_eq_none_iff {standIns text : List Char} :
    surrogates? standIns text = none ↔ ∀ c ∈ standIns, c ∉ text := by
  rw [surrogates?, Option.map_eq_none_iff, List.findIdx?_eq_none_iff]
  simp only [List.contains_eq_mem, decide_eq_false_iff_not]
  exact ⟨fun h c hStandIn hText => h c hText hStandIn, fun h c hText hStandIn => h c hStandIn hText⟩

/-- A text is printed as long as no surrogate in it prevents that. -/
theorem perform_printReported (s : List Char) (outside : Outside) (trace : Trace) :
    (Act.printReported s).perform outside trace =
      match surrogates? trace.standIns s with
      | some fault => (.error fault, trace)
      | none => (.ok (), { trace with effects := trace.effects ++ [.print .results s] }) := by
  have hGet : (get : Act Trace).perform outside trace = (trace, trace) := by
    unfold Act.perform
    rfl
  simp only [Act.printReported, Act.perform_bind, hGet]
  cases surrogates? trace.standIns s with
  | some fault => rw [Act.perform_pure]
  | none => simp only [Act.perform_bind, Act.perform_effect, Act.perform_pure]

/-- A model is printed as one JSON text, as long as no surrogate in it prevents that. -/
theorem perform_printModel_json {model : Page.Model} (hStorable : model.toJson.Storable) (outside : Outside)
    (trace : Trace) :
    (Context.printModel "json" model).perform outside trace =
      match surrogates? trace.standIns (model.toJson.dump.toList ++ ['\n']) with
      | some fault => (.error (.other fault.message), trace)
      | none => (.ok (), { trace with
          effects := trace.effects ++ [.print .results (model.toJson.dump.toList ++ ['\n'])] }) := by
  simp only [Context.printModel, if_true, Context.printLines, Act.perform_bind, perform_printReported,
    printed_dump hStorable]
  cases surrogates? trace.standIns (model.toJson.dump.toList ++ ['\n']) with
  | some fault => simp only [Act.perform_pure]
  | none => simp only [Act.perform_pure]

namespace JsonCall

variable (call : JsonCall) (settings : Settings) (stamp : Int)

/-- The settings that hold for the query of a call: the mode is that of the call, if it names one, and there are
no pauses if the call asks for that. -/
def adjusted : Settings :=
  { settings with
    simulateLatency := settings.simulateLatency && !call.noDelay
    defaultMode := (call.mode.map Mode.tag).getD settings.defaultMode }

/-- The trace once the program has told which service it uses. -/
def announced (trace : Trace) : Trace :=
  { trace with effects := trace.effects ++ [.log ⟨.debug, s!"dbplay using service {settings.baseUrl}"⟩] }

variable {call settings stamp} {command : Words} {outside : Outside} {trace after last : Trace}
  {playground : Playground} {model : Page.Model} {result : Except Mishap Unit}

/-- If the settings name a mode, then those of every call do. -/
theorem exists_adjusted_mode (call : JsonCall) (h : ∃ mode, Mode.parse settings.defaultMode = .ok mode) :
    ∃ mode, Mode.parse (call.adjusted settings).defaultMode = .ok mode := by
  unfold adjusted
  cases call.mode with
  | none => exact h
  | some mode => exact ⟨mode, Mode.parse_tag mode⟩

theorem ofSettings_of_parse {mode : Mode} (h : Mode.parse settings.defaultMode = .ok mode) (stamp : Int) :
    Playground.ofSettings settings stamp =
      .ok (.fresh (.make settings.baseUrl settings.healthPath settings.queryPath) settings.simulateLatency mode
        stamp) := by
  rw [Playground.ofSettings, h]
  rfl

/-- The playground of a command is that of the settings that hold for its call. -/
theorem OfCommand.context_playground (h : call.OfCommand command)
    (hMode : ∃ mode, Mode.parse settings.defaultMode = .ok mode)
    (hPlayground : Playground.ofSettings (call.adjusted settings) stamp = .ok playground) :
    Context.playground ⟨if command.isGiven "--no-delay" then settings.withoutLatency else settings, .ok stamp⟩
      command = .ok playground := by
  obtain ⟨first, hFirst⟩ := hMode
  have hStart : Playground.ofSettings (if call.noDelay then settings.withoutLatency else settings) stamp =
      .ok (.fresh (.make settings.baseUrl settings.healthPath settings.queryPath)
        (settings.simulateLatency && !call.noDelay) first stamp) := by
    cases call.noDelay with
    | false =>
        rw [Bool.not_false, Bool.and_true]
        exact ofSettings_of_parse hFirst stamp
    | true =>
        have hQuiet : Mode.parse settings.withoutLatency.defaultMode = .ok first := hFirst
        rw [Bool.not_true, Bool.and_false]
        exact ofSettings_of_parse hQuiet stamp
  unfold Context.playground
  rw [h.mode, h.noDelay]
  simp only [hStart, Except.mapError, bind, Except.bind]
  obtain ⟨mode, hMode⟩ := exists_adjusted_mode call ⟨first, hFirst⟩
  rw [ofSettings_of_parse hMode] at hPlayground
  obtain rfl := Except.ok.inj hPlayground
  cases hCall : call.mode with
  | none =>
      simp only [adjusted, hCall, Option.map_none, Option.getD_none, hFirst, Except.ok.injEq] at hMode
      subst hMode
      rfl
  | some mode' =>
      simp only [adjusted, hCall, Option.map_some, Option.getD_some, Mode.parse_tag, Except.ok.injEq] at hMode
      subst hMode
      simp only [Option.map_some, Playground.switch, Selection.switch, Mode.parse_tag]
      rfl

/-- The command prints the model of its query as one JSON text. -/
theorem OfCommand.run_perform (h : call.OfCommand command)
    (hMode : ∃ mode, Mode.parse settings.defaultMode = .ok mode)
    (hPlayground : Playground.ofSettings (call.adjusted settings) stamp = .ok playground) {left : Playground}
    (hModel : (playground.execute call.query).perform outside trace = ((left, .ok model), after))
    (hPrint : (Context.printModel "json" model).perform outside after = (result, last)) :
    (Context.run ⟨settings, .ok stamp⟩ command).perform outside trace = (result, last) := by
  have hQuery : command.rest.headD "" = call.query := by rw [h.rest]; rfl
  have hFormat : (command.value? "--format").getD "html" = "json" := by rw [h.format]; rfl
  unfold Context.run
  dsimp only
  rw [h.context_playground hMode hPlayground]
  dsimp only
  rw [Act.perform_bind, hQuery, hModel, hFormat]
  exact hPrint

/-- How a command ends by what it came to. -/
theorem OfCommand.invoke_perform (h : call.OfCommand command) {rest : List String}
    (hRead : runCommand.read rest = .ok command)
    (hRun : (Context.run ⟨settings, .ok stamp⟩ command).perform outside trace = (result, last)) :
    (invoke ⟨settings, .ok stamp⟩ "run" runCommand rest).perform outside trace =
      match result with
      | .ok () => (.code 0, last)
      | .error mishap => (exitWithNotice mishap.notice).perform outside last := by
  have hPerform : Context.perform ⟨settings, .ok stamp⟩ "run" command =
      Context.run ⟨settings, .ok stamp⟩ command := if_pos rfl
  simp only [invoke, hRead, h.help, h.check, hPerform, Bool.false_eq_true, if_false, Act.perform_bind, hRun]
  cases result with
  | ok done => simp only [Act.perform_pure]
  | error mishap => rfl

/-- However a call is spelled, the program carries it out once it has told which service it uses. -/
theorem Spells.program_perform {host : Host} {words : List String} (h : call.Spells words)
    (hShell : ShellRequest.find? host.environment = none)
    (hPath : ∀ path, call.config = some path → '\x00' ∉ path.toList)
    (hSettings : loadSettings host call.programRead = .ok settings)
    (hMode : ∃ mode, Mode.parse settings.defaultMode = .ok mode)
    (hPlayground : Playground.ofSettings (call.adjusted settings) stamp = .ok playground) {left : Playground}
    (hModel : (playground.execute call.query).perform outside (announced settings trace) = ((left, .ok model), after))
    (hPrint : (Context.printModel "json" model).perform outside after = (result, last)) :
    (program host (.ok stamp) words).perform outside trace =
      match result with
      | .ok () => ((.code 0, call.verbose), last)
      | .error mishap =>
        let (exit, last) := (exitWithNotice mishap.notice).perform outside last
        ((exit, call.verbose), last) := by
  obtain ⟨program, rest, command, hRoot, hRest, hRead, hProgram, hCommand⟩ := h
  have hWords : words.isEmpty = false := by
    cases words with
    | nil =>
        cases hRoot
        cases hRest
    | cons word words => rfl
  have hFound : commands.lookup "run" = some runCommand := rfl
  have hInvoke := hCommand.invoke_perform hRead (hCommand.run_perform hMode hPlayground hModel hPrint)
  simp only [CommandLine.program, hShell, performWords, hWords, hRoot, hProgram.help, hProgram.hasZeroInPath hPath,
    hProgram.verbose, start, hRest, hFound, hProgram.loadSettings, hSettings, Bool.false_eq_true, if_false,
    Act.perform_bind, Act.perform_log, Act.perform_pure]
  unfold announced at hInvoke
  simp only [hInvoke]
  cases result with
  | ok done => simp only
  | error mishap => simp only

section Ends

variable {host : Host} {words : List String} (h : call.Spells words)
  (hShell : ShellRequest.find? host.environment = none)
  (hPath : ∀ path, call.config = some path → '\x00' ∉ path.toList)
  (hSettings : loadSettings host call.programRead = .ok settings)
  (hMode : ∃ mode, Mode.parse settings.defaultMode = .ok mode)
  (hPlayground : Playground.ofSettings (call.adjusted settings) stamp = .ok playground) {left : Playground}
  (hModel : (playground.execute call.query).perform outside (announced settings trace) = ((left, .ok model), after))
  (hStorable : model.toJson.Storable)
include h hShell hPath hSettings hMode hPlayground hModel hStorable

/-- A model whose text holds no surrogates is printed. -/
theorem Spells.program_prints (hPlain : ∀ c ∈ after.standIns, c ∉ model.toJson.dump.toList ++ ['\n']) :
    (program host (.ok stamp) words).perform outside trace =
      ((.code 0, call.verbose), { after with
        effects := after.effects ++ [.print .results (model.toJson.dump.toList ++ ['\n'])] }) := by
  have hPrint := perform_printModel_json hStorable outside after
  rw [surrogates?_eq_none_iff.mpr hPlain] at hPrint
  exact h.program_perform hShell hPath hSettings hMode hPlayground hModel hPrint

/-- A model whose text holds a surrogate is not printed, and the call fails. -/
theorem Spells.program_complains (hStandIn : ∃ c ∈ after.standIns, c ∈ model.toJson.dump.toList ++ ['\n']) :
    ∃ fault : SurrogateFault, (program host (.ok stamp) words).perform outside trace =
      ((.code 1, call.verbose), { after with
        effects := after.effects ++
          [.print .diagnostics (printed ("Error: Unexpected error: " ++ fault.message).toList)] }) := by
  obtain ⟨c, hStandIn, hText⟩ := hStandIn
  have hPrint := perform_printModel_json hStorable outside after
  cases hFault : surrogates? after.standIns (model.toJson.dump.toList ++ ['\n']) with
  | none => exact absurd hText (surrogates?_eq_none_iff.mp hFault c hStandIn)
  | some fault =>
      rw [hFault] at hPrint
      refine ⟨fault, (h.program_perform hShell hPath hSettings hMode hPlayground hModel hPrint).trans ?_⟩
      simp only [exitWithNotice, Act.perform_bind, perform_printLine, Act.perform_pure]
      rfl

end Ends

/-- Nothing is printed while a query is run. -/
theorem execute_silent {left : Playground} {result : Except Escape Page.Model}
    (h : (playground.execute call.query).perform outside (announced settings .start) = ((left, result), after)) :
    ∀ channel text, .print channel text ∉ after.effects := by
  obtain ⟨quiet, hEffects, hQuiet⟩ :=
    (playground.grows_execute call.query outside (announced settings .start)).effects
  rw [h] at hEffects
  intro channel text hMem
  rw [hEffects] at hMem
  rcases List.mem_append.mp hMem with hMem | hMem
  · simp [announced, Trace.start] at hMem
  · exact hQuiet channel text hMem

/-- Settings that are loaded come from a file, an environment, and a change of the address if one is asked for. -/
theorem exists_source_of_loadSettings {host : Host} {words : Words} (h : loadSettings host words = .ok settings) :
    ∃ (source : Source) (sourcePath : String), Tree.Settled source.file ∧
      source.settings sourcePath = .ok settings := by
  unfold loadSettings at h
  cases hLoad : Settings.load host host.environment ((words.value? "--config").getD "") with
  | error fault =>
      rw [hLoad] at h
      cases h
  | ok built =>
      rw [hLoad] at h
      obtain ⟨path, -, members, hMembers, hBuilt⟩ :
          ∃ path, (Settings.locate host host.environment ((words.value? "--config").getD "")).mapError
              Settings.LoadFault.home = .ok path ∧ ∃ members, Settings.readFound host path = .ok members ∧
                (Settings.ofMembers members host.environment path.text).mapError
                  Settings.LoadFault.settings = .ok built := by
        simpa only [Settings.load, bind_eq_ok_iff] using hLoad
      rw [mapError_eq_ok_iff] at hBuilt
      have hChanged (changes : List Settings.Change) :
          (Source.mk members host.environment changes).settings path.text =
            .ok (changes.foldl Settings.Change.apply built) := Source.settings_eq_ok_iff.mpr ⟨built, hBuilt, rfl⟩
      have hSettled := Settings.readFound_settled hMembers
      simp only [Except.map, Except.ok.injEq] at h
      split at h
      next =>
          obtain rfl := h
          exact ⟨⟨members, _, []⟩, _, hSettled, hChanged []⟩
      next url _ =>
          split at h
          next =>
              obtain rfl := h
              exact ⟨⟨members, _, []⟩, _, hSettled, hChanged []⟩
          next =>
              obtain rfl := h
              exact ⟨⟨members, _, [.serviceUrl url]⟩, _, hSettled, hChanged [.serviceUrl url]⟩

/-- A call comes to a model whatever its mode is, and the model can be stored. -/
theorem exists_model {mode : Mode} (hMode : Mode.parse (call.adjusted settings).defaultMode = .ok mode)
    (trace : Trace) (hStamp : Text.isWritable stamp = true) (hChance : ∀ n, ∃ x, outside.chance n = .real x)
    (hExchange : mode = .sql →
      ∃ request, (Client.make settings.baseUrl settings.healthPath settings.queryPath).queryRequest
          (Text.trim call.query) = .ok request ∧
        ∀ cause message, outside.query trace.queryReplies request ≠ .abort cause message) :
    ∃ playground left model after, Playground.ofSettings (call.adjusted settings) stamp = .ok playground ∧
      (playground.execute call.query).perform outside trace = ((left, .ok model), after) ∧
        model.toJson.Storable := by
  have hPlayground := ofSettings_of_parse hMode stamp
  let playground : Playground := .fresh (.make settings.baseUrl settings.healthPath settings.queryPath)
    (settings.simulateLatency && !call.noDelay) mode stamp
  have hTexts : playground.dispatcher.registry.cache.FindsText (Text.trim call.query) Text.maxIntegerDigits :=
    (CacheStore.seed_holdsTexts hStamp).findsText _
  obtain ⟨model, hModel, hNumber⟩ := playground.execute_model trace DocumentStore.seed_holdsRecords hTexts hChance
    hExchange
  refine ⟨playground, ((playground.execute call.query).perform outside trace).1.1, model,
    ((playground.execute call.query).perform outside trace).2, hPlayground, ?_, ?_⟩
  · rw [← hModel]
  · have hIssued : playground.dispatcher.issued = 0 := rfl
    refine model.toJson_storable (Json.isWritable_of_lt ?_)
    rw [hNumber, hIssued]
    decide

end JsonCall
end CommandLine
end QueryPlayground
