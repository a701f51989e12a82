import QueryPlayground.Proofs.Page.TableText
import QueryPlayground.Proofs.Service.Body
import QueryPlayground.Proofs.Session.Journal
import QueryPlayground.Proofs.Session.Moves
import QueryPlayground.Proofs.Text.Trim

/-! The way of a statement to the service and back. In SQL mode a query sends one request, which holds the
statement as it was given, and sends nothing else however the exchange ends. If the service echoes what it has
received, then the page shows the statement again. -/
namespace QueryPlayground

open Service

/-! ### What is sent -/

/-- The request that an effect sends. -/
def Effect.request? : Effect → Option Request
  | .request sent => some sent
  | _ => none

namespace Stretch

/-- The requests that were sent in a stretch, in order. -/
def requests (stretch : Stretch) : List Request := stretch.effects.filterMap Effect.request?

/-- In a stretch just one request was sent, which posts a statement to an address. -/
def PostsOnly (stretch : Stretch) (address sql : String) : Prop :=
  ∃ request, stretch.requests = [request] ∧ request.Posts address sql

theorem effects_trans {first second third : Trace} (h : first.Grows second) (h' : second.Grows third) :
    (Stretch.mk first third).effects = (Stretch.mk first second).effects ++ (Stretch.mk second third).effects := by
  obtain ⟨effects, hEffects, -⟩ := h.effects
  obtain ⟨effects', hEffects', -⟩ := h'.effects
  have hBoth : third.effects = first.effects ++ (effects ++ effects') := by
    rw [hEffects', hEffects, List.append_assoc]
  rw [effects_eq hEffects, effects_eq hEffects', effects_eq hBoth]

theorem requests_trans {first second third : Trace} (h : first.Grows second) (h' : second.Grows third) :
    (Stretch.mk first third).requests =
      (Stretch.mk first second).requests ++ (Stretch.mk second third).requests := by
  rw [requests, effects_trans h h', List.filterMap_append]
  rfl

/-- No request is for debugging. -/
theorem requests_eq (stretch : Stretch) : stretch.requests = stretch.doings.filterMap Effect.request? := by
  rw [requests, doings, List.filterMap_filter]
  refine congrArg (fun request? => stretch.effects.filterMap request?) (funext fun effect => ?_)
  cases effect with
  | log line => cases Effect.isDebug (.log line) <;> rfl
  | _ => rfl

theorem Does.requests {stretch : Stretch} {readings : List Binary64} {draws replies : Nat} {doings : List Effect}
    (h : stretch.Does readings draws replies doings) :
    stretch.requests = doings.filterMap Effect.request? := by
  rw [requests_eq, h.doings]

end Stretch

namespace Dispatcher

variable (outside : Outside) (trace : Trace)

/-- Behind its reply a dispatch sends nothing. -/
theorem finish_reply_requests (ticket : Ticket) (client : Client) (reply : Reply) :
    (Stretch.mk trace ((finish ⟨ticket, .reply client reply⟩).perform outside trace).2).requests = [] := by
  cases hRead : client.readOutcome reply with
  | error abort =>
      have hNothing : finish ⟨ticket, .reply client reply⟩ = pure (.error (.aborted abort)) := by
        unfold finish
        simp only [hRead]
      rw [hNothing, Act.perform_pure, Stretch.requests, Stretch.effects, List.drop_length, List.filterMap_nil]
  | ok read =>
      obtain ⟨outcome, lines⟩ := read
      obtain ⟨finished, after, hFinish, hDoes⟩ := finish_reply outside trace ticket hRead
      rw [hFinish, hDoes.requests]
      refine List.filterMap_eq_nil_iff.mpr fun effect hEffect => ?_
      obtain ⟨line, -, rfl⟩ := List.mem_map.mp (List.mem_filter.mp hEffect).1
      rfl

variable {dispatcher : Dispatcher} {tag address : String} (hMode : Mode.parse tag = .ok .sql)
  (hAddress : Address.normalize (dispatcher.registry.client.url dispatcher.registry.client.queryPath) = .ok address)
include hMode hAddress

/-- A dispatch in SQL mode posts its statement, and ends as the reply to it says. -/
theorem run_posts (sql : String) :
    let ran := (dispatcher.run sql tag).perform outside trace
    ∃ request, request.Posts address sql ∧ (Stretch.mk trace ran.2).requests = [request] ∧
      ∀ outcome lines,
        dispatcher.registry.client.readOutcome (outside.query trace.queryReplies request) = .ok (outcome, lines) →
        ∃ ticket finished, ran.1.2 = .ok ⟨ticket, outcome, finished⟩ := by
  obtain ⟨request, hRequest, hPosts⟩ := Client.queryRequest_posts hAddress sql
  obtain ⟨between, hStart, hDoes⟩ := start_remote dispatcher sql outside trace hMode rfl hRequest
  have hOpening := dispatcher.grows_start sql tag outside trace
  rw [hStart] at hOpening
  simp only [run, Act.perform_bind, hStart, Act.perform_pure]
  -- All that is sent is sent up to the wait, and all that is known of the end is known from the reply.
  refine ⟨request, hPosts, ?_, ?_⟩
  · rw [Stretch.requests_trans hOpening (grows_finish _ outside between), hDoes.requests, finish_reply_requests]
    rfl
  · intro outcome lines hRead
    obtain ⟨finished, after, hFinish, -⟩ :=
      finish_reply outside between (dispatcher.ticket sql outside trace (some .sql)) hRead
    rw [hFinish]
    exact ⟨_, _, rfl⟩

end Dispatcher

/-! ### What comes back -/

/-- An envelope that echoes a text: it holds a table with one column and one row, whose only cell is the text. -/
def Json.Echoes (envelope : Json) (text : String) : Prop :=
  ∃ payload column, Client.envelopeData? envelope = some payload ∧ payload.field "type" = .str "TABLE" ∧
    (payload.field "data").field "columns" = .arr [column] ∧
    (payload.field "data").field "rows" = .arr [.arr [.str text]]

/-- A service that echoes each statement that it receives. -/
def Outside.EchoesSql (outside : Outside) : Prop :=
  ∀ n request sql, Json.read request.body = .ok (statementObject sql) →
    ∃ envelope, (outside.query n request).Brings envelope ∧ envelope.Echoes sql

/-- The envelope in which a text is written back. -/
def Service.echoEnvelope (text : String) : Json :=
  .obj [("data", .obj [("type", .str "TABLE"), ("execTimeMs", .int 2),
    ("data", .obj [("columns", .arr [.str "sql"]), ("rows", .arr [.arr [.str text]])])])]

/-- The reply of a service that reads the statement in a request and writes it back. -/
def Service.echoReply (request : Request) : Reply :=
  match Json.read request.body with
  | .ok (.obj [("sql", .str sql)]) =>
    .response 200 (Text.utf8Bytes (Json.write .compact (echoEnvelope sql)).toList)
  | _ => .failure "no statement"

theorem Service.echoEnvelope_storable (text : String) : (echoEnvelope text).Storable := by
  refine .obj (by simp) (List.forall_mem_singleton.mpr (.obj (by simp) ?_))
  simp only [List.forall_mem_cons]
  refine ⟨.str _, .int (Json.isWritable_of_lt (by decide)), .obj (by simp) ?_, List.forall_mem_nil _⟩
  simp only [List.forall_mem_cons]
  exact ⟨.arr (List.forall_mem_singleton.mpr (.str _)),
    .arr (List.forall_mem_singleton.mpr (.arr (List.forall_mem_singleton.mpr (.str _)))), List.forall_mem_nil _⟩

theorem Outside.echoesSql_of_echoReply {outside : Outside} (h : ∀ n, outside.query n = echoReply) :
    outside.EchoesSql := by
  intro n request sql hBody
  refine ⟨echoEnvelope sql, ?_, ?_⟩
  · rw [h n, echoReply, hBody]
    exact .written Json.Style.compact_isReadable (echoEnvelope_storable sql)
  · exact ⟨_, _, rfl, rfl, rfl, rfl⟩

namespace Page

/-- The texts in the cells of a table's body, row by row. -/
def bodyTexts (html : Html) : List (List (List Char)) :=
  (Html.bodyRows html).map fun row =>
    (Html.between (Html.tag "td") (Html.tag "/td") row).map Html.decodeEntities

/-- The page of an echo is a table whose body has a single cell. -/
theorem render_echo {envelope : Json} {text : String} (hEchoes : envelope.Echoes text) :
    ∃ payload, Client.envelopeData? envelope = some payload ∧
      ∀ elapsed sequence, ∃ model, render (Payload.outcome payload) elapsed sequence = .ok model ∧
        bodyTexts model.content = [[text.toList]] := by
  obtain ⟨payload, column, hPayload, hType, hColumns, hRows⟩ := hEchoes
  have hScalar : Payload.isScalar (.str "TABLE") = false := by decide
  have hOutcome : Payload.outcome payload =
      .table [column.display] [[.str text]] (Payload.numberOrZero (payload.field "execTimeMs")) := by
    simp [Payload.outcome, hType, hScalar, hColumns, hRows, Payload.tableParts, Payload.items?, Payload.rowCells]
  have hSome : [[Json.str text]] ≠ [] := List.cons_ne_nil _ _
  have hBody := bodyRows_tableView [column.display] hSome
  refine ⟨payload, hPayload, fun elapsed sequence => ?_⟩
  rw [hOutcome]
  refine ⟨_, rfl, ?_⟩
  have hTexts : bodyTexts (tableView [column.display] [[.str text]]) = [[text.toList]] := by
    have hCell : alignRow 1 [Json.str text] = [text.toList] := rfl
    simp only [bodyTexts, hBody, List.map_cons, List.map_nil, List.length_singleton, hCell, between_cells,
      Html.decodeEntities_escape]
  exact hTexts

end Page

namespace Playground

/-- SQL text reaches the service and comes back unaltered. A dispatch in SQL mode posts its statement as it is,
and a query posts what is left of its text when the white space around it is trimmed. Once the service echoes
what it receives, the page of the query shows this text in the only cell of its table. -/
theorem execute_echoed {playground : Playground} {address : String} (hMode : playground.selection.mode = .sql)
    (hAddress : Address.normalize (playground.dispatcher.registry.client.url
      playground.dispatcher.registry.client.queryPath) = .ok address)
    (query : String) (outside : Outside) (trace : Trace) :
    let executed := (playground.execute query).perform outside trace
    (∀ sql tag, Mode.parse tag = .ok .sql →
      (Stretch.mk trace ((playground.dispatcher.run sql tag).perform outside trace).2).PostsOnly address sql) ∧
      (Stretch.mk trace executed.2).PostsOnly address (Text.trim query) ∧
      Text.TrimsTo Text.isBlank query.toList (Text.trim query).toList ∧
      (outside.EchoesSql →
        ∃ model, executed.1.2 = .ok model ∧ Page.bodyTexts model.content = [[(Text.trim query).toList]]) := by
  intro executed
  have hParse : Mode.parse playground.selection.mode.tag = .ok .sql := by rw [Mode.parse_tag, hMode]
  obtain ⟨request, hPosts, hRequests, hEnds⟩ :=
    Dispatcher.run_posts outside trace hParse hAddress (Text.trim query)
  have hExecuted : executed = _ := playground.execute_perform outside trace query
  refine ⟨?_, ?_, Text.trim_trims query, ?_⟩
  · intro sql tag hTag
    obtain ⟨request, hPosts, hRequests, -⟩ := Dispatcher.run_posts outside trace hTag hAddress sql
    exact ⟨request, hRequests, hPosts⟩
  · rw [hExecuted]
    exact ⟨request, hRequests, hPosts⟩
  · intro hService
    obtain ⟨envelope, hBrings, hEchoes⟩ := hService trace.queryReplies request (Text.trim query) hPosts.body
    obtain ⟨payload, hPayload, hRenders⟩ := Page.render_echo hEchoes
    obtain ⟨ticket, finished, hRun⟩ := hEnds _ _ (hBrings.readOutcome hPayload _)
    rw [hExecuted]
    dsimp only
    rw [(publish_spec _ _).2.2.2, hRun]
    obtain ⟨model, hModel, hTexts⟩ := hRenders (elapsedMs ticket.started finished) ticket.sequence
    refine ⟨model, ?_, hTexts⟩
    simp only [Except.bind, Completion.render, Completion.elapsed, hModel]
    rfl

/-- A statement with marks, backslashes, tags and entities of its own, between blanks of several kinds. -/
theorem execute_echoed_markup :
    let client : Client := ⟨"http://sql.test", "/", "/api/query"⟩
    let outside : Outside := ⟨fun _ => .zero, fun _ => .real .zero, fun _ => .failure "down", fun _ => echoReply⟩
    ∃ left model after,
      ((fresh client true .sql 5).execute
        "\u2003\x1c select '</td>&lt;' as \"\\é\u0000\" \n\t").perform outside .start =
          ((left, .ok model), after) ∧
      (Stretch.mk .start after).PostsOnly "http://sql.test/api/query" "select '</td>&lt;' as \"\\é\u0000\"" ∧
      Page.bodyTexts model.content = [["select '</td>&lt;' as \"\\é\u0000\"".toList]] := by
  have hTrim : Text.trim "\u2003\x1c select '</td>&lt;' as \"\\é\u0000\" \n\t" =
      "select '</td>&lt;' as \"\\é\u0000\"" := by decide +kernel
  have hAddress : Address.normalize (Client.url ⟨"http://sql.test", "/", "/api/query"⟩ "/api/query") =
      .ok "http://sql.test/api/query" := rfl
  intro client outside
  have hMode : (fresh client true .sql 5).selection.mode = .sql := rfl
  obtain ⟨-, hPosts, -, hShows⟩ := execute_echoed hMode hAddress
    "\u2003\x1c select '</td>&lt;' as \"\\é\u0000\" \n\t" outside .start
  rw [hTrim] at hPosts hShows
  obtain ⟨model, hModel, hTexts⟩ := hShows (Outside.echoesSql_of_echoReply fun _ => rfl)
  generalize ((fresh client true .sql 5).execute
    "\u2003\x1c select '</td>&lt;' as \"\\é\u0000\" \n\t").perform outside .start = executed at hPosts hModel ⊢
  obtain ⟨⟨left, result⟩, after⟩ := executed
  cases hModel
  exact ⟨left, model, after, rfl, hPosts, hTexts⟩

end Playground
end QueryPlayground
