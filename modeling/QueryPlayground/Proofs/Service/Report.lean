import QueryPlayground.Proofs.Except
import QueryPlayground.Proofs.Service.Body
import QueryPlayground.Proofs.Session.HealthCheck

/-! Reports of the health. A report is read in full or not at all. What a full reading tells is said here without
the order of reading and without its faults; one element of another shape, wherever it stands, spoils the whole
of the report. -/
namespace QueryPlayground

namespace Health

/-- The sample in an element: the texts of its title and its query. -/
def sampleIn (element : Json) : Sample := ⟨(element.field "title").display, (element.field "query").display⟩

/-- The samples in a value, one for each element of an array. -/
def samplesIn : Json → List Sample
  | .arr elements => elements.map sampleIn
  | _ => []

/-- The names in a value: the texts of the items of an array, the names of members, or single characters. -/
def namesIn : Json → List String
  | .arr items => items.map Json.display
  | .obj members => members.map Prod.fst
  | .str s => s.toList.map fun c => String.ofList [c]
  | _ => []

/-- All that a report tells. -/
def snapshot (report : Json) : Health :=
  ⟨(report.field "connected").isTruthy, samplesIn (report.field "sampleQueries"),
    namesIn (report.field "tableNames"), report.field "message"⟩

/-- An element that holds a sample: an object with a title and a query, whatever these are. -/
def HoldsSample (element : Json) : Prop :=
  ∃ members, element = .obj members ∧ (Json.member? "title" members).isSome = true ∧
    (Json.member? "query" members).isSome = true

/-- A value in the place of the samples that spoils a report: it counts as true, and it is no array of
elements that hold samples. -/
def SpoilsSamples (value : Json) : Prop :=
  value.isTruthy = true ∧ ¬∃ elements, value = .arr elements ∧ ∀ element ∈ elements, HoldsSample element

/-- A value in the place of the table names that spoils a report: a number or `true`, if it counts as true. -/
def SpoilsNames (value : Json) : Prop :=
  value.isTruthy = true ∧ ((∃ n, value = .int n) ∨ (∃ x, value = .float x) ∨ value = .bool true)

def Spoiled (report : Json) : Prop :=
  SpoilsSamples (report.field "sampleQueries") ∨ SpoilsNames (report.field "tableNames")

/-! ### Samples -/

theorem readSample_of_holds {element : Json} (h : HoldsSample element) :
    readSample element = .ok (sampleIn element) := by
  obtain ⟨members, rfl, hTitle, hQuery⟩ := h
  obtain ⟨title, hTitle⟩ := Option.isSome_iff_exists.mp hTitle
  obtain ⟨query, hQuery⟩ := Option.isSome_iff_exists.mp hQuery
  simp [readSample, sampleIn, Json.item, Json.field, hTitle, hQuery, bind, Except.bind, pure, Except.pure]

theorem exists_member_of_item {value found : Json} {name : String} (h : value.item name = .ok found) :
    ∃ members, value = .obj members ∧ (Json.member? name members).isSome = true := by
  cases value with
  | obj members =>
      refine ⟨members, rfl, ?_⟩
      cases hMember : Json.member? name members with
      | none => simp [Json.item, hMember] at h
      | some other => rfl
  | _ => cases h

theorem holds_of_readSample {element : Json} {sample : Sample} (h : readSample element = .ok sample) :
    HoldsSample element := by
  obtain ⟨title, hTitle, h⟩ := bind_eq_ok_iff.mp h
  obtain ⟨query, hQuery, -⟩ := bind_eq_ok_iff.mp h
  obtain ⟨members, rfl, hHasTitle⟩ := exists_member_of_item hTitle
  obtain ⟨others, hSame, hHasQuery⟩ := exists_member_of_item hQuery
  cases hSame
  exact ⟨members, rfl, hHasTitle, hHasQuery⟩

theorem not_holdsSample_str (s : String) : ¬HoldsSample (.str s) := by
  rintro ⟨members, hText, -⟩
  cases hText

/-! ### Elements -/

theorem elementsOrNone_of_false {value : Json} (h : value.isTruthy = false) : value.elementsOrNone = .ok [] := by
  rw [Json.elementsOrNone, h, if_neg Bool.false_ne_true]

theorem elementsOrNone_of_true {value : Json} (h : value.isTruthy = true) :
    value.elementsOrNone = value.elements := by
  rw [Json.elementsOrNone, if_pos h]

theorem samplesIn_of_false {value : Json} (h : value.isTruthy = false) : samplesIn value = [] := by
  cases value with
  | arr elements =>
      obtain rfl : elements = [] := by simpa [Json.isTruthy] using h
      rfl
  | _ => rfl

theorem namesIn_of_false {value : Json} (h : value.isTruthy = false) : namesIn value = [] := by
  cases value with
  | arr items =>
      obtain rfl : items = [] := by simpa [Json.isTruthy] using h
      rfl
  | obj members =>
      obtain rfl : members = [] := by simpa [Json.isTruthy] using h
      rfl
  | str s =>
      obtain rfl : s = "" := by simpa [Json.isTruthy] using h
      rfl
  | _ => rfl

theorem samples_of_not_spoiled {value : Json} (h : ¬SpoilsSamples value) :
    ∃ elements, value.elementsOrNone = .ok elements ∧ elements.mapM readSample = .ok (samplesIn value) := by
  cases hTrue : value.isTruthy with
  | false =>
      refine ⟨[], elementsOrNone_of_false hTrue, ?_⟩
      rw [samplesIn_of_false hTrue]
      rfl
  | true =>
      obtain ⟨elements, rfl, hElements⟩ := Classical.not_not.mp fun hNone => h ⟨hTrue, hNone⟩
      refine ⟨elements, elementsOrNone_of_true hTrue, ?_⟩
      exact mapM_eq_ok_of_forall fun element hElement => readSample_of_holds (hElements element hElement)

/-- Names and characters are no samples, so that an array is the one value that holds some. -/
theorem not_spoilsSamples {value : Json} {elements : List Json} {samples : List Sample}
    (hElements : value.elementsOrNone = .ok elements) (hSamples : elements.mapM readSample = .ok samples) :
    ¬SpoilsSamples value := by
  rintro ⟨hTrue, hNone⟩
  have hHold : ∀ element ∈ elements, HoldsSample element := fun element hElement =>
    (forall_of_mapM_eq_ok hSamples element hElement).elim fun _ => holds_of_readSample
  rw [elementsOrNone_of_true hTrue] at hElements
  cases value with
  | arr items =>
      cases hElements
      exact hNone ⟨elements, rfl, hHold⟩
  | obj members =>
      cases hElements
      cases members with
      | nil => cases hTrue
      | cons member members => exact not_holdsSample_str member.1 (hHold _ List.mem_cons_self)
  | str s =>
      cases hElements
      cases hChars : s.toList with
      | nil => simp_all [Json.isTruthy]
      | cons c chars => exact not_holdsSample_str (String.ofList [c]) (hHold _ (by simp [hChars]))
  | _ => cases hElements

theorem names_of_not_spoiled {value : Json} (h : ¬SpoilsNames value) :
    ∃ elements, value.elementsOrNone = .ok elements ∧ elements.map Json.display = namesIn value := by
  cases hTrue : value.isTruthy with
  | false =>
      refine ⟨[], elementsOrNone_of_false hTrue, ?_⟩
      rw [namesIn_of_false hTrue]
      rfl
  | true =>
      rw [elementsOrNone_of_true hTrue]
      cases value with
      | null => cases hTrue
      | bool b => exact absurd ⟨hTrue, .inr (.inr (congrArg Json.bool hTrue))⟩ h
      | int n => exact absurd ⟨hTrue, .inl ⟨n, rfl⟩⟩ h
      | float x => exact absurd ⟨hTrue, .inr (.inl ⟨x, rfl⟩)⟩ h
      | str s => exact ⟨_, rfl, by simp [namesIn, Json.display]⟩
      | arr items => exact ⟨_, rfl, rfl⟩
      | obj members => exact ⟨_, rfl, by simp [namesIn, Json.display]⟩

theorem not_spoilsNames {value : Json} {elements : List Json} (h : value.elementsOrNone = .ok elements) :
    ¬SpoilsNames value := by
  rintro ⟨hTrue, hKind⟩
  rw [elementsOrNone_of_true hTrue] at h
  rcases hKind with ⟨n, rfl⟩ | ⟨x, rfl⟩ | rfl <;> cases h

/-! ### Whole reports -/

/-- A report that nothing spoils is read in full. -/
theorem read_of_not_spoiled {report : Json} (h : ¬Spoiled report) : read report = .ok (snapshot report) := by
  rw [Spoiled, not_or] at h
  obtain ⟨elements, hElements, hSamples⟩ := samples_of_not_spoiled h.1
  obtain ⟨names, hNames, hTexts⟩ := names_of_not_spoiled h.2
  rw [read, hElements]
  change (elements.mapM readSample >>= fun samples => _) = _
  rw [hSamples, hNames]
  rw [snapshot, ← hTexts]
  rfl

/-- What is read has not been spoiled. -/
theorem not_spoiled_of_read {report : Json} {health : Health} (h : read report = .ok health) : ¬Spoiled report := by
  obtain ⟨elements, hElements, h⟩ := bind_eq_ok_iff.mp h
  obtain ⟨samples, hSamples, h⟩ := bind_eq_ok_iff.mp h
  obtain ⟨names, hNames, -⟩ := bind_eq_ok_iff.mp h
  rintro (hSpoiled | hSpoiled)
  · exact not_spoilsSamples hElements hSamples hSpoiled
  · exact not_spoilsNames hNames hSpoiled

/-- What comes of a spoiled report: a word on it in the place of the message, and a warning. -/
def IsMalformed (health : Health) (lines : List LogLine) : Prop :=
  ∃ detail : String, health = disconnected (.str s!"Malformed health response: {detail}") ∧
    lines = [⟨.warning, s!"Health response was malformed: {detail}"⟩]

end Health

open Health (IsMalformed Spoiled snapshot)

namespace Service

/-- A body that carries a report: an object with an object under `data`. -/
def Carries (body : Json) (report : List (String × Json)) : Prop :=
  ∃ members, body = .obj members ∧ Json.member? "data" members = some (.obj report)

namespace Client

theorem envelopeData?_of_carries {body : Json} {report : List (String × Json)} (h : Carries body report) :
    envelopeData? body = some (.obj report) := by
  obtain ⟨members, rfl, hData⟩ := h
  simp [envelopeData?, Json.field, hData]

theorem carries_of_envelopeData? {body payload : Json} (h : envelopeData? body = some payload) :
    ∃ report, payload = .obj report ∧ Carries body report := by
  unfold envelopeData? at h
  split at h
  next report hField =>
      refine ⟨report, (Option.some.inj h).symm, ?_⟩
      cases body with
      | obj members =>
          refine ⟨members, rfl, ?_⟩
          cases hData : Json.member? "data" members with
          | none =>
              rw [Json.field, hData] at hField
              cases hField
          | some value =>
              rw [Json.field, hData] at hField
              exact congrArg some hField
      | _ => cases hField
  next => cases h

theorem healthOf_of_not_carries {body : Json} (h : ¬∃ report, Carries body report) :
    (healthOf (.ok body)).1.IsDisconnected := by
  have hNone : envelopeData? body = none := by
    cases hData : envelopeData? body with
    | none => rfl
    | some payload =>
        obtain ⟨report, -, hCarries⟩ := carries_of_envelopeData? hData
        exact absurd ⟨report, hCarries⟩ h
  simp only [healthOf, hNone]
  exact Health.isDisconnected_disconnected _

theorem healthOf_of_spoiled {body : Json} {report : List (String × Json)} (hCarries : Carries body report)
    (hSpoiled : Spoiled (.obj report)) : IsMalformed (healthOf (.ok body)).1 (healthOf (.ok body)).2 := by
  have hRead : ∃ fault, Health.read (.obj report) = .error fault := by
    cases hRead : Health.read (.obj report) with
    | error fault => exact ⟨fault, rfl⟩
    | ok health => exact absurd hSpoiled (Health.not_spoiled_of_read hRead)
  obtain ⟨fault, hRead⟩ := hRead
  simp only [healthOf, envelopeData?_of_carries hCarries, hRead]
  exact ⟨fault.message, rfl, rfl⟩

/-- A report that nothing spoils is told in full, and no warning is given. -/
theorem healthOf_of_not_spoiled {body : Json} {report : List (String × Json)} (hCarries : Carries body report)
    (hWhole : ¬Spoiled (.obj report)) :
    (healthOf (.ok body)).1 = snapshot (.obj report) ∧
      ¬IsMalformed (healthOf (.ok body)).1 (healthOf (.ok body)).2 := by
  have hHealth : ∃ message, healthOf (.ok body) = (snapshot (.obj report), [⟨.debug, message⟩]) := by
    simp only [healthOf, envelopeData?_of_carries hCarries, Health.read_of_not_spoiled hWhole]
    exact ⟨_, rfl⟩
  obtain ⟨message, hHealth⟩ := hHealth
  rw [hHealth]
  refine ⟨rfl, ?_⟩
  rintro ⟨detail, -, hLines⟩
  cases hLines

/-- The value of a body is taken for a report in full, or for one of a service that is not connected. The latter
happens without a report, and with one just if its samples or its table names spoil it. -/
theorem readHealth_all_or_nothing (client : Client) (status : Int) {bytes : List UInt8} {body : Json}
    (hBody : bodyValue? bytes = some body) :
    ∃ health lines, client.readHealth (.response status bytes) = .ok (health, lines) ∧
      (health.IsDisconnected ∨ ∃ report, Carries body report ∧ health = snapshot (.obj report)) ∧
      ((¬∃ report, Carries body report) → health.IsDisconnected) ∧
      ∀ report, Carries body report →
        (IsMalformed health lines ↔ Spoiled (.obj report)) ∧
        (¬Spoiled (.obj report) → health = snapshot (.obj report)) := by
  refine ⟨(healthOf (.ok body)).1, (healthOf (.ok body)).2, ?_, ?_, healthOf_of_not_carries, ?_⟩
  · simp only [readHealth, replyValue, hBody, Except.map]
  · by_cases hCarries : ∃ report, Carries body report
    · obtain ⟨report, hReport⟩ := hCarries
      by_cases hSpoiled : Spoiled (.obj report)
      · obtain ⟨detail, hHealth, -⟩ := healthOf_of_spoiled hReport hSpoiled
        rw [hHealth]
        exact .inl (Health.isDisconnected_disconnected _)
      · exact .inr ⟨report, hReport, (healthOf_of_not_spoiled hReport hSpoiled).1⟩
    · exact .inl (healthOf_of_not_carries hCarries)
  · intro report hReport
    refine ⟨⟨?_, healthOf_of_spoiled hReport⟩, fun hWhole => (healthOf_of_not_spoiled hReport hWhole).1⟩
    intro hMalformed
    refine Classical.byContradiction fun hWhole => ?_
    exact (healthOf_of_not_spoiled hReport hWhole).2 hMalformed

/-- A second sample without a query spoils the first one too; without it the texts of both members and the
characters of the names are told. -/
theorem readHealth_all_or_nothing_half_sample :
    let client : Client := ⟨"http://sql.test", "/", "/api/query"⟩
    let bytes (samples : List Json) := Text.utf8Bytes (Json.write .compact (.obj [("data",
      .obj [("connected", .str "no"), ("sampleQueries", .arr samples), ("tableNames", .str "ab")])])).toList
    (∃ health lines, client.readHealth (.response 503 (bytes [.obj [("query", .null), ("title", .int 7)],
        .obj [("title", .str "t")]])) = .ok (health, lines) ∧ IsMalformed health lines) ∧
      ∃ lines, client.readHealth (.response 503 (bytes [.obj [("query", .null), ("title", .int 7)]])) =
        .ok (⟨true, [⟨"7", "None"⟩], ["a", "b"], .null⟩, lines) := by
  intro client bytes
  have hWhole : Json.Storable (.obj [("query", .null), ("title", .int 7)]) := by
    refine .obj (by decide) ?_
    simp only [List.forall_mem_cons]
    exact ⟨.null, .int (Json.isWritable_of_lt (by decide)), by simp⟩
  have hHalf : Json.Storable (.obj [("title", .str "t")]) :=
    .obj (by decide) (List.forall_mem_singleton.mpr (.str "t"))
  have hBody {samples : List Json} (hSamples : ∀ sample ∈ samples, sample.Storable) :
      bodyValue? (bytes samples) = some (.obj [("data",
        .obj [("connected", .str "no"), ("sampleQueries", .arr samples), ("tableNames", .str "ab")])]) := by
    refine bodyValue?_write Json.Style.compact_isReadable (.obj (by simp) ?_)
    refine List.forall_mem_singleton.mpr (.obj (by simp) ?_)
    simp only [List.forall_mem_cons]
    exact ⟨.str _, .arr hSamples, .str _, by simp⟩
  constructor
  · obtain ⟨health, lines, hRead, -, -, hReport⟩ := readHealth_all_or_nothing client 503
      (hBody (List.forall_mem_cons.mpr ⟨hWhole, List.forall_mem_singleton.mpr hHalf⟩))
    refine ⟨health, lines, hRead, (hReport _ ⟨_, rfl, rfl⟩).1.mpr (.inl ⟨rfl, ?_⟩)⟩
    rintro ⟨elements, hElements, hHold⟩
    cases hElements
    obtain ⟨members, hMembers, -, hQuery⟩ := hHold (.obj [("title", .str "t")]) (by simp)
    cases hMembers
    cases hQuery
  · obtain ⟨health, lines, hRead, -, -, hReport⟩ := readHealth_all_or_nothing client 503
      (hBody (List.forall_mem_singleton.mpr hWhole))
    have hSound : ¬Spoiled (.obj [("connected", .str "no"),
        ("sampleQueries", .arr [.obj [("query", .null), ("title", .int 7)]]), ("tableNames", .str "ab")]) := by
      rintro (⟨-, hNone⟩ | ⟨-, ⟨n, hNumber⟩ | ⟨x, hNumber⟩ | hTrue⟩)
      · exact hNone ⟨_, rfl, List.forall_mem_singleton.mpr ⟨_, rfl, rfl, rfl⟩⟩
      · cases hNumber
      · cases hNumber
      · cases hTrue
    rw [(hReport _ ⟨_, rfl, rfl⟩).2 hSound] at hRead
    exact ⟨lines, hRead⟩

end Client
end Service
end QueryPlayground
