import Mathlib.Data.List.Nodup
import QueryPlayground.Proofs.Page.CacheEntry
import QueryPlayground.Proofs.Session.Answers
import QueryPlayground.Proofs.Text.Trim

/-! Which keys of a store can be reached, and by which queries. A query reads a key if its answer would be
another one with something else under the key. Keys that a rule or the trimming of queries stands in front of
are there, and may be listed, but no query reads them. -/
namespace QueryPlayground

instance : Nontrivial Json := ⟨.null, .bool true, nofun⟩

/-- Entries with another value under a key. -/
def withEntry {α : Type} (key : String) (value : α) (entries : List (String × α)) : List (String × α) :=
  entries.map fun (other, found) => (other, if other = key then value else found)

theorem keys_withEntry {α : Type} (key : String) (value : α) (entries : List (String × α)) :
    (withEntry key value entries).map Prod.fst = entries.map Prod.fst := by
  rw [withEntry, List.map_map]
  rfl

theorem lookup_withEntry {α : Type} (key : String) (value : α) (entries : List (String × α)) (sought : String) :
    (withEntry key value entries).lookup sought =
      if sought = key then (entries.lookup key).map fun _ => value else entries.lookup sought := by
  induction entries with
  | nil => simp [withEntry]
  | cons entry entries ih =>
      obtain ⟨other, found⟩ := entry
      rw [withEntry, List.map_cons, lookup_cons, ← withEntry, ih, lookup_cons, lookup_cons]
      by_cases hSought : sought = key
      · subst hSought
        by_cases hOther : sought = other
        · simp [hOther]
        · simp [hOther]
      · by_cases hOther : sought = other
        · subst hOther
          simp [hSought]
        · simp [hSought, hOther]

/-- A key that a query may name: there is no white space around it, and it does not ask to store
something. -/
def IsPlainKey (key : String) : Prop := Text.trim key = key ∧ isSet key = false

instance (key : String) : Decidable (IsPlainKey key) := inferInstanceAs (Decidable (_ ∧ _))

/-! ### Documents -/

namespace DocumentStore

variable {store : DocumentStore} {key query : String} {record : Json}

def withRecord (store : DocumentStore) (key : String) (record : Json) : DocumentStore :=
  ⟨withEntry key record store.records⟩

/-- With another record under the key, the query would have another answer. -/
def Reads (store : DocumentStore) (query key : String) : Prop :=
  ∃ record, (store.withRecord key record).execute query ≠ store.execute query

/-- The statement that asks for all keys is no key that a query may name. -/
def IsOrdinary (key : String) : Prop := IsPlainKey key ∧ key ≠ listAll

instance (key : String) : Decidable (IsOrdinary key) := inferInstanceAs (Decidable (_ ∧ _))

theorem execute_of_lookup (hKey : IsOrdinary key) (hRecord : store.records.lookup key = some record)
    (hQuery : Text.trim query = key) : store.execute query = .ok (.document record) := by
  obtain ⟨⟨-, hSet⟩, hAll⟩ := hKey
  subst hQuery
  simp [execute, statement, hSet, hAll, hRecord]

theorem execute_listAll (hQuery : Text.trim query = listAll) :
    store.execute query = .ok (.keyList store.keys) := by
  have hSet : isSet listAll = false := by decide
  simp [execute, statement, hQuery, hSet]

/-- What a record is replaced with is seen by the queries that name its key, as long as it is an ordinary one,
and by no others. -/
theorem execute_withRecord (hRecord : store.records.lookup key = some record) (other : Json) :
    (IsOrdinary key → Text.trim query = key →
        (store.withRecord key other).execute query = .ok (.document other)) ∧
      (¬(IsOrdinary key ∧ Text.trim query = key) →
        (store.withRecord key other).execute query = store.execute query) := by
  have hReplaced : (store.withRecord key other).records.lookup key = some other := by
    rw [withRecord, lookup_withEntry, if_pos rfl, hRecord, Option.map_some]
  refine ⟨fun hKey hQuery => execute_of_lookup hKey hReplaced hQuery, fun hNot => ?_⟩
  have hKeys : (store.withRecord key other).keys = store.keys := keys_withEntry key other store.records
  unfold execute statement
  dsimp only
  rw [hKeys]
  cases hSet : isSet (Text.trim query) with
  | true => rfl
  | false =>
      by_cases hAll : Text.trim query = listAll
      · rw [if_pos hAll, if_pos hAll]
      · have hQuery : Text.trim query ≠ key := by
          rintro rfl
          exact hNot ⟨⟨⟨Text.trim_trim query, hSet⟩, hAll⟩, rfl⟩
        rw [withRecord, lookup_withEntry, if_neg hQuery]

theorem reads_iff (hRecord : store.records.lookup key = some record) :
    store.Reads query key ↔ IsOrdinary key ∧ Text.trim query = key := by
  constructor
  · rintro ⟨other, hOther⟩
    exact Classical.byContradiction fun hNot => hOther ((execute_withRecord hRecord other).2 hNot)
  · rintro ⟨hKey, hQuery⟩
    obtain ⟨other, hOther⟩ := exists_ne record
    refine ⟨other, fun hSame => hOther ?_⟩
    rw [(execute_withRecord hRecord other).1 hKey hQuery, execute_of_lookup hKey hRecord hQuery] at hSame
    exact Outcome.document.inj (Except.ok.inj hSame)

end DocumentStore

/-! ### The cache -/

namespace CacheStore

variable {store : CacheStore} {key query text : String} {value : Json}

def withText (store : CacheStore) (key text : String) : CacheStore := ⟨withEntry key text store.entries⟩

/-- With another text under the key, the query would have another answer. -/
def Reads (store : CacheStore) (query key : String) : Prop :=
  ∃ text, (store.withText key text).execute query ≠ store.execute query

/-- In the cache every plain key is looked up, and no query but the one that names it sees its text. -/
theorem execute_withText (hEntry : store.entries.lookup key = some text) (other : String) :
    (IsPlainKey key → Text.trim query = key → ∀ value, Json.read other = .ok value →
        (store.withText key other).execute query = .ok (.cacheHit value)) ∧
      (¬(IsPlainKey key ∧ Text.trim query = key) →
        (store.withText key other).execute query = store.execute query) := by
  have hReplaced : (store.withText key other).entries.lookup key = some other := by
    rw [withText, lookup_withEntry, if_pos rfl, hEntry, Option.map_some]
  refine ⟨fun hKey hQuery value hRead => execute_of_lookup hQuery hKey.2 hReplaced hRead, fun hNot => ?_⟩
  unfold execute statement
  dsimp only
  cases hSet : isSet (Text.trim query) with
  | true => rfl
  | false =>
      have hQuery : Text.trim query ≠ key := by
        rintro rfl
        exact hNot ⟨⟨Text.trim_trim query, hSet⟩, rfl⟩
      rw [withText, lookup_withEntry, if_neg hQuery]

/-- Whatever stands under the key, it has another text beside it with another answer. -/
theorem reads_iff (hEntry : store.entries.lookup key = some text) :
    store.Reads query key ↔ IsPlainKey key ∧ Text.trim query = key := by
  constructor
  · rintro ⟨other, hOther⟩
    exact Classical.byContradiction fun hNot => hOther ((execute_withText hEntry other).2 hNot)
  · rintro ⟨hKey, hQuery⟩
    obtain ⟨other, found, hFound, hDifferent⟩ : ∃ other found, Json.read other = .ok found ∧
        store.execute query ≠ .ok (.cacheHit found) := by
      by_cases hNull : store.execute query = .ok (.cacheHit .null)
      · refine ⟨_, _, (Json.Storable.bool true).read_write Json.Style.spaced_isReadable, ?_⟩
        rw [hNull]
        nofun
      · exact ⟨_, _, Json.Storable.null.read_write Json.Style.spaced_isReadable, hNull⟩
    refine ⟨other, fun hSame => hDifferent ?_⟩
    rw [← hSame, (execute_withText hEntry other).1 hKey hQuery _ hFound]

end CacheStore

/-! ### Both stores -/

/-- Which keys can be reached. A document store lists all its keys, each one once and in order, to the one
statement that asks for them. What is under an ordinary key is read by just the queries that name it, and they
get it for their answer; what is under any other key no query reads. In the cache the statement that lists
keys elsewhere is a key like any other. What is under a key there is a text, and the queries get its value if it is
a JSON text without integers that are too long to be read. -/
theorem stores_reach_keys :
    (∀ store : DocumentStore, store.keys.Nodup →
      (∀ query, Text.trim query = DocumentStore.listAll →
        store.execute query = .ok (.keyList (store.records.map Prod.fst)) ∧
          ∀ key, (store.records.map Prod.fst).count key = if (store.records.lookup key).isSome then 1 else 0) ∧
      ∀ key record, store.records.lookup key = some record →
        (DocumentStore.IsOrdinary key → ∀ query, (store.Reads query key ↔ Text.trim query = key) ∧
          (Text.trim query = key → store.execute query = .ok (.document record))) ∧
        (¬DocumentStore.IsOrdinary key → ∀ query other,
          (store.withRecord key other).execute query = store.execute query)) ∧
    (∀ store : CacheStore, ∀ key text, store.entries.lookup key = some text →
      (IsPlainKey key → ∀ query, store.Reads query key ↔ Text.trim query = key) ∧
        (Json.IsText Text.maxIntegerDigits text → ∃ value, Json.read text = .ok value ∧
          (IsPlainKey key → ∀ query, Text.trim query = key → store.execute query = .ok (.cacheHit value))) ∧
        (¬IsPlainKey key → ∀ query other,
          (store.withText key other).execute query = store.execute query)) := by
  refine ⟨fun store hNodup => ⟨fun query hQuery => ⟨store.execute_listAll hQuery, fun key => ?_⟩, ?_⟩, ?_⟩
  · cases hFound : store.records.lookup key with
    | none => exact List.count_eq_zero.mpr (notMem_keys_of_lookup hFound)
    | some record => exact List.count_eq_one_of_mem hNodup (mem_keys_of_lookup hFound)
  · intro key record hRecord
    refine ⟨fun hKey query => ⟨?_, store.execute_of_lookup hKey hRecord⟩, fun hKey query other => ?_⟩
    · rw [DocumentStore.reads_iff hRecord, and_iff_right hKey]
    · exact (DocumentStore.execute_withRecord hRecord other).2 fun h => hKey h.1
  · intro store key text hEntry
    refine ⟨fun hKey query => ?_, fun hText => ?_, fun hKey query other => ?_⟩
    · rw [CacheStore.reads_iff hEntry, and_iff_right hKey]
    · obtain ⟨value, hRead⟩ := (Json.read_iff text).mpr hText
      exact ⟨value, hRead, fun hKey query hQuery => CacheStore.execute_of_lookup hQuery hKey.2 hEntry hRead⟩
    · exact (CacheStore.execute_withText hEntry other).2 fun h => hKey h.1

/-- Keys that differ in white space or begin like a statement, and one that is such a statement. -/
theorem stores_reach_keys_shadowed :
    let documents : DocumentStore :=
      ⟨[("SET", .int 1), (" SET ", .int 2), ("SET k", .int 3), ("KEYS *", .int 4), ("\u2003k", .int 5)]⟩
    let cache : CacheStore := ⟨[("KEYS *", Json.write .spaced (.arr [.int 1])), ("SET ", Json.write .spaced .null)]⟩
    documents.keys.Nodup ∧
      documents.execute "\x1c KEYS *\u3000" = .ok (.keyList ["SET", " SET ", "SET k", "KEYS *", "\u2003k"]) ∧
      (documents.Reads "SET \n" "SET" ∧ documents.execute "SET \n" = .ok (.document (.int 1))) ∧
      (∀ key ∈ [" SET ", "SET k", "KEYS *", "\u2003k"], ∀ query other,
        (documents.withRecord key other).execute query = documents.execute query) ∧
      (cache.Reads "\u00a0KEYS *" "KEYS *" ∧
        cache.execute "\u00a0KEYS *" = .ok (.cacheHit (.arr [.int 1]))) ∧
      ∀ query other, (cache.withText "SET " other).execute query = cache.execute query := by
  intro documents cache
  have hNodup : documents.keys.Nodup := by decide
  have hNumbers : Json.Storable (.arr [.int 1]) :=
    .arr (List.forall_mem_singleton.mpr (.int (Json.isWritable_of_lt (by decide))))
  obtain ⟨hList, hRecords⟩ := stores_reach_keys.1 documents hNodup
  have hEntries := stores_reach_keys.2 cache
  refine ⟨hNodup, (hList _ (by decide)).1, ?_, ?_, ?_, ?_⟩
  · obtain ⟨hReads, hAnswer⟩ := (hRecords "SET" _ rfl).1 (by decide) "SET \n"
    exact ⟨hReads.mpr (by decide), hAnswer (by decide)⟩
  · simp only [List.forall_mem_cons]
    exact ⟨(hRecords _ _ rfl).2 (by decide), (hRecords _ _ rfl).2 (by decide), (hRecords _ _ rfl).2 (by decide),
      (hRecords _ _ rfl).2 (by decide), nofun⟩
  · obtain ⟨hReads, hValue, -⟩ := hEntries "KEYS *" _ rfl
    obtain ⟨value, hRead, hAnswer⟩ := hValue (hNumbers.write_isText Json.Style.spaced_isReadable)
    obtain rfl : value = .arr [.int 1] :=
      Except.ok.inj (hRead.symm.trans (hNumbers.read_write Json.Style.spaced_isReadable))
    exact ⟨(hReads (by decide) _).mpr (by decide), hAnswer (by decide) _ (by decide)⟩
  · obtain ⟨-, -, hShadowed⟩ := hEntries "SET " _ rfl
    exact hShadowed (by decide)

/-- A text of an integer that is too long to be read. The query that names its key gets no value. -/
theorem stores_reach_keys_long_entry :
    let cache : CacheStore := ⟨[("k", String.ofList (Json.ones 4301))]⟩
    cache.HoldsTexts 4301 ∧ IsPlainKey "k" ∧ Text.trim "k" = "k" ∧
      cache.execute "k" = .error (.unreadable (.integerTooLong 4301)) := by
  intro cache
  have hText : Json.IsText 4301 (String.ofList (Json.ones 4301)) := Json.isText_ones 4300
  have hRead : Json.read (String.ofList (Json.ones 4301)) = .error (.integerTooLong 4301) :=
    Json.read_ones (by decide)
  have hTrim : Text.trim "k" = "k" := by decide
  have hKey : IsPlainKey "k" := by decide
  have hEntry : cache.entries.lookup "k" = some (String.ofList (Json.ones 4301)) := by
    rw [lookup_cons, if_pos rfl]
  exact ⟨List.forall_mem_singleton.mpr hText, hKey, hTrim, CacheStore.execute_of_unreadable hTrim hKey.2 hEntry hRead⟩

end QueryPlayground
