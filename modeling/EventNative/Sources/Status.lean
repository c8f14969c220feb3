import EventNative.Sources.Registry

/-!
# `GetStatus` and `GetLogs`

Both read one text per collection of a source's unit from meta storage,
collect the texts in a map keyed by collection, and stop at the first failing
read. They differ only in the read they make and in the text of their error,
so they are one loop with those two as parameters.

## Implementation notes

Meta storage answers a read with a function of the source and the
collection: a call reads each collection once, so every pattern of answers
is such a function. The result carries the reads made, in order. The error
is a new one, `fmt.Errorf("...: %v", err)`: it carries the text of the
failing read, not the error itself.
-/

namespace EventNative.Sources

variable {Drv : Type}

/-- The reads of `meta.Storage` that `GetStatus` and `GetLogs` make. -/
structure MetaStorage where
  getCollectionStatus : String → String → Except String String
  getCollectionLog : String → String → Except String String

/-- The loop `for collection := range sourceUnit.DriverPerCollection` of `GetStatus` and
`GetLogs`: the collections read, and the map built or the error returned. -/
def readCollections (read : String → Except String String) (errorText : String) :
    List String → GoMap String → List String × Except String (GoMap String)
  | [], result => ([], .ok result)
  | collection :: rest, result =>
      match read collection with
      | .error err => ([collection], .error (errorText ++ err))
      | .ok value =>
          let r := readCollections read errorText rest (result.set collection value)
          (collection :: r.1, r.2)

/-- The body of `GetStatus` and `GetLogs`: the reads made, as `(sourceId, collection)`, and
the map or the error. -/
def readPerCollection (read : String → String → Except String String) (errorText : String)
    (sources : Registry Drv) (sourceId : String) :
    List (String × String) × Except String (GoMap String) :=
  match sources sourceId with
  | none => ([], .error "Source doesn't exist")
  | some sourceUnit =>
      let r := readCollections (read sourceId) errorText sourceUnit.driverPerCollection.keys
        GoMap.empty
      (r.1.map (sourceId, ·), r.2)

/-- `GetStatus`. -/
def getStatus (metaStorage : MetaStorage) (sources : Registry Drv) (sourceId : String) :
    List (String × String) × Except String (GoMap String) :=
  readPerCollection metaStorage.getCollectionStatus "Error getting collection status: " sources
    sourceId

/-- `GetLogs`. -/
def getLogs (metaStorage : MetaStorage) (sources : Registry Drv) (sourceId : String) :
    List (String × String) × Except String (GoMap String) :=
  readPerCollection metaStorage.getCollectionLog "Error getting collection logs: " sources
    sourceId

/-- What a read of every collection of a unit is for: a map exactly when every read
succeeds, whose keys are the collections of the unit, each with its read's answer; otherwise
the error built from a failing read, and no map. -/
structure ReadsEachCollection (read : String → Except String String) (errorText : String)
    (u : Unit Drv) (r : Except String (GoMap String)) : Prop where
  ok_iff : (∃ m, r = .ok m) ↔
    ∀ collection ∈ u.driverPerCollection.keys, ∃ v, read collection = .ok v
  keys : ∀ m, r = .ok m → ∀ collection,
    collection ∈ m.keys ↔ collection ∈ u.driverPerCollection.keys
  get_eq : ∀ m, r = .ok m → ∀ collection v,
    m.get collection = some v ↔ collection ∈ u.driverPerCollection.keys ∧ read collection = .ok v
  error_eq : ∀ e, r = .error e → ∃ collection ∈ u.driverPerCollection.keys, ∃ err,
    read collection = .error err ∧ e = errorText ++ err

/-- How the loop of `GetStatus` and `GetLogs` reads: every collection, in order, when every
read succeeds; otherwise the collections up to the first failing read in iteration order, whose
error ends it with no map. -/
structure StopsAtFirstFailure (read : String → Except String String) (errorText sourceId : String)
    (collections : List String) (r : List (String × String) × Except String (GoMap String)) :
    Prop where
  reads_all : (∀ c ∈ collections, ∃ v, read c = .ok v) → r.1 = collections.map (sourceId, ·)
  first_failure : ∀ pre c post err, collections = pre ++ c :: post →
    (∀ c' ∈ pre, ∃ v, read c' = .ok v) → read c = .error err →
    r = ((pre ++ [c]).map (sourceId, ·), .error (errorText ++ err))

section Loop

variable (read : String → Except String String) (errorText : String)

/-- The loop reads every collection and returns the map, or stops at the first failing read
and returns its error, having read the collections up to it. -/
theorem readCollections_cases (cs : List String) (acc : GoMap String) :
    (∃ m, readCollections read errorText cs acc = (cs, .ok m) ∧
        (∀ k, m.get k = if k ∈ cs then (read k).toOption else acc.get k) ∧
        ∀ k ∈ cs, ∃ v, read k = .ok v) ∨
      ∃ pre k post err, cs = pre ++ k :: post ∧ (∀ k' ∈ pre, ∃ v, read k' = .ok v) ∧
        read k = .error err ∧
        readCollections read errorText cs acc = (pre ++ [k], .error (errorText ++ err)) := by
  induction cs generalizing acc with
  | nil => exact .inl ⟨acc, rfl, fun k => by simp, by simp⟩
  | cons c rest ih =>
      cases hc : read c with
      | error err =>
          exact .inr ⟨[], c, rest, err, rfl, by simp, hc, by simp [readCollections, hc]⟩
      | ok v =>
          rcases ih (acc.set c v) with ⟨m, hr, hget, hok⟩ | ⟨pre, k, post, err, rfl, hpre, hk, hr⟩
          · refine .inl ⟨m, by simp [readCollections, hc, hr], fun k => ?_, ?_⟩
            · rw [hget k, GoMap.get_set]
              by_cases hkr : k ∈ rest
              · simp [hkr]
              · by_cases hkc : k = c <;> simp [hkr, hkc, hc, Except.toOption]
            · rintro k (_ | ⟨_, hk⟩)
              · exact ⟨v, hc⟩
              · exact hok k hk
          · refine .inr ⟨c :: pre, k, post, err, rfl, ?_, hk, by simp [readCollections, hc, hr]⟩
            rintro k' (_ | ⟨_, hk'⟩)
            · exact ⟨v, hc⟩
            · exact hpre k' hk'

/-- The first failing read ends the loop, with the collections up to it read. -/
theorem readCollections_first_failure (pre : List String) (c : String) (post : List String)
    (err : String) (hpre : ∀ c' ∈ pre, ∃ v, read c' = .ok v) (hc : read c = .error err)
    (acc : GoMap String) :
    readCollections read errorText (pre ++ c :: post) acc = (pre ++ [c], .error (errorText ++ err)) := by
  induction pre generalizing acc with
  | nil => simp [readCollections, hc]
  | cons k pre ih =>
      obtain ⟨v, hv⟩ := hpre k (List.mem_cons_self _ _)
      rw [List.cons_append]
      simp only [readCollections, hv]
      rw [ih (fun c' h => hpre c' (List.mem_cons_of_mem _ h))]
      rfl

/-- From the empty map, over distinct collections, the loop does what it is for. -/
theorem readCollections_reads_each (u : Unit Drv) :
    ReadsEachCollection read errorText u
      (readCollections read errorText u.driverPerCollection.keys GoMap.empty).2 := by
  rcases readCollections_cases read errorText u.driverPerCollection.keys GoMap.empty with
    ⟨m, hr, hget, hok⟩ | ⟨pre, k, post, err, hcs, -, hk, hr⟩ <;> rw [hr]
  · have hget' : ∀ k v, m.get k = some v ↔ k ∈ u.driverPerCollection.keys ∧ read k = .ok v := by
      intro k v
      rw [hget k]
      split
      · cases read k <;> simp_all [Except.toOption]
      · simp_all
    refine ⟨⟨fun _ => hok, fun _ => ⟨m, rfl⟩⟩, fun m' hm k => ?_, fun m' hm => ?_,
      fun e he => nomatch he⟩
    · cases hm
      rw [GoMap.mem_keys_iff]
      simp only [hget']
      exact ⟨fun ⟨_, hk, _⟩ => hk, fun hk => (hok k hk).imp fun _ hv => ⟨hk, hv⟩⟩
    · cases hm
      exact hget'
  · have hmem : k ∈ u.driverPerCollection.keys := by rw [hcs]; simp
    refine ⟨⟨(fun ⟨_, h⟩ => nomatch h), fun h => ?_⟩, (fun _ hm => nomatch hm),
      (fun _ hm => nomatch hm), fun e he => ?_⟩
    · obtain ⟨v, hv⟩ := h k hmem
      rw [hk] at hv
      cases hv
    · cases he
      exact ⟨k, hmem, err, hk, rfl⟩

end Loop

section Reads

variable (read : String → String → Except String String) (errorText : String)
  (sources : Registry Drv) (sourceId : String)

theorem readPerCollection_none (h : sources sourceId = none) :
    readPerCollection read errorText sources sourceId = ([], .error "Source doesn't exist") := by
  simp [readPerCollection, h]

theorem readPerCollection_reads_each {u : Unit Drv} (h : sources sourceId = some u) :
    ReadsEachCollection (read sourceId) errorText u
      (readPerCollection read errorText sources sourceId).2 := by
  simp only [readPerCollection, h]
  exact readCollections_reads_each _ _ u

theorem readPerCollection_stops {u : Unit Drv} (h : sources sourceId = some u) :
    StopsAtFirstFailure (read sourceId) errorText sourceId u.driverPerCollection.keys
      (readPerCollection read errorText sources sourceId) := by
  simp only [readPerCollection, h]
  refine ⟨fun hall => ?_, fun pre c post err hcs hpre hc => ?_⟩
  · rcases readCollections_cases (read sourceId) errorText u.driverPerCollection.keys GoMap.empty
      with ⟨m, hr, -⟩ | ⟨pre, k, post, err, hcs, -, hk, -⟩
    · rw [hr]
    · obtain ⟨v, hv⟩ := hall k (by rw [hcs]; simp)
      rw [hk] at hv
      cases hv
  · rw [hcs, readCollections_first_failure _ _ pre c post err hpre hc]

end Reads

/-- `GetStatus` and `GetLogs` on an unknown source read nothing and return `NotFound`. On a
registered one each returns a map exactly when every read of the unit's collections succeeds,
keyed by those collections with the answers of meta storage; it reads the collections in their
iteration order and stops at the first failing read, returning its own error built from the
text of that read's error. -/
theorem getStatus_getLogs_read_each_collection (metaStorage : MetaStorage)
    (sources : Registry Drv) (sourceId : String) :
    (sources sourceId = none →
      getStatus metaStorage sources sourceId = ([], .error "Source doesn't exist") ∧
        getLogs metaStorage sources sourceId = ([], .error "Source doesn't exist")) ∧
    ∀ u, sources sourceId = some u →
      (ReadsEachCollection (metaStorage.getCollectionStatus sourceId)
          "Error getting collection status: " u (getStatus metaStorage sources sourceId).2 ∧
        StopsAtFirstFailure (metaStorage.getCollectionStatus sourceId)
          "Error getting collection status: " sourceId u.driverPerCollection.keys
          (getStatus metaStorage sources sourceId)) ∧
      (ReadsEachCollection (metaStorage.getCollectionLog sourceId)
          "Error getting collection logs: " u (getLogs metaStorage sources sourceId).2 ∧
        StopsAtFirstFailure (metaStorage.getCollectionLog sourceId)
          "Error getting collection logs: " sourceId u.driverPerCollection.keys
          (getLogs metaStorage sources sourceId)) :=
  ⟨fun h => ⟨readPerCollection_none _ _ _ _ h, readPerCollection_none _ _ _ _ h⟩,
    fun _ h => ⟨⟨readPerCollection_reads_each _ _ _ _ h, readPerCollection_stops _ _ _ _ h⟩,
      readPerCollection_reads_each _ _ _ _ h, readPerCollection_stops _ _ _ _ h⟩⟩

/-- A failing status read of `contacts`: `GetStatus` returns its own error, not the read's. -/
theorem getStatus_wraps_read_error :
    getStatus ⟨fun _ _ => .error "timeout", fun _ _ => .error "timeout"⟩
        (Registry.empty.set "crm" ⟨GoMap.empty.set "contacts" 0, ["warehouse"]⟩) "crm" =
      ([("crm", "contacts")], .error "Error getting collection status: timeout") ∧
    getLogs ⟨fun _ _ => .error "timeout", fun _ _ => .error "timeout"⟩
        (Registry.empty.set "crm" ⟨GoMap.empty.set "contacts" 0, ["warehouse"]⟩) "crm" =
      ([("crm", "contacts")], .error "Error getting collection logs: timeout") :=
  ⟨rfl, rfl⟩

end EventNative.Sources
