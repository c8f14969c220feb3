import EventNative.Sources.Registry

/-!
# `NewService`: what the constructor leaves running

`NewService` creates the worker pool, then loads the sources, from the
structured configuration when there is one and from the provider string
otherwise. The call `defer service.startMonitoring()` stands right after the
pool is created, so the monitoring loop starts on every return from there
on, the error returns included; no return path releases the pool.

## Implementation notes

The collaborators' outcomes are parameters: what `Unmarshal` makes of the
structured configuration (`none` when there is none), what `parseFromBytes`
makes of an inline JSON provider, and the error of `ants.NewPoolWithFunc`, if any.
`resources.Watch` is not part of the sources: it is the reload loop it
leaves running, and the registry is the one before its first load.
-/

namespace EventNative.Sources

open Drivers

variable {Drv : Type}

/-- What keeps running after `NewService` returns. -/
inductive Activity
  /-- The `ants` pool, until `Release`. -/
  | pool
  /-- A `resources.Watch` reload loop on a source. -/
  | watch (source : String)
  /-- The loop of `startMonitoring`, until the service it reads is closed. -/
  | monitoring
deriving DecidableEq

/-- `unknownSourceConfigurationFormat`. -/
def unknownSourceConfigurationFormat : String :=
  "unknown format of sources configuration. Expected map, " ++
    "json string representation or string starting with file:// or http(s)://"

/-- `strings.HasPrefix`. -/
def hasPrefix (s pre : String) : Bool := pre.toList.isPrefixOf s.toList

/-- `strings.HasSuffix`. -/
def hasSuffix (s suf : String) : Bool := suf.toList.isSuffixOf s.toList

/-- `loadSources`: the registry the provider string gives, or its error, and the reload loop
it starts. -/
def loadSources (F : Factory Drv) (parseFromBytes : String → Except String (GoMap SourceConfig))
    (sourcesProvider : String) (r : Registry Drv) : Except String (Registry Drv) × List Activity :=
  if hasPrefix sourcesProvider "http://" || hasPrefix sourcesProvider "https://" then
    (.ok r, [.watch sourcesProvider])
  else if hasPrefix sourcesProvider "file://" then
    -- `strings.Replace(sourcesProvider, "file://", "", 1)` drops the prefix
    (.ok r, [.watch (sourcesProvider.drop 7)])
  else if hasPrefix sourcesProvider "\x7b" && hasSuffix sourcesProvider "\x7d" then
    match parseFromBytes sourcesProvider with
    | .error err => (.error err, [])
    | .ok sourcesConfig => (.ok (initDrivers F sourcesConfig r), [])
  else (.error unknownSourceConfigurationFormat, [])

/-- `NewService`: the registry of the service it returns, or its error, and what keeps
running. -/
def newService (F : Factory Drv) (parseFromBytes : String → Except String (GoMap SourceConfig))
    (sources : Option (Except String (GoMap SourceConfig))) (sourcesProvider : String)
    (metaStorageDummy : Bool) (poolError : Option String) :
    Except String (Registry Drv) × List Activity :=
  if sources.isNone && sourcesProvider == "" then (.ok Registry.empty, [])
  else if metaStorageDummy then (.error "Meta storage is required", [])
  else
    match poolError with
    | some err => (.error ("Error creating goroutines pool: " ++ err), [])
    | none =>
        let r : Except String (Registry Drv) × List Activity :=
          match sources with
          | some (.error err) => (.error err, [])
          | some (.ok sourceConfigs) => (.ok (initDrivers F sourceConfigs Registry.empty), [])
          | none => loadSources F parseFromBytes sourcesProvider Registry.empty
        -- the deferred `startMonitoring` runs on every return once the pool exists
        (r.1, .pool :: r.2 ++ [.monitoring])

section Load

variable (F : Factory Drv) (parseFromBytes : String → Except String (GoMap SourceConfig))

/-- `loadSources` starts a reload loop only when it succeeds. -/
theorem loadSources_error {sourcesProvider : String} {r : Registry Drv} {e : String}
    (h : (loadSources F parseFromBytes sourcesProvider r).1 = .error e) :
    (loadSources F parseFromBytes sourcesProvider r).2 = [] := by
  unfold loadSources at h ⊢
  revert h
  cases parseFromBytes sourcesProvider <;> split_ifs <;> simp

variable (sources : Option (Except String (GoMap SourceConfig))) (sourcesProvider : String)
  (metaStorageDummy : Bool) (poolError : Option String)

/-- The pool is created exactly when the sources are configured, meta storage is not the
dummy one and `ants` accepts the pool. -/
def PoolCreated : Prop :=
  (sources.isSome ∨ sourcesProvider ≠ "") ∧ metaStorageDummy = false ∧ poolError = none

/-- Once the pool exists, `NewService` leaves it and the monitoring loop running, whatever it
returns, with any reload loop `loadSources` started in between. -/
theorem newService_background (h : PoolCreated sources sourcesProvider metaStorageDummy poolError) :
    ∃ watches, (newService F parseFromBytes sources sourcesProvider metaStorageDummy poolError).2 =
      .pool :: watches ++ [.monitoring] ∧
      ∀ e, (newService F parseFromBytes sources sourcesProvider metaStorageDummy poolError).1 =
        .error e → watches = [] := by
  obtain ⟨hs, rfl, rfl⟩ := h
  have hc : (sources.isNone && sourcesProvider == "") = false := by
    cases sources <;> simp_all
  simp only [newService, hc, Bool.false_eq_true, if_false]
  rcases sources with _ | _ | _
  · exact ⟨_, rfl, fun _ he => loadSources_error F parseFromBytes he⟩
  all_goals exact ⟨[], rfl, fun _ _ => rfl⟩

/-- Before the pool exists nothing is started. -/
theorem newService_background_nil (h : ¬PoolCreated sources sourcesProvider metaStorageDummy poolError) :
    (newService F parseFromBytes sources sourcesProvider metaStorageDummy poolError).2 = [] := by
  unfold PoolCreated at h
  unfold newService
  split_ifs with h₁ h₂
  · rfl
  · rfl
  · split
    · rfl
    · exact absurd ⟨by cases sources <;> simp_all, by simpa using h₂, rfl⟩ h

/-- So every error `NewService` returns once the pool exists leaves exactly the pool and the
monitoring loop running, for a service nobody holds. -/
theorem newService_error_background (h : PoolCreated sources sourcesProvider metaStorageDummy poolError)
    {e : String} (he : (newService F parseFromBytes sources sourcesProvider metaStorageDummy poolError).1 =
      .error e) :
    (newService F parseFromBytes sources sourcesProvider metaStorageDummy poolError).2 =
      [.pool, .monitoring] := by
  obtain ⟨watches, hw, hok⟩ := newService_background F parseFromBytes _ _ _ _ h
  rw [hw, hok e he]
  rfl

end Load

/-- Structured sources that do not unmarshal, an inline JSON provider that does not parse, and
a provider of unknown format: each makes `NewService` fail and leave the pool and the
monitoring loop running. -/
theorem newService_failure_leaves_monitoring (F : Factory Drv)
    (parseFromBytes : String → Except String (GoMap SourceConfig)) :
    newService F parseFromBytes (some (.error "bad sources")) "" false none =
        (.error "bad sources", [.pool, .monitoring]) ∧
      newService F (fun _ => .error "bad json") none "\x7bbad\x7d" false none =
        (.error "bad json", [.pool, .monitoring]) ∧
      newService F parseFromBytes none "sources.yaml" false none =
        (.error unknownSourceConfigurationFormat, [.pool, .monitoring]) :=
  ⟨rfl, rfl, rfl⟩

end EventNative.Sources
