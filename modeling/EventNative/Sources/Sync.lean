import EventNative.Sources.Registry

/-!
# `Sync`: dispatching the collections of a source

`Sync` looks the source up, resolves its destination ids to ready storages,
and, when some storage is ready, locks each collection and hands the pool one
`SyncTask` per locked collection. A failed lock or a rejected task is one
entry of the aggregate error; the other collections go on.

## Implementation notes

The collaborators are the destinations service (`GetStorageById`, then
`Get` on the proxy), the lock keeper and the pool. Their answers are
functions of the call's arguments: within one `Sync` each collection is
locked once and each task is handed over once, so every pattern of outcomes
is such a function. `Sync` returns the calls it made, in order, with its
error. The meta-storage handle every task carries is left out.
-/

namespace EventNative.Sources

open Drivers

/-- `SyncTask`. -/
structure SyncTask (Drv Stg Lck : Type) where
  sourceId : String
  collection : String
  identifier : String
  driver : Drv
  destinations : List Stg
  lock : Lck

variable {Drv Stg Lck : Type}

/-- The task built for a locked collection. -/
def SyncTask.ofCollection (sourceId : String) (destinationStorages : List Stg)
    (collection : String) (driver : Drv) (collectionLock : Lck) : SyncTask Drv Stg Lck :=
  ⟨sourceId, collection, sourceId ++ "_" ++ collection, driver, destinationStorages,
    collectionLock⟩

/-- The answers of the collaborators. `getStorageById` is `none` for an unknown id and
`some none` for a storage that is not initialized; `invoke` is the error of `pool.Invoke`. -/
structure Collaborators (Drv Stg Lck : Type) where
  getStorageById : String → Option (Option Stg)
  lock : String → String → Except String Lck
  invoke : SyncTask Drv Stg Lck → Option String

/-- A call `Sync` makes on a collaborator. -/
inductive Call (Drv Stg Lck : Type)
  | getStorageById (destinationId : String)
  | proxyGet (destinationId : String)
  | lock (sourceId collection : String)
  | invoke (task : SyncTask Drv Stg Lck)

/-- A call on the destinations service. -/
def Call.isDestinationLookup : Call Drv Stg Lck → Bool
  | .getStorageById _ | .proxyGet _ => true
  | _ => false

/-- The arguments of a `monitorKeeper.Lock` call. -/
def Call.lockArgs : Call Drv Stg Lck → Option (String × String)
  | .lock s c => some (s, c)
  | _ => none

/-- The argument of a `pool.Invoke` call. -/
def Call.invokeArg : Call Drv Stg Lck → Option (SyncTask Drv Stg Lck)
  | .invoke t => some t
  | _ => none

/-- The error `Sync` records for one collection. -/
inductive CollectionError
  | lock (sourceId collection err : String)
  | invoke (sourceId collection err : String)
deriving DecidableEq

def CollectionError.collection : CollectionError → String
  | .lock _ c _ | .invoke _ c _ => c

def CollectionError.message : CollectionError → String
  | .lock s c e => "Error locking [" ++ s ++ "] source [" ++ c ++ "] collection: " ++ e
  | .invoke s c e =>
      "Error running sync task goroutine [" ++ s ++ "] source [" ++ c ++ "] collection: " ++ e

/-- The error `Sync` returns; `multi` is the `*multierror.Error` of the dispatch loop. -/
inductive SyncError
  | sourceNotFound
  | emptyDestinations
  | multi (errors : List CollectionError)

/-- The texts of `Sync`'s own errors; `multierror` formats the aggregate. -/
def SyncError.message : SyncError → String
  | .sourceNotFound => "Source doesn't exist"
  | .emptyDestinations => "Empty destinations"
  | .multi errs => String.intercalate "\n" (errs.map CollectionError.message)

/-- The destination loop: the calls it makes and the ready storages, in order. -/
def resolveDestinations (getStorageById : String → Option (Option Stg)) :
    List String → List (Call Drv Stg Lck) × List Stg
  | [] => ([], [])
  | destinationId :: ids =>
      let r := resolveDestinations getStorageById ids
      match getStorageById destinationId with
      | none => (.getStorageById destinationId :: r.1, r.2)
      | some none => (.getStorageById destinationId :: .proxyGet destinationId :: r.1, r.2)
      | some (some storage) =>
          (.getStorageById destinationId :: .proxyGet destinationId :: r.1, storage :: r.2)

/-- The ready storages among the destinations, in order. -/
def readyStorages (getStorageById : String → Option (Option Stg)) (ids : List String) :
    List Stg :=
  ids.filterMap fun destinationId => (getStorageById destinationId).join

/-- `multierror.Append(multiErr, err)`. -/
def appendError (multiErr : Option (List CollectionError)) (err : CollectionError) :
    Option (List CollectionError) :=
  some (multiErr.getD [] ++ [err])

variable (c : Collaborators Drv Stg Lck) (sourceId : String) (destinationStorages : List Stg)

/-- One pass of the dispatch loop: lock the collection, then hand its task to the pool. -/
def dispatchCollection (collection : String) (driver : Drv) :
    List (Call Drv Stg Lck) × Option CollectionError :=
  match c.lock sourceId collection with
  | .error err => ([.lock sourceId collection], some (.lock sourceId collection err))
  | .ok collectionLock =>
      let task := SyncTask.ofCollection sourceId destinationStorages collection driver
        collectionLock
      ([.lock sourceId collection, .invoke task],
        (c.invoke task).map (.invoke sourceId collection))

/-- The loop `for collection, driver := range sourceUnit.DriverPerCollection`. -/
def dispatch : List (String × Drv) → Option (List CollectionError) →
    List (Call Drv Stg Lck) × Option (List CollectionError)
  | [], multiErr => ([], multiErr)
  | (collection, driver) :: rest, multiErr =>
      let one := dispatchCollection c sourceId destinationStorages collection driver
      let r := dispatch rest (match one.2 with
        | some err => appendError multiErr err
        | none => multiErr)
      (one.1 ++ r.1, r.2)

/-- The ready storages of a unit. -/
def liveDestinations (u : Unit Drv) : List Stg :=
  readyStorages c.getStorageById u.destinationIds

/-- `Sync`: the collaborator calls it makes, in order, and the error it returns. -/
def sync (sources : Registry Drv) : List (Call Drv Stg Lck) × Option SyncError :=
  match sources sourceId with
  | none => ([], some .sourceNotFound)
  | some sourceUnit =>
      let d : List (Call Drv Stg Lck) × List Stg :=
        resolveDestinations c.getStorageById sourceUnit.destinationIds
      if d.2.length = 0 then (d.1, some .emptyDestinations)
      else
        let r := dispatch c sourceId d.2 sourceUnit.driverPerCollection.entries none
        (d.1 ++ r.1, r.2.map .multi)

section Dispatch

theorem resolveDestinations_lookups (g : String → Option (Option Stg)) (ids : List String) :
    ∀ call ∈ (resolveDestinations g ids : List (Call Drv Stg Lck) × List Stg).1,
      call.isDestinationLookup := by
  induction ids with
  | nil => simp [resolveDestinations]
  | cons i ids ih =>
      simp only [resolveDestinations]
      split <;> simpa [Call.isDestinationLookup] using ih

theorem resolveDestinations_storages (g : String → Option (Option Stg)) (ids : List String) :
    (resolveDestinations g ids : List (Call Drv Stg Lck) × List Stg).2 = readyStorages g ids := by
  induction ids with
  | nil => rfl
  | cons i ids ih =>
      simp only [resolveDestinations, readyStorages, List.filterMap_cons] at ih ⊢
      split <;> simp_all

variable (collection : String) (driver : Drv)

theorem dispatchCollection_invokeArgs :
    (dispatchCollection c sourceId destinationStorages collection driver).1.filterMap
      Call.invokeArg = ((c.lock sourceId collection).toOption.map
        (SyncTask.ofCollection sourceId destinationStorages collection driver)).toList := by
  unfold dispatchCollection; split <;> simp_all [Call.invokeArg, Call.lockArgs, Except.toOption]

theorem dispatch_invokeArgs (l : List (String × Drv)) (multiErr : Option (List CollectionError)) :
    (dispatch c sourceId destinationStorages l multiErr).1.filterMap Call.invokeArg =
      l.filterMap fun e => (c.lock sourceId e.1).toOption.map
        (SyncTask.ofCollection sourceId destinationStorages e.1 e.2) := by
  induction l generalizing multiErr with
  | nil => rfl
  | cons e l ih =>
      simp only [dispatch, List.filterMap_append, ih, dispatchCollection_invokeArgs,
        List.filterMap_cons]
      cases (c.lock sourceId e.1).toOption <;> rfl

end Dispatch

theorem resolveDestinations_filterMap {β : Type} (f : Call Drv Stg Lck → Option β)
    (hf : ∀ call, call.isDestinationLookup → f call = none) (g : String → Option (Option Stg))
    (ids : List String) :
    (resolveDestinations g ids : List (Call Drv Stg Lck) × List Stg).1.filterMap f = [] :=
  List.filterMap_eq_nil_iff.mpr fun call h => hf call (resolveDestinations_lookups g ids call h)

@[simp] theorem resolveDestinations_invokeArgs (g : String → Option (Option Stg))
    (ids : List String) :
    (resolveDestinations g ids : List (Call Drv Stg Lck) × List Stg).1.filterMap
      Call.invokeArg = [] :=
  resolveDestinations_filterMap _ (fun call h => by
    cases call <;> simp_all [Call.isDestinationLookup, Call.invokeArg]) g ids

theorem sync_of_live {sources : Registry Drv} {u : Unit Drv} (hu : sources sourceId = some u)
    (hd : liveDestinations c u ≠ []) :
    sync c sourceId sources =
      ((resolveDestinations c.getStorageById u.destinationIds :
          List (Call Drv Stg Lck) × List Stg).1 ++
        (dispatch c sourceId (liveDestinations c u) u.driverPerCollection.entries none).1,
        (dispatch c sourceId (liveDestinations c u) u.driverPerCollection.entries none).2.map
          .multi) := by
  simp only [sync, hu, resolveDestinations_storages]
  rw [if_neg (by simpa [liveDestinations, List.length_eq_zero] using hd)]
  rfl

/-- `Sync` answers `Source doesn't exist` only for a source its registry lacks. -/
theorem sync_found {sources : Registry Drv} (h : (sources sourceId).isSome) :
    (sync c sourceId sources).2 ≠ some .sourceNotFound := by
  obtain ⟨u, hu⟩ := Option.isSome_iff_exists.mp h
  simp only [sync, hu]
  split_ifs
  · simp
  · cases (dispatch c sourceId _ _ none).2 <;> simp

/-- The tasks `Sync` hands the pool on a registered source: none when no destination is ready,
and otherwise one per collection whose lock it gets. -/
theorem sync_invokeArgs (sources : Registry Drv) {u : Unit Drv} (hu : sources sourceId = some u) :
    (sync c sourceId sources).1.filterMap Call.invokeArg =
      if (liveDestinations c u).isEmpty then []
      else u.driverPerCollection.entries.filterMap fun e => (c.lock sourceId e.1).toOption.map
        (SyncTask.ofCollection sourceId (liveDestinations c u) e.1 e.2) := by
  split_ifs with hd
  · rw [List.isEmpty_iff] at hd
    have hd' : (resolveDestinations c.getStorageById u.destinationIds :
        List (Call Drv Stg Lck) × List Stg).2 = [] := by
      rw [resolveDestinations_storages]; exact hd
    simp only [sync, hu, hd', List.length_nil, if_true, resolveDestinations_invokeArgs]
  · rw [sync_of_live c sourceId hu (by simpa using hd)]
    simp only [List.filterMap_append, resolveDestinations_invokeArgs, dispatch_invokeArgs,
      List.nil_append]

/-- Every task one `Sync` hands the pool carries the same storages: those of the unit's
destination ids that resolve to a ready storage, one for each id as the unit lists it, in
order. -/
theorem sync_task_destinations (sources : Registry Drv) {u : Unit Drv}
    (hu : sources sourceId = some u) :
    ∀ t ∈ (sync c sourceId sources).1.filterMap Call.invokeArg,
      t.destinations = u.destinationIds.filterMap fun destinationId =>
        (c.getStorageById destinationId).join := by
  intro t ht
  by_cases hd : liveDestinations c u = []
  · have hd' : (resolveDestinations c.getStorageById u.destinationIds :
        List (Call Drv Stg Lck) × List Stg).2 = [] := by rw [resolveDestinations_storages]; exact hd
    simp only [sync, hu, hd', List.length_nil, if_true, resolveDestinations_invokeArgs] at ht
    cases ht
  · rw [sync_of_live c sourceId hu hd] at ht
    simp only [List.filterMap_append, resolveDestinations_invokeArgs, dispatch_invokeArgs,
      List.nil_append] at ht
    obtain ⟨e, -, he⟩ := List.mem_filterMap.mp ht
    obtain ⟨l, -, rfl⟩ := Option.map_eq_some'.mp he
    rfl

theorem sync_task_destinations_crm :
    (⟨"crm", "contacts", "crm_contacts", 0, [0, 0], 0⟩ : SyncTask Nat Nat Nat) ∈
        (sync (⟨fun _ => some (some 0), fun _ _ => .ok 0, fun _ => none⟩ :
          Collaborators Nat Nat Nat) "crm" (Registry.empty.set "crm"
            ⟨GoMap.empty.set "contacts" 0, ["warehouse", "warehouse"]⟩)).1.filterMap
          Call.invokeArg ∧
      [0, 0] = ["warehouse", "warehouse"].filterMap fun destinationId =>
        ((fun _ => some (some 0) : String → Option (Option Nat)) destinationId).join :=
  have hm := List.mem_singleton_self (⟨"crm", "contacts", "crm_contacts", 0, [0, 0], 0⟩ :
    SyncTask Nat Nat Nat)
  ⟨hm, sync_task_destinations ⟨fun _ => some (some 0), fun _ _ => .ok 0, fun _ => none⟩ "crm"
    (Registry.empty.set "crm" ⟨GoMap.empty.set "contacts" 0, ["warehouse", "warehouse"]⟩) rfl _
    hm⟩

/-- A unit that lists `warehouse` twice: the task of `contacts` gets its storage twice. -/
theorem sync_repeats_listed_destination :
    (sync (⟨fun _ => some (some 0), fun _ _ => .ok 0, fun _ => none⟩ : Collaborators Nat Nat Nat)
        "crm" (Registry.empty.set "crm" ⟨GoMap.empty.set "contacts" 0, ["warehouse", "warehouse"]⟩)).1.filterMap
      Call.invokeArg = [⟨"crm", "contacts", "crm_contacts", 0, [0, 0], 0⟩] :=
  rfl

section Identifiers

/-- A separator absent from both prefixes splits a joined list in one way only. -/
theorem sep_append_inj {a a' b b' : List Char} {sep : Char} (ha : sep ∉ a) (ha' : sep ∉ a')
    (h : a ++ sep :: b = a' ++ sep :: b') : a = a' ∧ b = b' := by
  have hlen : a.length = a'.length := by
    simpa [List.indexOf_append_of_not_mem ha, List.indexOf_append_of_not_mem ha',
      List.indexOf_cons_self] using congrArg (List.indexOf sep) h
  obtain ⟨rfl, hb⟩ := List.append_inj h hlen
  exact ⟨rfl, List.cons_injective hb⟩

/-- `sourceId_collection` names one source and one collection as long as no source id holds
`_`. -/
theorem identifier_inj {sourceId sourceId' collection collection' : String}
    (hs : '_' ∉ sourceId.data) (hs' : '_' ∉ sourceId'.data)
    (h : sourceId ++ "_" ++ collection = sourceId' ++ "_" ++ collection') :
    sourceId = sourceId' ∧ collection = collection' := by
  have := sep_append_inj hs hs' (by simpa using congrArg String.data h)
  exact ⟨String.ext this.1, String.ext this.2⟩

-- a source id holding `_` lets two keys share an identifier
example : "a_b" ++ "_" ++ "c" = "a" ++ "_" ++ "b_c" := by decide

/-- Within one source the collection fixes the identifier. -/
theorem identifier_cancel {sourceId collection collection' : String}
    (h : sourceId ++ "_" ++ collection = sourceId ++ "_" ++ collection') :
    collection = collection' :=
  String.ext (List.append_cancel_left (congrArg String.data h))

/-- The tasks one `Sync` hands the pool have distinct identifiers: each is `sourceId_collection`
for a distinct collection of the unit. -/
theorem sync_task_identifiers_nodup (sources : Registry Drv) :
    (((sync c sourceId sources).1.filterMap Call.invokeArg).map SyncTask.identifier).Nodup := by
  cases hu : sources sourceId with
  | none => simp [sync, hu]
  | some u =>
      rw [sync_invokeArgs c sourceId sources hu]
      split_ifs
      · exact List.nodup_nil
      · have hk := (GoMap.keys_nodup u.driverPerCollection).filterMap
          (f := fun collection => (c.lock sourceId collection).toOption.map
            fun _ => sourceId ++ "_" ++ collection) fun k k' b hk hk' => by
          obtain ⟨_, -, rfl⟩ := Option.map_eq_some'.mp hk
          obtain ⟨_, -, hb⟩ := Option.map_eq_some'.mp hk'
          exact (identifier_cancel hb).symm
        simpa only [GoMap.keys, List.filterMap_map, List.map_filterMap, Option.map_map] using hk

end Identifiers

end EventNative.Sources
