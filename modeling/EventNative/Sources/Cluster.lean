import EventNative.Sources.Sync
import Mathlib.Logic.Relation

/-!
# Service instances, their pools and the shared collection locks

Several `Service` instances share one lock keeper. A `Sync` call is a sequence
of steps that may interleave with every other step: it starts by resolving its
unit and destinations, then for each collection it takes the lock and hands a
task to its service's pool, and finally returns. A task ends with success, an
error or a panic, and its deferred `Unlock` runs in every case. A reload
replaces a service's registry; `Close` marks the service closed and releases
its pool, after which `Invoke` fails.

## Implementation notes

`exclusive` says whether the lock keeper refuses a key somebody holds.
`Invoke` may fail at any time (`ErrPoolClosed`, `ErrPoolOverload`); it succeeds
only on an open pool with a free worker. When `Invoke` fails, `Sync` records
the error and moves on: the lock it took stays with the lock keeper.
-/

namespace EventNative.Sources

open Drivers

/-- A handle of `monitorKeeper.Lock`: its identity and the key it locks. -/
structure Lock where
  id : Nat
  sourceId : String
  collection : String
deriving DecidableEq

def Lock.key (l : Lock) : String × String := (l.sourceId, l.collection)

/-- What the lock keeper and the pool answered a call for one collection. -/
inductive Answer
  /-- `monitorKeeper.Lock` failed with `err`. -/
  | lockFailed (err : String)
  /-- `Lock` granted `lock`, and `pool.Invoke` failed with `err`. -/
  | invokeFailed (lock : Lock) (err : String)
  /-- `Lock` granted `lock`, and the pool took the task. -/
  | invoked (lock : Lock)
deriving DecidableEq

/-- The error `Sync` records for a collection given its answer. -/
def Answer.error (sourceId collection : String) : Answer → Option CollectionError
  | .lockFailed err => some (.lock sourceId collection err)
  | .invokeFailed _ err => some (.invoke sourceId collection err)
  | .invoked _ => none

/-- A `Sync` call past its destination check, going through its collections in the order
its `range` visits them. `held` is the lock of the first pending collection once taken.
`answers` is no variable of `Sync`: it logs the collections dispatched so far with what the
lock keeper and the pool answered, so that statements can name those answers. -/
structure Dispatching (Drv Stg : Type) where
  service : Nat
  sourceId : String
  destinations : List Stg
  pending : List (String × Drv)
  held : Option Lock
  errors : Option (List CollectionError)
  answers : List ((String × Drv) × Answer)

/-- What a `Service` instance contributes: its registry, its `closed` flag (its pool is
released with it) and its pool size. -/
structure Service (Drv : Type) where
  sources : Registry Drv
  closed : Bool
  poolSize : Nat

/-- The instances, the `Sync` calls in progress, the tasks queued or running in the pools
(with their service), the locks the lock keeper holds, every lock passed to `Unlock`, and
the identity of the next lock. -/
structure Cluster (Drv Stg : Type) where
  services : Nat → Service Drv
  calls : List (Dispatching Drv Stg)
  tasks : List (Nat × SyncTask Drv Stg Lock)
  locks : List Lock
  unlocked : List Lock
  nextLock : Nat

/-- How a task's driver `Sync` ends. -/
inductive Outcome
  | success
  | error
  | panic

variable {Drv Stg : Type}

/-- The call once its first pending collection `e` is dispatched with the answer `a`,
recording the error of `a` if any. -/
def Dispatching.next (x : Dispatching Drv Stg) (e : String × Drv) (a : Answer) :
    Dispatching Drv Stg :=
  { x with
    pending := x.pending.tail
    held := none
    errors := match a.error x.sourceId e.1 with
      | some err => appendError x.errors err
      | none => x.errors
    answers := x.answers ++ [(e, a)] }

/-- The cluster with instance `i` changed by `f`. -/
def Cluster.modify (s : Cluster Drv Stg) (i : Nat) (f : Service Drv → Service Drv) :
    Cluster Drv Stg :=
  { s with services := Function.update s.services i (f (s.services i)) }

theorem Cluster.modify_services (s : Cluster Drv Stg) (i j : Nat) (f : Service Drv → Service Drv) :
    (s.modify i f).services j = if j = i then f (s.services i) else s.services j := by
  simp only [Cluster.modify, Function.update_apply]

/-- The steps of the cluster. -/
inductive Step (F : Factory Drv) (exclusive : Bool) :
    Cluster Drv Stg → Cluster Drv Stg → Prop
  /-- `Sync` finds its unit and a ready destination; `order` is its `range` order. -/
  | start {s : Cluster Drv Stg} {u : Unit Drv} (i : Nat) (sourceId : String)
      (getStorageById : String → Option (Option Stg)) (order : List (String × Drv))
      (hu : (s.services i).sources sourceId = some u)
      (hd : readyStorages getStorageById u.destinationIds ≠ [])
      (horder : order.Perm u.driverPerCollection.entries) :
      Step F exclusive s { s with calls := s.calls ++
        [⟨i, sourceId, readyStorages getStorageById u.destinationIds, order, none, none, []⟩] }
  /-- `monitorKeeper.Lock` fails. -/
  | lockFail {s : Cluster Drv Stg} {pre post : List (Dispatching Drv Stg)}
      {x : Dispatching Drv Stg} {collection : String} {driver : Drv}
      {rest : List (String × Drv)} (err : String)
      (hx : s.calls = pre ++ x :: post) (hp : x.pending = (collection, driver) :: rest)
      (hh : x.held = none) :
      Step F exclusive s
        { s with calls := pre ++ x.next (collection, driver) (.lockFailed err) :: post }
  /-- `monitorKeeper.Lock` grants a new handle. -/
  | lockOk {s : Cluster Drv Stg} {pre post : List (Dispatching Drv Stg)}
      {x : Dispatching Drv Stg} {collection : String} {driver : Drv}
      {rest : List (String × Drv)}
      (hx : s.calls = pre ++ x :: post) (hp : x.pending = (collection, driver) :: rest)
      (hh : x.held = none)
      (hfree : exclusive = true → ∀ l ∈ s.locks, l.key ≠ (x.sourceId, collection)) :
      Step F exclusive s { s with
        calls := pre ++ { x with held := some ⟨s.nextLock, x.sourceId, collection⟩ } :: post
        locks := ⟨s.nextLock, x.sourceId, collection⟩ :: s.locks
        nextLock := s.nextLock + 1 }
  /-- `pool.Invoke` accepts the task. -/
  | invokeOk {s : Cluster Drv Stg} {pre post : List (Dispatching Drv Stg)}
      {x : Dispatching Drv Stg} {collection : String} {driver : Drv}
      {rest : List (String × Drv)} {l : Lock}
      (hx : s.calls = pre ++ x :: post) (hp : x.pending = (collection, driver) :: rest)
      (hh : x.held = some l) (hopen : (s.services x.service).closed = false)
      (hfree : (s.tasks.filter (·.1 = x.service)).length < (s.services x.service).poolSize) :
      Step F exclusive s { s with
        calls := pre ++ x.next (collection, driver) (.invoked l) :: post
        tasks := s.tasks ++
          [(x.service, SyncTask.ofCollection x.sourceId x.destinations collection driver l)] }
  /-- `pool.Invoke` fails; the error is recorded and the loop moves on. -/
  | invokeFail {s : Cluster Drv Stg} {pre post : List (Dispatching Drv Stg)}
      {x : Dispatching Drv Stg} {collection : String} {driver : Drv}
      {rest : List (String × Drv)} {l : Lock} (err : String)
      (hx : s.calls = pre ++ x :: post) (hp : x.pending = (collection, driver) :: rest)
      (hh : x.held = some l) :
      Step F exclusive s
        { s with calls := pre ++ x.next (collection, driver) (.invokeFailed l err) :: post }
  /-- `Sync` returns once every collection is dispatched. -/
  | syncReturn {s : Cluster Drv Stg} {pre post : List (Dispatching Drv Stg)}
      {x : Dispatching Drv Stg}
      (hx : s.calls = pre ++ x :: post) (hp : x.pending = []) (hh : x.held = none) :
      Step F exclusive s { s with calls := pre ++ post }
  /-- `syncCollection` runs the task; its deferred `Unlock` runs whatever the outcome. -/
  | finish {s : Cluster Drv Stg} {pre post : List (Nat × SyncTask Drv Stg Lock)}
      {t : Nat × SyncTask Drv Stg Lock} (outcome : Outcome)
      (ht : s.tasks = pre ++ t :: post) :
      Step F exclusive s { s with
        tasks := pre ++ post
        locks := s.locks.erase t.2.lock
        unlocked := s.unlocked ++ [t.2.lock] }
  /-- `updateSources` on one instance. -/
  | reload {s : Cluster Drv Stg} (i : Nat) (parsed : Except String (GoMap SourceConfig)) :
      Step F exclusive s (s.modify i fun v => { v with sources := updateSources F parsed v.sources })
  /-- `Close` on one instance. -/
  | close {s : Cluster Drv Stg} (i : Nat) :
      Step F exclusive s (s.modify i fun v => { v with closed := true })

/-- No call, task or lock yet. -/
def Initial (s : Cluster Drv Stg) : Prop :=
  s.calls = [] ∧ s.tasks = [] ∧ s.locks = [] ∧ s.unlocked = []

/-- The states reached from an initial one. -/
def Reachable (F : Factory Drv) (exclusive : Bool) (s : Cluster Drv Stg) : Prop :=
  ∃ s₀, Initial s₀ ∧ Relation.ReflTransGen (Step F exclusive) s₀ s

theorem Reachable.tail {F : Factory Drv} {exclusive : Bool} {s s' : Cluster Drv Stg}
    (h : Reachable F exclusive s) (hs : Step F exclusive s s') : Reachable F exclusive s' :=
  let ⟨s₀, h₀, hrun⟩ := h
  ⟨s₀, h₀, hrun.tail hs⟩

/-- The locks tasks and calls carry. -/
def carried (s : Cluster Drv Stg) : List Lock :=
  s.tasks.map (·.2.lock) ++ s.calls.filterMap (·.held)

/-- A call holding a lock holds the one of its first pending collection. -/
def HeldKey (x : Dispatching Drv Stg) : Prop :=
  ∀ l, x.held = some l → ∃ c d rest, x.pending = (c, d) :: rest ∧ l.key = (x.sourceId, c)

/-- What every reachable cluster satisfies. -/
structure Inv (exclusive : Bool) (s : Cluster Drv Stg) : Prop where
  carried_held : ∀ l ∈ carried s, l ∈ s.locks
  carried_nodup : (carried s).Nodup
  fresh : ∀ l ∈ s.locks ++ s.unlocked, l.id < s.nextLock
  released_once : (s.locks ++ s.unlocked).Nodup
  task_key : ∀ t ∈ s.tasks, t.2.lock.key = (t.2.sourceId, t.2.collection)
  held_key : ∀ x ∈ s.calls, HeldKey x
  exclusive_keys : exclusive = true → (s.locks.map Lock.key).Nodup

section Invariant

variable {exclusive : Bool} {s s' : Cluster Drv Stg}

section Next

variable (x : Dispatching Drv Stg) (e : String × Drv) (a : Answer)

@[simp] theorem Dispatching.next_held : (x.next e a).held = none := rfl

@[simp] theorem Dispatching.next_sourceId : (x.next e a).sourceId = x.sourceId := rfl

@[simp] theorem Dispatching.next_destinations : (x.next e a).destinations = x.destinations := rfl

@[simp] theorem Dispatching.next_pending : (x.next e a).pending = x.pending.tail := rfl

@[simp] theorem Dispatching.next_answers : (x.next e a).answers = x.answers ++ [(e, a)] := rfl

end Next

theorem heldKey_of_none {x : Dispatching Drv Stg} (h : x.held = none) : HeldKey x := by
  intro l hl; simp [h] at hl

@[simp] theorem filterMap_held_cons (x : Dispatching Drv Stg) (l : List (Dispatching Drv Stg)) :
    (x :: l).filterMap (·.held) = x.held.toList ++ l.filterMap (·.held) := by
  cases h : x.held <;> simp [List.filterMap_cons, h]

/-- A property of every call survives replacing one call by another that has it. -/
theorem calls_update {P : Dispatching Drv Stg → Prop} {pre post : List (Dispatching Drv Stg)}
    {x x' : Dispatching Drv Stg} (h : ∀ y ∈ pre ++ x :: post, P y) (hx' : P x') :
    ∀ y ∈ pre ++ x' :: post, P y := by
  intro y hy
  rcases List.mem_append.mp hy with hy | hy
  · exact h y (List.mem_append_left _ hy)
  rcases List.mem_cons.mp hy with rfl | hy
  · exact hx'
  · exact h y (List.mem_append_right _ (List.mem_cons_of_mem _ hy))

/-- A step that keeps the lock keeper's state and only drops or moves carried locks keeps
the invariant. -/
theorem Inv.of_subperm (hi : Inv exclusive s) (hc : (carried s').Subperm (carried s))
    (hl : s'.locks = s.locks) (hu : s'.unlocked = s.unlocked) (hn : s'.nextLock = s.nextLock)
    (ht : ∀ t ∈ s'.tasks, t.2.lock.key = (t.2.sourceId, t.2.collection))
    (hk : ∀ x ∈ s'.calls, HeldKey x) : Inv exclusive s' where
  carried_held l h := hl ▸ hi.carried_held l (hc.subset h)
  carried_nodup := by
    obtain ⟨l, hp, hs⟩ := hc
    exact hp.nodup_iff.mp (hs.nodup hi.carried_nodup)
  fresh := by rw [hl, hu, hn]; exact hi.fresh
  released_once := by rw [hl, hu]; exact hi.released_once
  task_key := ht
  held_key := hk
  exclusive_keys := by rw [hl]; exact hi.exclusive_keys

/-- A call that moves past its collection holding nothing after carries no new lock. -/
theorem carried_next {pre post : List (Dispatching Drv Stg)} {x : Dispatching Drv Stg}
    (hx : s.calls = pre ++ x :: post) (e : String × Drv) (a : Answer) :
    (carried { s with calls := pre ++ x.next e a :: post }).Sublist (carried s) := by
  simp only [carried, hx, List.filterMap_append, filterMap_held_cons, Dispatching.next_held,
    Option.toList_none, List.nil_append]
  exact (List.sublist_append_right _ _).append_left _ |>.append_left _

/-- A granted lock is carried by its call, next to every lock carried before. -/
theorem carried_lockOk {pre post : List (Dispatching Drv Stg)} {x : Dispatching Drv Stg}
    (collection : String) (hx : s.calls = pre ++ x :: post) (hh : x.held = none) :
    (carried { s with
      calls := pre ++ { x with held := some ⟨s.nextLock, x.sourceId, collection⟩ } :: post
      locks := ⟨s.nextLock, x.sourceId, collection⟩ :: s.locks
      nextLock := s.nextLock + 1 }).Perm (⟨s.nextLock, x.sourceId, collection⟩ :: carried s) := by
  simp only [carried, List.filterMap_append, filterMap_held_cons, hx, hh, Option.toList_some,
    Option.toList_none, List.nil_append, List.singleton_append, ← List.append_assoc]
  exact List.perm_middle

/-- A task handed over carries the lock its call held. -/
theorem carried_invokeOk {pre post : List (Dispatching Drv Stg)} {x : Dispatching Drv Stg}
    {l : Lock} (collection : String) (driver : Drv) (hx : s.calls = pre ++ x :: post)
    (hh : x.held = some l) :
    (carried { s with
      calls := pre ++ x.next (collection, driver) (.invoked l) :: post
      tasks := s.tasks ++
        [(x.service, SyncTask.ofCollection x.sourceId x.destinations collection driver l)] }).Perm
      (carried s) := by
  simp only [carried, hx, List.map_append, List.map_cons, List.map_nil, List.filterMap_append,
    filterMap_held_cons, hh, Dispatching.next_held, Option.toList_none, Option.toList_some,
    List.nil_append, List.singleton_append, List.append_assoc, SyncTask.ofCollection]
  exact List.Perm.append_left _ List.perm_middle.symm

/-- A task that ends stops carrying its lock. -/
theorem carried_finish {pre post : List (Nat × SyncTask Drv Stg Lock)}
    {t : Nat × SyncTask Drv Stg Lock} (ht : s.tasks = pre ++ t :: post) :
    (carried s).Perm (t.2.lock :: carried { s with
      tasks := pre ++ post
      locks := s.locks.erase t.2.lock
      unlocked := s.unlocked ++ [t.2.lock] }) := by
  simp only [carried, ht, List.map_append, List.map_cons, List.append_assoc, List.cons_append]
  exact List.perm_middle

/-- A call takes a fresh lock. -/
theorem Inv.lockOk (hi : Inv exclusive s) {pre post : List (Dispatching Drv Stg)}
    {x : Dispatching Drv Stg} {collection : String} {driver : Drv} {rest : List (String × Drv)}
    (hx : s.calls = pre ++ x :: post) (hp : x.pending = (collection, driver) :: rest)
    (hh : x.held = none)
    (hfree : exclusive = true → ∀ l ∈ s.locks, l.key ≠ (x.sourceId, collection)) :
    Inv exclusive { s with
      calls := pre ++ { x with held := some ⟨s.nextLock, x.sourceId, collection⟩ } :: post
      locks := ⟨s.nextLock, x.sourceId, collection⟩ :: s.locks
      nextLock := s.nextLock + 1 } := by
  set L : Lock := ⟨s.nextLock, x.sourceId, collection⟩
  have hnew : L ∉ s.locks ++ s.unlocked := fun h => (Nat.lt_irrefl _ (hi.fresh L h))
  have hperm := carried_lockOk collection hx hh
  refine ⟨fun l h => ?_, hperm.nodup_iff.mpr (List.nodup_cons.mpr
    ⟨fun h => hnew (List.mem_append_left _ (hi.carried_held L h)), hi.carried_nodup⟩),
    fun l hl => ?_, List.nodup_cons.mpr ⟨hnew, hi.released_once⟩, hi.task_key, ?_, fun he => ?_⟩
  · rcases List.mem_cons.mp (hperm.subset h) with rfl | h
    · exact List.mem_cons_self _ _
    · exact List.mem_cons_of_mem _ (hi.carried_held l h)
  · rcases List.mem_cons.mp hl with rfl | hl
    · exact Nat.lt_succ_self _
    · exact Nat.lt_succ_of_lt (hi.fresh l hl)
  · refine calls_update (hx ▸ hi.held_key) fun l hl => ?_
    cases Option.some.inj hl
    exact ⟨collection, driver, rest, hp, rfl⟩
  · refine List.nodup_cons.mpr ⟨fun h => ?_, hi.exclusive_keys he⟩
    obtain ⟨l, hl, hk⟩ := List.mem_map.mp h
    exact hfree he l hl hk

/-- A task ends and its lock is released. -/
theorem Inv.finish (hi : Inv exclusive s) {pre post : List (Nat × SyncTask Drv Stg Lock)}
    {t : Nat × SyncTask Drv Stg Lock} (ht : s.tasks = pre ++ t :: post) :
    Inv exclusive { s with
      tasks := pre ++ post
      locks := s.locks.erase t.2.lock
      unlocked := s.unlocked ++ [t.2.lock] } := by
  have hperm := carried_finish ht
  have hmem : t.2.lock ∈ s.locks := hi.carried_held _ (hperm.symm.subset (List.mem_cons_self _ _))
  have hnd := List.nodup_cons.mp (hperm.nodup_iff.mp hi.carried_nodup)
  have hlocks : (s.locks ++ s.unlocked).Perm (s.locks.erase t.2.lock ++ (s.unlocked ++ [t.2.lock])) :=
    ((List.perm_cons_erase hmem).append_right _).trans (by
      simpa using @List.perm_append_comm _ [t.2.lock] (s.locks.erase t.2.lock ++ s.unlocked))
  refine ⟨fun l h => ?_, hnd.2, fun l hl => hi.fresh l (hlocks.symm.subset hl),
    hlocks.nodup_iff.mp hi.released_once, fun u hu => hi.task_key u ?_, hi.held_key,
    fun he => ((List.erase_sublist _ _).map _).nodup (hi.exclusive_keys he)⟩
  · refine List.mem_erase_of_ne (fun he => hnd.1 (by rw [← he]; exact h)) |>.mpr ?_
    exact hi.carried_held l (hperm.symm.subset (List.mem_cons_of_mem _ h))
  · rw [ht]
    exact ((List.sublist_cons_self _ _).append_left pre).subset hu

/-- The pool accepts the task of a call's locked collection. -/
theorem Inv.invokeOk (hi : Inv exclusive s) {pre post : List (Dispatching Drv Stg)}
    {x : Dispatching Drv Stg} {collection : String} {driver : Drv} {rest : List (String × Drv)}
    {l : Lock} (hx : s.calls = pre ++ x :: post) (hp : x.pending = (collection, driver) :: rest)
    (hh : x.held = some l) :
    Inv exclusive { s with
      calls := pre ++ x.next (collection, driver) (.invoked l) :: post
      tasks := s.tasks ++
        [(x.service, SyncTask.ofCollection x.sourceId x.destinations collection driver l)] } := by
  refine hi.of_subperm (carried_invokeOk collection driver hx hh).subperm rfl rfl rfl
    (fun t ht => ?_) (calls_update (hx ▸ hi.held_key) (heldKey_of_none rfl))
  rcases List.mem_append.mp ht with ht | ht
  · exact hi.task_key t ht
  obtain ⟨c, d, rest', hp', hk⟩ := hi.held_key x (hx ▸ List.mem_append_right _
    (List.mem_cons_self _ _)) l hh
  rw [hp] at hp'
  cases hp'
  rw [List.mem_singleton.mp ht]
  exact hk

/-- A call moves past a collection without handing a task over, holding no lock after. -/
theorem Inv.next (hi : Inv exclusive s) {pre post : List (Dispatching Drv Stg)}
    {x : Dispatching Drv Stg} (hx : s.calls = pre ++ x :: post) (e : String × Drv) (a : Answer) :
    Inv exclusive { s with calls := pre ++ x.next e a :: post } :=
  hi.of_subperm (carried_next hx e a).subperm rfl rfl rfl hi.task_key
    (calls_update (hx ▸ hi.held_key) (heldKey_of_none rfl))

theorem Inv.step {F : Factory Drv} (hi : Inv exclusive s) (h : Step F exclusive s s') :
    Inv exclusive s' := by
  cases h with
  | start i sourceId g order hu hd horder =>
      refine hi.of_subperm (by simp [carried, List.filterMap_append, List.Subperm.refl]) rfl rfl
        rfl hi.task_key ?_
      intro x hx
      rcases List.mem_append.mp hx with hx | hx
      · exact hi.held_key x hx
      · rw [List.mem_singleton.mp hx]; exact heldKey_of_none rfl
  | lockFail err hx => exact hi.next hx _ _
  | lockOk hx hp hh hfree => exact hi.lockOk hx hp hh hfree
  | invokeOk hx hp hh => exact hi.invokeOk hx hp hh
  | invokeFail err hx => exact hi.next hx _ _
  | syncReturn hx hp hh =>
      refine hi.of_subperm ?_ rfl rfl rfl hi.task_key fun y hy => hi.held_key y ?_
      · simp [carried, hx, List.filterMap_append, hh, List.Subperm.refl]
      · rw [hx]
        exact ((List.sublist_cons_self _ _).append_left _).subset hy
  | finish outcome ht => exact hi.finish ht
  | reload i parsed => exact hi.of_subperm (List.Subperm.refl _) rfl rfl rfl hi.task_key hi.held_key
  | close i => exact hi.of_subperm (List.Subperm.refl _) rfl rfl rfl hi.task_key hi.held_key

theorem Inv.initial (hs : Initial s) : Inv exclusive s := by
  obtain ⟨hc, ht, hl, hu⟩ := hs
  refine ⟨?_, ?_, ?_, ?_, ?_, ?_, ?_⟩ <;> simp [carried, hc, ht, hl, hu]

theorem Inv.reachable {F : Factory Drv} {s₀ : Cluster Drv Stg} (hi : Inv exclusive s₀)
    (h : Relation.ReflTransGen (Step F exclusive) s₀ s) : Inv exclusive s := by
  induction h with
  | refl => exact hi
  | tail _ hs ih => exact ih.step hs

theorem Reachable.inv {F : Factory Drv} (h : Reachable F exclusive s) : Inv exclusive s := by
  obtain ⟨s₀, h₀, hrun⟩ := h
  exact (Inv.initial h₀).reachable hrun

end Invariant

section Runs

/-- `Sync("crm")` on instance `0`, whose only source `crm` has the one collection `contacts`
and a ready destination, the instance being closed when `closed`: the call starts and takes
the lock of `contacts`. -/
theorem crm_locked (F : Factory Nat) (exclusive closed : Bool) :
    ∃ s : Cluster Nat Nat, Reachable F exclusive s ∧
      ((s.services 0).sources "crm").isSome ∧ (s.services 0).closed = closed ∧
      (s.services 0).poolSize = 1 ∧
      s.calls = [⟨0, "crm", [0], [("contacts", 0)], some ⟨0, "crm", "contacts"⟩, none, []⟩] ∧
      s.tasks = [] ∧ s.locks = [⟨0, "crm", "contacts"⟩] ∧ s.unlocked = [] := by
  let s₀ : Cluster Nat Nat :=
    ⟨fun _ => ⟨Registry.empty.set "crm" ⟨GoMap.empty.set "contacts" 0, ["warehouse"]⟩, closed, 1⟩,
      [], [], [], [], 0⟩
  have hr : Reachable F exclusive s₀ := ⟨s₀, ⟨rfl, rfl, rfl, rfl⟩, .refl⟩
  exact ⟨_, (hr.tail (Step.start 0 "crm" (fun _ => some (some 0)) [("contacts", 0)] rfl
    (by decide) (List.Perm.refl _))).tail
    (Step.lockOk (List.nil_append _).symm rfl rfl (fun _ l hl => nomatch hl)),
    rfl, rfl, rfl, rfl, rfl, rfl, rfl⟩

/-- The same call on an open instance, once the pool has taken the task of `contacts`. -/
theorem crm_invoked (F : Factory Nat) (exclusive : Bool) :
    ∃ s : Cluster Nat Nat, Reachable F exclusive s ∧ ((s.services 0).sources "crm").isSome ∧
      s.calls = [⟨0, "crm", [0], [], none, none,
        [(("contacts", 0), .invoked ⟨0, "crm", "contacts"⟩)]⟩] ∧
      s.tasks = [(0, ⟨"crm", "contacts", "crm_contacts", 0, [0], ⟨0, "crm", "contacts"⟩⟩)] ∧
      s.locks = [⟨0, "crm", "contacts"⟩] ∧ s.unlocked = [] := by
  obtain ⟨s, hr, hreg, hclosed, hpool, hcalls, htasks, hlocks, hun⟩ := crm_locked F exclusive false
  exact ⟨_, hr.tail (Step.invokeOk (hcalls.trans (List.nil_append _).symm) rfl rfl hclosed
    (by simp [htasks, hpool])), hreg, rfl, by rw [htasks]; rfl, hlocks, hun⟩

/-- The same call once the task of `contacts` has ended and unlocked. -/
theorem crm_finished (F : Factory Nat) (exclusive : Bool) :
    ∃ s : Cluster Nat Nat, Reachable F exclusive s ∧
      s.calls = [⟨0, "crm", [0], [], none, none,
        [(("contacts", 0), .invoked ⟨0, "crm", "contacts"⟩)]⟩] ∧
      s.tasks = [] ∧ s.locks = [] ∧ s.unlocked = [⟨0, "crm", "contacts"⟩] := by
  obtain ⟨s, hr, -, hcalls, htasks, hlocks, hun⟩ := crm_invoked F exclusive
  exact ⟨_, hr.tail (Step.finish .success (htasks.trans (List.nil_append _).symm)), hcalls, rfl,
    by rw [hlocks]; rfl, by rw [hun]; rfl⟩

end Runs

section Locks

variable {F : Factory Drv} {exclusive : Bool} {s s' : Cluster Drv Stg}

/-- A lock leaves the lock keeper only when the task carrying it ends, and is then passed to
`Unlock`. -/
theorem Step.released (h : Step F exclusive s s') {l : Lock} (hl : l ∈ s.locks)
    (hl' : l ∉ s'.locks) :
    ∃ pre t post, s.tasks = pre ++ t :: post ∧ t.2.lock = l ∧ s'.tasks = pre ++ post ∧
      s'.unlocked = s.unlocked ++ [l] := by
  cases h with
  | lockOk => exact absurd (List.mem_cons_of_mem _ hl) hl'
  | @finish pre post t outcome ht =>
      have : l = t.2.lock := by
        by_contra hne
        exact hl' ((List.mem_erase_of_ne hne).mpr hl)
      exact ⟨pre, t, post, ht, this.symm, rfl, by rw [this]⟩
  | _ => exact absurd hl hl'

/-- A step carries only locks carried before and the lock it creates. -/
theorem Step.carried_subset (h : Step F exclusive s s') :
    ∀ l ∈ carried s', l ∈ carried s ∨ l.id = s.nextLock := by
  intro l hl
  cases h with
  | @lockOk pre post x collection driver rest hx hp hh =>
      rcases List.mem_cons.mp ((carried_lockOk collection hx hh).subset hl) with rfl | hl
      · exact .inr rfl
      · exact .inl hl
  | @invokeOk pre post x collection driver rest l' hx hp hh =>
      exact .inl ((carried_invokeOk collection driver hx hh).subset hl)
  | finish outcome ht => exact .inl ((carried_finish ht).symm.subset (List.mem_cons_of_mem _ hl))
  | lockFail err hx | invokeFail err hx => exact .inl ((carried_next hx _ _).subset hl)
  | syncReturn hx hp hh =>
      simp only [carried, hx, List.filterMap_append, filterMap_held_cons, hh, Option.toList_none,
        List.nil_append] at hl ⊢
      exact .inl hl
  | start =>
      simp only [carried, List.filterMap_append, filterMap_held_cons, Option.toList_none,
        List.filterMap_nil, List.append_nil] at hl
      exact .inl hl
  | reload | close => exact .inl hl

/-- A lock no task or call carries is never released, nor carried again. -/
theorem Inv.orphan_step (hi : Inv exclusive s) (h : Step F exclusive s s') {l : Lock}
    (hl : l ∈ s.locks) (hc : l ∉ carried s) : l ∈ s'.locks ∧ l ∉ carried s' := by
  refine ⟨by_contra fun hl' => ?_, fun hc' => ?_⟩
  · obtain ⟨pre, t, post, ht, rfl, -⟩ := h.released hl hl'
    exact hc (by simp [carried, ht])
  · rcases h.carried_subset l hc' with h' | h'
    · exact hc h'
    · exact absurd h' (hi.fresh l (List.mem_append_left _ hl)).ne

theorem Inv.orphan_run (hi : Inv exclusive s) (h : Relation.ReflTransGen (Step F exclusive) s s')
    {l : Lock} (hl : l ∈ s.locks) (hc : l ∉ carried s) : l ∈ s'.locks ∧ l ∉ carried s' := by
  induction h with
  | refl => exact ⟨hl, hc⟩
  | tail hrun hs ih => exact (hi.reachable hrun).orphan_step hs ih.1 ih.2

/-- Under an exclusive lock keeper, the tasks in the pools are for distinct collections. -/
theorem Inv.task_keys_nodup (hi : Inv true s) :
    (s.tasks.map fun t => (t.2.sourceId, t.2.collection)).Nodup := by
  have hlocks : (s.tasks.map (·.2.lock)).Nodup := List.Nodup.of_append_left hi.carried_nodup
  have hinj := List.inj_on_of_nodup_map (hi.exclusive_keys rfl)
  have hkeys : ((s.tasks.map (·.2.lock)).map Lock.key).Nodup :=
    hlocks.map_on fun a ha b hb hab => hinj (hi.carried_held a (List.mem_append_left _ ha))
      (hi.carried_held b (List.mem_append_left _ hb)) hab
  rw [List.map_map] at hkeys
  rwa [List.map_congr_left (f := Lock.key ∘ fun t : Nat × SyncTask Drv Stg Lock => t.2.lock)
    (g := fun t => (t.2.sourceId, t.2.collection)) fun t ht => hi.task_key t ht] at hkeys

end Locks

section Destinations

variable {F : Factory Drv} {exclusive : Bool} {s s' : Cluster Drv Stg}

/-- Every call past its destination check, and every task, has a storage to write to. -/
def HasDestinations (s : Cluster Drv Stg) : Prop :=
  (∀ x ∈ s.calls, x.destinations ≠ []) ∧ ∀ t ∈ s.tasks, t.2.destinations ≠ []

theorem HasDestinations.step (h : Step F exclusive s s') (hd : HasDestinations s) :
    HasDestinations s' := by
  have hcall : ∀ {pre post : List (Dispatching Drv Stg)} {x : Dispatching Drv Stg},
      s.calls = pre ++ x :: post → x.destinations ≠ [] :=
    fun hx => hd.1 _ (hx ▸ List.mem_append_right _ (List.mem_cons_self _ _))
  cases h with
  | start i sourceId g order hu hne horder =>
      refine ⟨fun x hx => ?_, hd.2⟩
      rcases List.mem_append.mp hx with hx | hx
      · exact hd.1 x hx
      · rw [List.mem_singleton.mp hx]; exact hne
  | lockFail err hx => exact ⟨calls_update (hx ▸ hd.1) (hcall hx :), hd.2⟩
  | lockOk hx => exact ⟨calls_update (hx ▸ hd.1) (hcall hx :), hd.2⟩
  | invokeOk hx =>
      refine ⟨calls_update (hx ▸ hd.1) (hcall hx :), fun t ht => ?_⟩
      rcases List.mem_append.mp ht with ht | ht
      · exact hd.2 t ht
      · rw [List.mem_singleton.mp ht]; exact hcall hx
  | invokeFail err hx => exact ⟨calls_update (hx ▸ hd.1) (hcall hx :), hd.2⟩
  | syncReturn hx =>
      exact ⟨fun y hy => hd.1 y (hx ▸ ((List.sublist_cons_self _ _).append_left _).subset hy), hd.2⟩
  | finish outcome ht =>
      exact ⟨hd.1, fun u hu => hd.2 u (ht ▸ ((List.sublist_cons_self _ _).append_left _).subset hu)⟩
  | reload i parsed => exact hd
  | close i => exact hd

/-- No task of a reachable cluster is handed an empty storage list: `Sync` dispatches only
when some destination is ready, and every task keeps the storages of its call. -/
theorem Reachable.hasDestinations (h : Reachable F exclusive s) : HasDestinations s := by
  obtain ⟨s₀, h₀, hrun⟩ := h
  induction hrun with
  | refl => exact ⟨by simp [h₀.1], by simp [h₀.2.1]⟩
  | tail _ hs ih => exact ih.step hs

/-- The run of `Sync("crm")`, its call still in progress. -/
theorem hasDestinations_crm :
    ∃ s : Cluster Nat Nat, Reachable (Factory.empty fun _ => []) false s ∧ s.calls ≠ [] ∧
      HasDestinations s := by
  obtain ⟨s, hr, hcalls, -⟩ := crm_finished (Factory.empty fun _ => []) false
  exact ⟨s, hr, by simp [hcalls], Reachable.hasDestinations hr⟩

end Destinations

section Registrations

variable {F : Factory Drv} {exclusive : Bool} {s s' : Cluster Drv Stg}

theorem Step.registered (h : Step F exclusive s s') {i : Nat} {sourceId : String}
    (hr : ((s.services i).sources sourceId).isSome) : ((s'.services i).sources sourceId).isSome := by
  cases h with
  | reload j parsed =>
      rw [Cluster.modify_services]
      split_ifs with hj
      · subst hj; exact updateSources_isSome F parsed hr
      · exact hr
  | close j =>
      rw [Cluster.modify_services]
      split_ifs with hj
      · subst hj; exact hr
      · exact hr
  | _ => exact hr

/-- Once an instance registers a source, the source stays registered in every later state of
every run, so `Sync` on it never answers `Source doesn't exist` again: a reload only adds or
replaces units, and removing a source from the configuration does not unregister it. -/
theorem registered_source_persists (h : Relation.ReflTransGen (Step F exclusive) s s') {i : Nat}
    {sourceId : String} (hr : ((s.services i).sources sourceId).isSome) :
    ((s'.services i).sources sourceId).isSome ∧
      ∀ {Lck : Type} (c : Collaborators Drv Stg Lck),
        (sync c sourceId (s'.services i).sources).2 ≠ some .sourceNotFound := by
  have hs : ((s'.services i).sources sourceId).isSome := by
    induction h with
    | refl => exact hr
    | tail _ hs ih => exact hs.registered ih
  exact ⟨hs, fun c => sync_found c sourceId hs⟩

/-- `crm` is registered, then a reload whose configuration no longer lists it. -/
theorem registered_source_persists_reload :
    ∃ s s' : Cluster Nat Nat, Relation.ReflTransGen (Step (Factory.empty fun _ => []) false) s s' ∧
      ((s.services 0).sources "crm").isSome ∧ ((s'.services 0).sources "crm").isSome ∧
      ∀ {Lck : Type} (c : Collaborators Nat Nat Lck),
        (sync c "crm" (s'.services 0).sources).2 ≠ some .sourceNotFound := by
  obtain ⟨s, -, hreg, -⟩ := crm_invoked (Factory.empty fun _ => []) false
  have run := Relation.ReflTransGen.single
    (r := Step (Factory.empty fun _ => []) false) (Step.reload (s := s) 0 (.ok GoMap.empty))
  exact ⟨s, _, run, hreg, registered_source_persists run hreg⟩

end Registrations

section Identifiers

variable {F : Factory Drv} {exclusive : Bool} {s s' : Cluster Drv Stg}

/-- Every task in the pools is named `sourceId_collection`. -/
def TaskIdentifiers (s : Cluster Drv Stg) : Prop :=
  ∀ t ∈ s.tasks, t.2.identifier = t.2.sourceId ++ "_" ++ t.2.collection

theorem TaskIdentifiers.step (hd : TaskIdentifiers s) (h : Step F exclusive s s') :
    TaskIdentifiers s' := by
  cases h with
  | invokeOk hx =>
      intro t ht
      rcases List.mem_append.mp ht with ht | ht
      · exact hd t ht
      · rw [List.mem_singleton.mp ht]; rfl
  | finish outcome ht =>
      exact fun u hu => hd u (ht ▸ ((List.sublist_cons_self _ _).append_left _).subset hu)
  | _ => exact hd

theorem Reachable.taskIdentifiers (h : Reachable F exclusive s) : TaskIdentifiers s := by
  obtain ⟨s₀, h₀, hrun⟩ := h
  induction hrun with
  | refl => simp [TaskIdentifiers, h₀.2.1]
  | tail _ hs ih => exact ih.step hs

/-- With a lock keeper that refuses a held key, and source ids without `_`, no two tasks in
the pools share an identifier. -/
theorem task_identifiers_nodup (h : Reachable F true s)
    (hid : ∀ t ∈ s.tasks, '_' ∉ t.2.sourceId.data) :
    (s.tasks.map (·.2.identifier)).Nodup := by
  have hkeys := h.inv.task_keys_nodup
  have hname := h.taskIdentifiers
  refine (List.Nodup.of_map _ hkeys).map_on fun a ha b hb hab =>
    List.inj_on_of_nodup_map hkeys ha hb ?_
  rw [hname a ha, hname b hb] at hab
  obtain ⟨h₁, h₂⟩ := identifier_inj (hid a ha) (hid b hb) hab
  rw [h₁, h₂]

/-- A run where the task of `crm`'s `contacts` is in the pool. -/
theorem task_identifiers_nodup_crm :
    ∃ s : Cluster Nat Nat, Reachable (Factory.empty fun _ => []) true s ∧ s.tasks ≠ [] ∧
      (∀ t ∈ s.tasks, '_' ∉ t.2.sourceId.data) ∧ (s.tasks.map (·.2.identifier)).Nodup := by
  obtain ⟨s, hr, -, -, htasks, -⟩ := crm_invoked (Factory.empty fun _ => []) true
  refine ⟨s, hr, by simp [htasks], ?hid, task_identifiers_nodup hr ?hid⟩
  simp [htasks]

end Identifiers

section Unlock

variable {F : Factory Drv} {exclusive : Bool} {s : Cluster Drv Stg}

/-- `Unlock` is passed each lock at most once, and a lock passed to it is no longer held, so a
deferred `Unlock` never releases a lock somebody took after it. -/
theorem unlock_at_most_once (h : Reachable F exclusive s) :
    s.unlocked.Nodup ∧ ∀ l ∈ s.unlocked, l ∉ s.locks := by
  have hn := h.inv.released_once
  exact ⟨hn.of_append_right, fun l hl hl' => List.disjoint_of_nodup_append hn hl' hl⟩

/-- The run of `Sync("crm")`, after the task of `contacts` has unlocked. -/
theorem unlock_at_most_once_crm :
    ∃ s : Cluster Nat Nat, Reachable (Factory.empty fun _ => []) true s ∧ s.unlocked ≠ [] ∧
      s.unlocked.Nodup ∧ ∀ l ∈ s.unlocked, l ∉ s.locks := by
  obtain ⟨s, hr, -, -, -, hun⟩ := crm_finished (Factory.empty fun _ => []) true
  exact ⟨s, hr, by simp [hun], unlock_at_most_once hr⟩

end Unlock

/-- With a lock keeper that refuses a held key, no two tasks queued or running in the pools
are for the same collection of the same source; each holds the lock of its key, and a lock
leaves the lock keeper only when the task carrying it ends. -/
theorem sync_tasks_mutually_exclusive {F : Factory Drv} {s : Cluster Drv Stg}
    (h : Reachable F true s) :
    (s.tasks.map fun t => (t.2.sourceId, t.2.collection)).Nodup ∧
    (∀ t ∈ s.tasks, t.2.lock ∈ s.locks ∧ t.2.lock.key = (t.2.sourceId, t.2.collection)) ∧
    ∀ s' l, Step F true s s' → l ∈ s.locks → l ∉ s'.locks →
      ∃ pre t post, s.tasks = pre ++ t :: post ∧ t.2.lock = l ∧ s'.tasks = pre ++ post ∧
        s'.unlocked = s.unlocked ++ [l] := by
  have hi := h.inv
  exact ⟨hi.task_keys_nodup, fun t ht => ⟨hi.carried_held _
    (List.mem_append_left _ (List.mem_map_of_mem _ ht)), hi.task_key t ht⟩,
    fun _ _ hs => hs.released⟩

/-- The statement on a run where the task of `crm`'s `contacts` is in the pool. -/
theorem sync_tasks_mutually_exclusive_crm :
    ∃ s : Cluster Nat Nat, Reachable (Factory.empty fun _ => []) true s ∧ s.tasks ≠ [] ∧
      (s.tasks.map fun t => (t.2.sourceId, t.2.collection)).Nodup ∧
      (∀ t ∈ s.tasks, t.2.lock ∈ s.locks ∧ t.2.lock.key = (t.2.sourceId, t.2.collection)) ∧
      ∀ s' l, Step (Factory.empty fun _ => []) true s s' → l ∈ s.locks → l ∉ s'.locks →
        ∃ pre t post, s.tasks = pre ++ t :: post ∧ t.2.lock = l ∧ s'.tasks = pre ++ post ∧
          s'.unlocked = s.unlocked ++ [l] := by
  obtain ⟨s, hr, -, -, htasks, -⟩ := crm_invoked (Factory.empty fun _ => []) true
  exact ⟨s, hr, by simp [htasks], sync_tasks_mutually_exclusive hr⟩

/-- `Sync("crm")` on a closed service: the lock of `contacts` is taken, `Invoke` fails, and
the lock is never released whatever happens next. -/
theorem sync_after_close_leaks_lock (F : Factory Nat) (exclusive : Bool) :
    ∃ s : Cluster Nat Nat, Reachable F exclusive s ∧ s.calls = [] ∧ s.tasks = [] ∧
      (⟨0, "crm", "contacts"⟩ : Lock) ∈ s.locks ∧
      ∀ s', Relation.ReflTransGen (Step F exclusive) s s' →
        (⟨0, "crm", "contacts"⟩ : Lock) ∈ s'.locks ∧
          (⟨0, "crm", "contacts"⟩ : Lock) ∉ s'.unlocked := by
  obtain ⟨s, hr, -, -, -, hcalls, htasks, hlocks, -⟩ := crm_locked F exclusive true
  have hr' := (hr.tail (Step.invokeFail "pool closed" (hcalls.trans (List.nil_append _).symm)
    rfl rfl)).tail (Step.syncReturn (List.nil_append _).symm rfl rfl)
  have hl : (⟨0, "crm", "contacts"⟩ : Lock) ∈ s.locks := by simp [hlocks]
  refine ⟨_, hr', rfl, htasks, hl, fun s' hs' => ?_⟩
  have hs := hr'.inv.orphan_run hs' hl (by simp [carried, htasks])
  exact ⟨hs.1, List.disjoint_of_nodup_append (hr'.inv.reachable hs').released_once hs.1⟩

end EventNative.Sources
