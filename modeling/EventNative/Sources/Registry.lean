import EventNative.Drivers.Factory

/-!
# The source registry and its reloads

The service keeps one `Unit` per source name: the drivers of its collections
and its destination ids. `initDrivers` runs `Create` for every entry of a
parsed configuration map and writes the units it gets into the registry; a
source whose `Create` fails is logged and skipped. A reload whose payload does
not parse leaves the registry as it was.

## Implementation notes

The registry map is only ever read and written by key, so it is a function.
`initDrivers` writes over the registry it is given and never removes a name:
a reload merges the payload into the previous registry.
-/

namespace EventNative.Sources

open Drivers

variable {Drv : Type}

/-- `Unit`: the drivers of a source's collections and its destination ids. -/
structure Unit (Drv : Type) where
  driverPerCollection : GoMap Drv
  destinationIds : List String

/-- The field `sources map[string]*Unit`. -/
abbrev Registry (Drv : Type) := String → Option (Unit Drv)

/-- The registry of a fresh service, `map[string]*Unit{}`. -/
def Registry.empty : Registry Drv := fun _ => none

/-- The write `s.sources[name] = unit`. -/
def Registry.set (r : Registry Drv) (name : String) (u : Unit Drv) : Registry Drv :=
  fun n => if n = name then some u else r n

/-- One pass of the loop of `initDrivers`. -/
def initSource (F : Factory Drv) (r : Registry Drv) (name : String)
    (sourceConfig : SourceConfig) : Registry Drv :=
  match (create F name sourceConfig).result with
  | .error _ => r
  | .ok driverPerCollection => r.set name ⟨driverPerCollection, sourceConfig.destinations⟩

/-- `initDrivers`, visiting the configurations in the map's iteration order. -/
def initDrivers (F : Factory Drv) (sourceConfigs : GoMap SourceConfig) (r : Registry Drv) :
    Registry Drv :=
  sourceConfigs.entries.foldl (fun r e => initSource F r e.1 e.2) r

/-- `updateSources`, given what `parseFromBytes` made of the payload. -/
def updateSources (F : Factory Drv) (parsed : Except String (GoMap SourceConfig))
    (r : Registry Drv) : Registry Drv :=
  match parsed with
  | .error _ => r
  | .ok sourceConfigs => initDrivers F sourceConfigs r

/-- The entry a name gets when its configuration is loaded over a previous entry. -/
def loadedEntry (F : Factory Drv) (name : String) (sourceConfig : SourceConfig)
    (old : Option (Unit Drv)) : Option (Unit Drv) :=
  match (create F name sourceConfig).result with
  | .error _ => old
  | .ok driverPerCollection => some ⟨driverPerCollection, sourceConfig.destinations⟩

section Load

variable (F : Factory Drv)

@[simp] theorem updateSources_error (e : String) (r : Registry Drv) :
    updateSources F (.error e) r = r := rfl

theorem initSource_apply (r : Registry Drv) (name : String) (cfg : SourceConfig) (n : String) :
    initSource F r name cfg n = if n = name then loadedEntry F name cfg (r n) else r n := by
  unfold initSource loadedEntry Registry.set
  split <;> split <;> simp_all

private theorem foldl_initSource_apply (l : List (String × SourceConfig))
    (hl : (l.map Prod.fst).Nodup) (r : Registry Drv) (n : String) :
    l.foldl (fun r e => initSource F r e.1 e.2) r n =
      match l.lookup n with
      | some cfg => loadedEntry F n cfg (r n)
      | none => r n := by
  induction l generalizing r with
  | nil => rfl
  | cons e l ih =>
      obtain ⟨k, cfg⟩ := e
      simp only [List.map_cons, List.nodup_cons, List.mem_map] at hl
      simp only [List.foldl_cons, ih hl.2, initSource_apply, List.lookup_cons]
      by_cases hn : n = k
      · subst hn
        have : l.lookup n = none :=
          List.lookup_eq_none_iff.mpr fun p hp => bne_iff_ne.mpr fun h => hl.1 ⟨p, hp, h.symm⟩
        simp [this]
      · simp [hn, beq_false_of_ne hn]

/-- After `initDrivers`, a name's entry depends on its own configuration and previous
entry only. -/
theorem initDrivers_apply (c : GoMap SourceConfig) (r : Registry Drv) (n : String) :
    initDrivers F c r n =
      match c.get n with
      | some cfg => loadedEntry F n cfg (r n)
      | none => r n :=
  foldl_initSource_apply F c.entries c.nodup r n

theorem loadedEntry_idem (name : String) (cfg : SourceConfig) (old : Option (Unit Drv)) :
    loadedEntry F name cfg (loadedEntry F name cfg old) = loadedEntry F name cfg old := by
  unfold loadedEntry
  split <;> simp_all

/-- A reload writes the units of the names whose configuration `Create` accepts and keeps
every other entry, among them those of the names the payload omits. -/
theorem updateSources_merges (c : GoMap SourceConfig) (r : Registry Drv) (n : String) :
    (∀ cfg m, c.get n = some cfg → (create F n cfg).result = .ok m →
      updateSources F (.ok c) r n = some ⟨m, cfg.destinations⟩) ∧
    ((∀ cfg, c.get n = some cfg → ∃ e, (create F n cfg).result = .error e) →
      updateSources F (.ok c) r n = r n) := by
  simp only [updateSources, initDrivers_apply]
  refine ⟨fun cfg m hc hm => by simp [hc, loadedEntry, hm], fun h => ?_⟩
  cases hc : c.get n with
  | none => rfl
  | some cfg =>
      obtain ⟨e, he⟩ := h cfg hc
      simp [loadedEntry, he]

/-- A name's entry after `initDrivers` is fixed by its own configuration and previous entry,
whatever the other configurations and the iteration order; a second run changes nothing. -/
theorem initDrivers_local_idem (c c' : GoMap SourceConfig) (r r' : Registry Drv) (n : String)
    (hc : c.get n = c'.get n) (hr : r n = r' n) :
    initDrivers F c r n = initDrivers F c' r' n ∧
      initDrivers F c (initDrivers F c r) = initDrivers F c r := by
  refine ⟨by rw [initDrivers_apply, initDrivers_apply, hc, hr], funext fun k => ?_⟩
  rw [initDrivers_apply, initDrivers_apply F c r k]
  cases c.get k with
  | none => rfl
  | some cfg => exact loadedEntry_idem F k cfg (r k)

/-- A reload gives the same registry whichever order the `range` over the payload visits its
entries in: the names of a map are distinct, so no two entries write the same key. -/
theorem updateSources_order_independent {c c' : GoMap SourceConfig}
    (h : c.entries.Perm c'.entries) (r : Registry Drv) :
    updateSources F (.ok c) r = updateSources F (.ok c') r := by
  funext n
  simp only [updateSources, initDrivers_apply, GoMap.get_eq_of_perm h]

/-- Two sources of a type with a constructor, loaded in either order: both register. -/
theorem updateSources_order_independent_swap :
    let F := registerDriverConstructor (Factory.empty fun _ => []) "t" fun _ _ => .ok (0 : Nat)
    let c := GoMap.empty.set "crm" (⟨"t", ["d"], [.str "contacts"], []⟩ : SourceConfig) |>.set
      "erp" ⟨"t", ["d"], [.str "deals"], []⟩
    let c' := GoMap.empty.set "erp" (⟨"t", ["d"], [.str "deals"], []⟩ : SourceConfig) |>.set
      "crm" ⟨"t", ["d"], [.str "contacts"], []⟩
    c.entries.Perm c'.entries ∧ (updateSources F (.ok c) Registry.empty "crm").isSome ∧
      (updateSources F (.ok c) Registry.empty "erp").isSome ∧
      updateSources F (.ok c) Registry.empty = updateSources F (.ok c') Registry.empty :=
  have h : (GoMap.empty.set "crm" (⟨"t", ["d"], [.str "contacts"], []⟩ : SourceConfig) |>.set "erp"
        ⟨"t", ["d"], [.str "deals"], []⟩).entries.Perm
      (GoMap.empty.set "erp" (⟨"t", ["d"], [.str "deals"], []⟩ : SourceConfig) |>.set "crm"
        ⟨"t", ["d"], [.str "contacts"], []⟩).entries :=
    List.Perm.swap _ _ []
  ⟨h, rfl, rfl, updateSources_order_independent _ h _⟩

/-- A reload never unregisters a source: it only adds or replaces units. -/
theorem updateSources_isSome (parsed : Except String (GoMap SourceConfig)) {r : Registry Drv}
    {n : String} (h : (r n).isSome) : (updateSources F parsed r n).isSome := by
  cases parsed with
  | error e => exact h
  | ok c =>
      simp only [updateSources, initDrivers_apply]
      split
      · unfold loadedEntry; split <;> simp [h]
      · exact h

/-- `Create` calls a constructor only for a configured source and fails before any call
otherwise; a failing constructor call fails the whole `Create`, and `initDrivers` then keeps
the name's previous entry instead of registering a partial unit. -/
theorem create_checks_before_constructing (name : String) (cfg : SourceConfig) :
    ((create F name cfg).invoked ≠ [] → Configured F name cfg) ∧
    (¬ Configured F name cfg →
      (create F name cfg).invoked = [] ∧ ∃ e, (create F name cfg).result = .error e) ∧
    ∀ f col, F.driverConstructors (withType name cfg).type = some f →
      col ∈ (create F name cfg).invoked → (f (withType name cfg) col).toBool = false →
        (∃ e, (create F name cfg).result = .error e) ∧
        ∀ (c : GoMap SourceConfig) (r : Registry Drv), c.get name = some cfg →
          initDrivers F c r name = r name := by
  obtain ⟨h₁, h₂, h₃⟩ := create_invokes_only_if_configured F name cfg
  refine ⟨h₁, h₂, fun f col hf hc hfail => ?_⟩
  obtain ⟨e, he⟩ := h₃ f col hf hc hfail
  exact ⟨⟨e, he⟩, fun c r hcfg => by simp [initDrivers_apply, hcfg, loadedEntry, he]⟩

end Load

/-- Two payloads with the same entries in another order, and another prior entry elsewhere;
`crm`'s type has a constructor, so the payload registers it. -/
theorem initDrivers_local_idem_crm :
    let cfg : SourceConfig := ⟨"", ["warehouse"], [.str "contacts"], []⟩
    let c := (GoMap.empty.set "crm" cfg).set "ads" cfg
    let c' := (GoMap.empty.set "ads" cfg).set "crm" cfg
    let F := registerDriverConstructor (Factory.empty fun _ => []) "crm" fun _ _ => .ok (0 : Nat)
    let r' : Registry Nat := Registry.empty.set "ads" ⟨GoMap.empty, []⟩
    (initDrivers F c Registry.empty "crm").isSome ∧
      c.get "crm" = c'.get "crm" ∧ Registry.empty "crm" = r' "crm" ∧
      initDrivers F c Registry.empty "crm" = initDrivers F c' r' "crm" ∧
      initDrivers F c (initDrivers F c Registry.empty) = initDrivers F c Registry.empty :=
  ⟨rfl, rfl, rfl, initDrivers_local_idem _ _ _ _ _ "crm" rfl rfl⟩

/-- A reload with an empty payload, or with one that configures `crm` without destinations,
keeps the stale `crm` unit. -/
theorem updateSources_keeps_stale_source :
    let r : Registry Nat := Registry.empty.set "crm" ⟨GoMap.empty, ["warehouse"]⟩
    let F : Factory Nat :=
      registerDriverConstructor (Factory.empty fun _ => []) "crm" fun _ _ => .ok 0
    (updateSources F (.ok GoMap.empty) r "crm").isSome = true ∧
      (updateSources F (.ok (GoMap.empty.set "crm" ⟨"", [], [.str "deals"], []⟩)) r
        "crm").isSome = true :=
  ⟨rfl, rfl⟩

end EventNative.Sources
