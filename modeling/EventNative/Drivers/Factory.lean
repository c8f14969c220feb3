import EventNative.GoMap
import Mathlib.Data.List.Dedup

/-!
# The driver factory

`Create` normalises the collection entries of a source configuration, checks
that collections and destinations are configured and that the source type has
a registered constructor, and then calls that constructor once per collection,
storing each driver under its collection name. A constructor failure aborts
the whole call.

## Implementation notes

Collection entries are decoded `interface{}` values: a string, a map whose keys
`cast.ToStringMap` has turned into strings, or anything else. The registered
constructors and the JSON decoding `cast.ToStringMap` applies to a string are
the two things `Create` reads besides its arguments; they form a `Factory`.
A constructor is a function of its two arguments, so its outcome depends on
nothing else. A Go nil map and an empty map are both the empty list.
-/

namespace EventNative.Drivers

/-- A decoded configuration value of type `interface{}`. -/
inductive Value
  | str (s : String)
  | obj (fields : List (String × Value))
  | other

/-- `SourceConfig`. -/
structure SourceConfig where
  type : String
  destinations : List String
  collections : List Value
  config : List (String × Value)

/-- `Collection`. -/
structure Collection where
  name : String
  type : String
  tableName : String
  parameters : List (String × Value)

def collectionNameField : String := "name"

def collectionTableNameField : String := "table_name"

def collectionParametersField : String := "parameters"

/-- A registered constructor `func(ctx, *SourceConfig, *Collection) (Driver, error)`. -/
abbrev Constructor (Drv : Type) := SourceConfig → Collection → Except String Drv

/-- The constructors registered per source type, and the JSON decoding of a string. -/
structure Factory (Drv : Type) where
  driverConstructors : String → Option (Constructor Drv)
  jsonStringToObject : String → List (String × Value)

variable {Drv : Type}

/-- No constructor registered yet: `make(map[string]func(...))`. -/
def Factory.empty (jsonStringToObject : String → List (String × Value)) : Factory Drv :=
  ⟨fun _ => none, jsonStringToObject⟩

/-- `RegisterDriverConstructor`. -/
def registerDriverConstructor (F : Factory Drv) (driverType : String)
    (createDriverFunc : Constructor Drv) : Factory Drv :=
  { F with driverConstructors := fun t =>
      if t = driverType then some createDriverFunc else F.driverConstructors t }

/-- The errors `Create` returns. -/
inductive CreateError
  | nameNotConfigured
  | collectionsFormat
  | collectionsEmpty
  | destinationsEmpty
  | unknownSource
  | driver (type : String) (collection : Collection) (err : String)

/-- The error texts. Go prints the whole collection struct in the last one; its
name stands for it here. -/
def CreateError.message : CreateError → String
  | .nameNotConfigured => "[name] field of collection is not configured"
  | .collectionsFormat =>
      "failed to parse source collections as array of string or collections structure"
  | .collectionsEmpty => "collections are empty. Please specify at least one collection"
  | .destinationsEmpty => "destinations are empty. Please specify at least one destination"
  | .unknownSource => "Unknown source type"
  | .driver t c e => "error creating [" ++ t ++ "] driver for [" ++ c.name ++
      "] collection: " ++ e

/-- `getStringParameter`: the string under a key, or `""`. -/
def getStringParameter (dict : List (String × Value)) (parameterName : String) : String :=
  match dict.lookup parameterName with
  | some (.str s) => s
  | _ => ""

/-- `cast.ToStringMap` of a possibly missing value. -/
def toStringMap (F : Factory Drv) : Option Value → List (String × Value)
  | some (.obj m) => m
  | some (.str s) => F.jsonStringToObject s
  | _ => []

/-- One pass of the normalising loop: the `switch collection.(type)`. -/
def collectionOf (F : Factory Drv) : Value → Except CreateError Collection
  | .str s => .ok ⟨s, s, "", []⟩
  | .obj m =>
      let collectionName := getStringParameter m collectionNameField
      if collectionName = "" then .error .nameNotConfigured
      else
        let collectionType := getStringParameter m "type"
        .ok { name := collectionName
              type := if collectionType = "" then collectionName else collectionType
              tableName := getStringParameter m collectionTableNameField
              parameters := toStringMap F (m.lookup collectionParametersField) }
  | .other => .error .collectionsFormat

/-- The normalising loop over `sourceConfig.Collections`, stopping at the first bad entry. -/
def collectionsOf (F : Factory Drv) : List Value → Except CreateError (List Collection)
  | [] => .ok []
  | v :: vs =>
      match collectionOf F v with
      | .error e => .error e
      | .ok c => (collectionsOf F vs).map (c :: ·)

/-- What one call of `Create` (or of its constructor loop) does: the collections
the constructor is invoked with, in order, and the value returned. -/
structure CreateRun (Drv : Type) where
  invoked : List Collection
  result : Except CreateError (GoMap Drv)

/-- The loop `for _, collection := range collections` that calls the constructor. -/
def driversOf (createDriverFunc : Constructor Drv) (sourceConfig : SourceConfig) :
    List Collection → GoMap Drv → CreateRun Drv
  | [], m => ⟨[], .ok m⟩
  | c :: cs, m =>
      match createDriverFunc sourceConfig c with
      | .error e => ⟨[c], .error (.driver sourceConfig.type c e)⟩
      | .ok d =>
          let r := driversOf createDriverFunc sourceConfig cs (m.set c.name d)
          ⟨c :: r.invoked, r.result⟩

/-- The configuration after `if sourceConfig.Type == "" { sourceConfig.Type = name }`. -/
def withType (name : String) (sourceConfig : SourceConfig) : SourceConfig :=
  if sourceConfig.type = "" then { sourceConfig with type := name } else sourceConfig

/-- `Create`. -/
def create (F : Factory Drv) (name : String) (sourceConfig : SourceConfig) : CreateRun Drv :=
  let sourceConfig := withType name sourceConfig
  match collectionsOf F sourceConfig.collections with
  | .error e => ⟨[], .error e⟩
  | .ok collections =>
      if collections.length = 0 then ⟨[], .error .collectionsEmpty⟩
      else if sourceConfig.destinations.length = 0 then ⟨[], .error .destinationsEmpty⟩
      else
        match F.driverConstructors sourceConfig.type with
        | none => ⟨[], .error .unknownSource⟩
        | some createDriverFunc =>
            driversOf createDriverFunc sourceConfig collections GoMap.empty


/-- An entry `Create` can normalise: a string, or a map with a non-empty string name. -/
def EntryValid : Value → Prop
  | .str _ => True
  | .obj m => getStringParameter m collectionNameField ≠ ""
  | .other => False

section Normalise

variable (F : Factory Drv)

@[simp] theorem withType_collections (name : String) (cfg : SourceConfig) :
    (withType name cfg).collections = cfg.collections := by
  unfold withType; split <;> rfl

@[simp] theorem withType_destinations (name : String) (cfg : SourceConfig) :
    (withType name cfg).destinations = cfg.destinations := by
  unfold withType; split <;> rfl

theorem collectionOf_ok_iff (v : Value) : (∃ c, collectionOf F v = .ok c) ↔ EntryValid v := by
  cases v with
  | str s => simp [collectionOf, EntryValid]
  | obj m =>
      simp only [collectionOf, EntryValid]
      split <;> simp_all
  | other => simp [collectionOf, EntryValid]

/-- A map naming `s` and nothing else normalises as the bare string `s`, unless `s` is empty. -/
theorem collectionOf_obj_name {s : String} (hs : s ≠ "") :
    collectionOf F (.obj [(collectionNameField, .str s)]) = collectionOf F (.str s) := by
  simp [collectionOf, getStringParameter, hs, collectionNameField, collectionTableNameField,
    collectionParametersField, toStringMap, List.lookup_cons, List.lookup_nil]

theorem collectionsOf_eq_ok {vs : List Value} {cols : List Collection} :
    collectionsOf F vs = .ok cols ↔ List.Forall₂ (fun v c => collectionOf F v = .ok c) vs cols := by
  induction vs generalizing cols with
  | nil => cases cols <;> simp [collectionsOf]
  | cons v vs ih =>
      rw [List.forall₂_cons_left_iff]
      cases hv : collectionOf F v with
      | error e => simp [collectionsOf, hv]
      | ok c =>
          cases hr : collectionsOf F vs with
          | error e =>
              simp only [collectionsOf, hv, hr, Except.map, reduceCtorEq, false_iff, not_exists,
                not_and]
              intro c' cs' _ h; cases (ih.mpr h).symm.trans hr
          | ok cs =>
              simp only [collectionsOf, hv, hr, Except.map, Except.ok.injEq]
              constructor
              · rintro rfl; exact ⟨c, cs, rfl, ih.mp hr, rfl⟩
              · rintro ⟨c', cs', hc, hcs, rfl⟩
                cases hc; cases (ih.mpr hcs).symm.trans hr; rfl

theorem collectionsOf_valid {vs : List Value} {cols : List Collection}
    (h : collectionsOf F vs = .ok cols) : (∀ v ∈ vs, EntryValid v) ∧ cols.length = vs.length := by
  have h₂ := (collectionsOf_eq_ok F).mp h
  refine ⟨fun v hv => ?_, h₂.length_eq.symm⟩
  clear h
  induction h₂ with
  | nil => cases hv
  | cons hc _ ih =>
      rcases List.mem_cons.mp hv with rfl | hv
      · exact (collectionOf_ok_iff F _).mp ⟨_, hc⟩
      · exact ih hv

/-- The Collection values do not depend on the spelling of a non-empty name. -/
theorem collectionsOf_bare_eq_named (pre post : List Value) {s : String} (hs : s ≠ "") :
    collectionsOf F (pre ++ .str s :: post) =
      collectionsOf F (pre ++ .obj [(collectionNameField, .str s)] :: post) := by
  induction pre with
  | nil => simp only [List.nil_append, collectionsOf, collectionOf_obj_name F hs]
  | cons v pre ih => simp only [List.cons_append, collectionsOf, List.append_eq, ih]

end Normalise

section Constructors

variable (f : Constructor Drv) (cfg : SourceConfig)

/-- The constructor loop calls the constructor on every collection when it succeeds,
and each name then holds the driver built for the last collection of that name. -/
theorem driversOf_ok {cs : List Collection} {m m' : GoMap Drv}
    (h : (driversOf f cfg cs m).result = .ok m') :
    (driversOf f cfg cs m).invoked = cs ∧ (∀ c ∈ cs, ∃ d, f cfg c = .ok d) ∧
      ∀ k, m'.get k = match cs.reverse.find? (·.name == k) with
        | some c => (f cfg c).toOption
        | none => m.get k := by
  induction cs generalizing m with
  | nil => cases h; simp [driversOf]
  | cons c cs ih =>
      cases hc : f cfg c with
      | error e => simp [driversOf, hc] at h
      | ok d =>
          simp only [driversOf, hc] at h ⊢
          obtain ⟨h₁, h₂, h₃⟩ := ih h
          refine ⟨by rw [h₁], ?_, fun k => ?_⟩
          · rintro c' (_ | ⟨_, hc'⟩)
            · exact ⟨d, hc⟩
            · exact h₂ c' hc'
          · rw [h₃ k, List.reverse_cons, List.find?_append]
            cases cs.reverse.find? (·.name == k) with
            | some c' => rfl
            | none =>
                by_cases hk : c.name = k
                · simp [hk, hc, Except.toOption]
                · simp [hk, Ne.symm hk]

end Constructors

/-- What `Create` checks before it calls a constructor. -/
def Configured (F : Factory Drv) (name : String) (cfg : SourceConfig) : Prop :=
  (∀ v ∈ cfg.collections, EntryValid v) ∧ cfg.collections ≠ [] ∧ cfg.destinations ≠ [] ∧
    (F.driverConstructors (withType name cfg).type).isSome

section Create

variable (F : Factory Drv) (name : String) (cfg : SourceConfig)

/-- `Create` either fails before calling any constructor, or runs the constructor loop
after every check has passed. -/
theorem create_cases :
    (∃ e, create F name cfg = ⟨[], .error e⟩) ∨
    ∃ cols f, collectionsOf F cfg.collections = .ok cols ∧ Configured F name cfg ∧
      F.driverConstructors (withType name cfg).type = some f ∧
      create F name cfg = driversOf f (withType name cfg) cols GoMap.empty := by
  unfold create
  simp only [withType_collections, withType_destinations]
  cases hc : collectionsOf F cfg.collections with
  | error e => exact .inl ⟨e, rfl⟩
  | ok cols =>
      obtain ⟨hvalid, hlen⟩ := collectionsOf_valid F hc
      simp only
      split
      · exact .inl ⟨_, rfl⟩
      split
      · exact .inl ⟨_, rfl⟩
      split
      · exact .inl ⟨_, rfl⟩
      · next hcols hdest f hf =>
          refine .inr ⟨cols, f, rfl, ⟨hvalid, ?_, ?_, by simp [hf]⟩, hf, rfl⟩
          · rw [← List.length_pos, ← hlen]; omega
          · rwa [Ne, ← List.length_eq_zero]

/-- `Create` calls a constructor only for a configured source, fails on an unconfigured
one before any call, and fails whenever one of its constructor calls fails. -/
theorem create_invokes_only_if_configured :
    ((create F name cfg).invoked ≠ [] → Configured F name cfg) ∧
    (¬ Configured F name cfg →
      (create F name cfg).invoked = [] ∧ ∃ e, (create F name cfg).result = .error e) ∧
    (∀ f c, F.driverConstructors (withType name cfg).type = some f →
      c ∈ (create F name cfg).invoked → (f (withType name cfg) c).toBool = false →
        ∃ e, (create F name cfg).result = .error e) := by
  rcases create_cases F name cfg with ⟨e, he⟩ | ⟨cols, f, -, hconf, hf, he⟩
  · simp [he]
  refine ⟨fun _ => hconf, fun h => absurd hconf h, fun f' c hf' hc hfail => ?_⟩
  cases (hf'.symm.trans hf)
  cases hr : (create F name cfg).result with
  | error e => exact ⟨e, rfl⟩
  | ok m =>
      rw [he] at hr hc
      obtain ⟨hinv, hok, -⟩ := driversOf_ok f _ hr
      obtain ⟨d, hd⟩ := hok c (hinv ▸ hc)
      simp [hd, Except.toBool] at hfail

end Create

/-- The bare entry `""` is accepted as a collection with an empty name, while the map
`{"name": ""}` is rejected. -/
theorem create_accepts_empty_bare_name :
    (create (registerDriverConstructor (Factory.empty fun _ => []) "t" fun _ _ => .ok (0 : Nat))
        "src" ⟨"t", ["d"], [.str ""], []⟩).result.toBool = true ∧
      (create (registerDriverConstructor (Factory.empty fun _ => []) "t" fun _ _ => .ok (0 : Nat))
        "src" ⟨"t", ["d"], [.str ""], []⟩).invoked.map Collection.name = [""] ∧
      (create (registerDriverConstructor (Factory.empty fun _ => []) "t" fun _ _ => .ok (0 : Nat))
        "src" ⟨"t", ["d"], [.obj [(collectionNameField, .str "")]], []⟩).result.toBool = false :=
  ⟨rfl, rfl, rfl⟩

end EventNative.Drivers
