import Mathlib.Data.List.Perm.Basic
import Mathlib.Data.List.Nodup

/-!
# Go maps keyed by strings

A `map[string]V` is modelled by its entries, in the order one `range` loop
visits them. Go fixes no such order and randomises it on every loop, so a
statement about a loop over a map is stated for every entry list with distinct
keys. Assignment `m[k] = v` replaces the entry in place or appends a new one.
-/

namespace EventNative

/-- A `map[string]V`. The keys are distinct; the list order is one iteration order. -/
structure GoMap (V : Type) where
  entries : List (String × V)
  nodup : (entries.map Prod.fst).Nodup

namespace GoMap

variable {V : Type}

/-- The empty map literal `map[string]V{}`. -/
def empty : GoMap V := ⟨[], List.nodup_nil⟩

/-- The keys, in iteration order. -/
def keys (m : GoMap V) : List String := m.entries.map Prod.fst

/-- The lookup `v, ok := m[k]`. -/
def get (m : GoMap V) (k : String) : Option V := m.entries.lookup k

/-- `len(m)`. -/
def size (m : GoMap V) : Nat := m.entries.length

private theorem keys_replace (l : List (String × V)) (k : String) (v : V) :
    (l.map fun e => if e.1 = k then (k, v) else e).map Prod.fst = l.map Prod.fst := by
  induction l with
  | nil => rfl
  | cons e l ih =>
      by_cases h : e.1 = k
      · simp [h, ih]
      · simp [h, ih]

/-- The assignment `m[k] = v`. -/
def set (m : GoMap V) (k : String) (v : V) : GoMap V :=
  if h : k ∈ m.keys then
    ⟨m.entries.map fun e => if e.1 = k then (k, v) else e, by
      rw [keys_replace]; exact m.nodup⟩
  else
    ⟨m.entries ++ [(k, v)], by
      simp only [List.map_append, List.map_cons, List.map_nil, List.nodup_append]
      exact ⟨m.nodup, List.nodup_singleton _, List.disjoint_singleton.mpr h⟩⟩

@[simp] theorem keys_empty : (empty : GoMap V).keys = [] := rfl

@[simp] theorem get_empty (k : String) : (empty : GoMap V).get k = none := rfl

@[simp] theorem size_empty : (empty : GoMap V).size = 0 := rfl

theorem keys_nodup (m : GoMap V) : m.keys.Nodup := m.nodup

theorem lookup_eq_some_of_mem {l : List (String × V)} (hl : (l.map Prod.fst).Nodup)
    {k : String} {v : V} (h : (k, v) ∈ l) : l.lookup k = some v := by
  induction l with
  | nil => cases h
  | cons e l ih =>
      obtain ⟨k', v'⟩ := e
      simp only [List.map_cons, List.nodup_cons, List.mem_map] at hl
      rcases List.mem_cons.mp h with h | h
      · cases h; simp
      · have hk : k ≠ k' := fun hk => hl.1 ⟨(k, v), h, hk⟩
        simp [List.lookup_cons, beq_false_of_ne hk, ih hl.2 h]

theorem get_eq_some_iff (m : GoMap V) (k : String) (v : V) :
    m.get k = some v ↔ (k, v) ∈ m.entries := by
  constructor
  · intro h
    obtain ⟨l₁, l₂, he, -⟩ := List.lookup_eq_some_iff.mp h
    simp [he]
  · exact lookup_eq_some_of_mem m.nodup

theorem get_eq_none_iff (m : GoMap V) (k : String) : m.get k = none ↔ k ∉ m.keys := by
  simp only [get, keys, List.lookup_eq_none_iff, List.mem_map, bne_iff_ne, ne_eq,
    not_exists, not_and]
  exact ⟨fun h p hp hk => h p hp hk.symm, fun h p hp hk => h p hp hk.symm⟩

theorem mem_keys_iff (m : GoMap V) (k : String) : k ∈ m.keys ↔ ∃ v, m.get k = some v := by
  rw [← not_iff_not, ← get_eq_none_iff]
  cases m.get k <;> simp

/-- Lookups see the entries only, not the order a loop visits them in. -/
theorem get_eq_of_perm {m m' : GoMap V} (h : m.entries.Perm m'.entries) (k : String) :
    m.get k = m'.get k := by
  cases hk : m'.get k with
  | none =>
      rw [get_eq_none_iff] at hk ⊢
      exact fun hm => hk ((h.map Prod.fst).subset hm)
  | some v =>
      rw [get_eq_some_iff] at hk ⊢
      exact h.symm.subset hk

@[simp] theorem get_set (m : GoMap V) (k k' : String) (v : V) :
    (m.set k v).get k' = if k' = k then some v else m.get k' := by
  split
  · subst k'
    rw [get_eq_some_iff, set]
    split
    · next h =>
        obtain ⟨⟨k₀, v₀⟩, hm, rfl⟩ := List.mem_map.mp h
        exact List.mem_map.mpr ⟨(k₀, v₀), hm, by simp⟩
    · simp
  · next hne =>
      cases hk : m.get k' with
      | none =>
          rw [get_eq_none_iff] at hk ⊢
          unfold set; split
          · rwa [keys, keys_replace]
          · simpa [keys, hne] using hk
      | some v' =>
          rw [get_eq_some_iff] at hk ⊢
          unfold set; split
          · exact List.mem_map.mpr ⟨(k', v'), hk, by simp [hne]⟩
          · exact List.mem_append_left _ hk

theorem mem_keys_set (m : GoMap V) (k k' : String) (v : V) :
    k' ∈ (m.set k v).keys ↔ k' = k ∨ k' ∈ m.keys := by
  simp only [mem_keys_iff, get_set]
  split <;> simp_all

end GoMap

end EventNative
