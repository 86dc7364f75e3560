import Mathlib.Data.List.Nodup
import Mathlib.Logic.Embedding.Basic

/-!
# Insertion-ordered dictionaries

`Dict κ ν` is a finite map from keys to values which remembers the order in
which its keys were first inserted: the order in which such a dictionary is
iterated, listed or serialised.  Assigning to a key that is present keeps its
position and replaces its value; assigning to a new key appends it.

The no-duplicates condition is a field, so every operation returns a dictionary
and no later proof has to re-establish it.  `Dict.get?` is the observation the
laws are about: `get?_set` and `get?_filterKeys` say what the operations do to
it, `mem_keys_set` what assignment does to the set of keys.
-/

universe u v

namespace Courtside

/-- A finite map with its keys in insertion order, each occurring once. -/
structure Dict (κ : Type u) (ν : Type v) where
  /-- The bindings, oldest key first. -/
  entries : List (κ × ν)
  /-- No key is bound twice. -/
  nodup : (entries.map Prod.fst).Nodup

namespace Dict

variable {κ : Type u} {ν : Type v}

/-- Two dictionaries with the same bindings in the same order are equal. -/
@[ext] theorem ext {d e : Dict κ ν} (h : d.entries = e.entries) : d = e := by
  cases d; cases e; cases h; rfl

instance [DecidableEq κ] [DecidableEq ν] : DecidableEq (Dict κ ν) := fun d e ↦
  decidable_of_iff (d.entries = e.entries) ⟨ext, fun h ↦ h ▸ rfl⟩

/-- The keys, oldest first. -/
def keys (d : Dict κ ν) : List κ := d.entries.map Prod.fst

/-- The dictionary without bindings. -/
def empty : Dict κ ν := ⟨[], List.nodup_nil⟩

variable [DecidableEq κ]

/-- The value bound to a key, if any. -/
def get? (d : Dict κ ν) (k : κ) : Option ν := d.entries.lookup k

@[simp] theorem get?_empty (k : κ) : (empty : Dict κ ν).get? k = none := rfl

/-- The bindings after an assignment: in place for a bound key, at the end for a
new one. -/
def setEntries (k : κ) (v : ν) : List (κ × ν) → List (κ × ν)
  | [] => [(k, v)]
  | e :: es => if e.1 = k then (k, v) :: es else e :: setEntries k v es

theorem mem_map_fst_setEntries {k j : κ} {v : ν} {es : List (κ × ν)} :
    j ∈ (setEntries k v es).map Prod.fst ↔ j = k ∨ j ∈ es.map Prod.fst := by
  induction es with
  | nil => simp [setEntries]
  | cons e es ih =>
      by_cases h : e.1 = k
      · simp [setEntries, h]
      · rw [setEntries, if_neg h, List.map_cons, List.mem_cons, ih, List.map_cons,
          List.mem_cons]
        tauto

theorem nodup_setEntries {k : κ} {v : ν} {es : List (κ × ν)}
    (h : (es.map Prod.fst).Nodup) : ((setEntries k v es).map Prod.fst).Nodup := by
  induction es with
  | nil => simp [setEntries]
  | cons e es ih =>
      obtain ⟨hne, hes⟩ := List.nodup_cons.mp h
      by_cases hk : e.1 = k
      · rw [setEntries, if_pos hk]
        exact List.nodup_cons.mpr ⟨hk ▸ hne, hes⟩
      · rw [setEntries, if_neg hk]
        refine List.nodup_cons.mpr ⟨fun hmem ↦ ?_, ih hes⟩
        rcases mem_map_fst_setEntries.mp hmem with heq | hmem
        · exact hk heq
        · exact hne hmem

theorem lookup_setEntries {k j : κ} {v : ν} {es : List (κ × ν)} :
    (setEntries k v es).lookup j = if j = k then some v else es.lookup j := by
  induction es with
  | nil =>
      by_cases hj : j = k
      · simp [setEntries, hj]
      · simp [setEntries, List.lookup_cons, hj, beq_false_of_ne hj]
  | cons e es ih =>
      obtain ⟨e₁, e₂⟩ := e
      by_cases hk : e₁ = k
      · subst hk
        by_cases hj : j = e₁
        · simp [setEntries, hj]
        · simp [setEntries, List.lookup_cons, hj, beq_false_of_ne hj]
      · rw [setEntries, if_neg hk]
        by_cases hj : j = e₁
        · subst hj
          simp [hk]
        · simpa [List.lookup_cons, beq_false_of_ne hj] using ih

theorem setEntries_of_notMem {k : κ} (v : ν) {es : List (κ × ν)} (h : k ∉ es.map Prod.fst) :
    setEntries k v es = es ++ [(k, v)] := by
  induction es with
  | nil => rfl
  | cons e es ih =>
      obtain ⟨hne, hes⟩ := not_or.mp (fun hmem ↦ h (List.mem_cons.mpr hmem))
      rw [setEntries, if_neg (Ne.symm hne), ih hes, List.cons_append]

/-- Assignment `d[k] = v`. -/
def set (d : Dict κ ν) (k : κ) (v : ν) : Dict κ ν :=
  ⟨setEntries k v d.entries, nodup_setEntries d.nodup⟩

/-- Looking a key up after an assignment. -/
theorem get?_set (d : Dict κ ν) (k j : κ) (v : ν) :
    (d.set k v).get? j = if j = k then some v else d.get? j := lookup_setEntries

@[simp] theorem get?_set_self (d : Dict κ ν) (k : κ) (v : ν) :
    (d.set k v).get? k = some v := by rw [get?_set, if_pos rfl]

theorem get?_set_of_ne (d : Dict κ ν) {k j : κ} (v : ν) (h : j ≠ k) :
    (d.set k v).get? j = d.get? j := by rw [get?_set, if_neg h]

/-- A new key comes last. -/
theorem entries_set_of_notMem {d : Dict κ ν} {k : κ} (v : ν) (h : k ∉ d.keys) :
    (d.set k v).entries = d.entries ++ [(k, v)] := setEntries_of_notMem v h

/-- Assignment adds its key and removes none. -/
theorem mem_keys_set {d : Dict κ ν} {k j : κ} {v : ν} :
    j ∈ (d.set k v).keys ↔ j = k ∨ j ∈ d.keys := mem_map_fst_setEntries

/-- What is looked up is bound. -/
theorem mem_entries_of_get? {d : Dict κ ν} {k : κ} {v : ν} (h : d.get? k = some v) :
    (k, v) ∈ d.entries := by
  obtain ⟨before, after, hentries, -⟩ := List.lookup_eq_some_iff.mp h
  rw [hentries]
  exact List.mem_append_right _ List.mem_cons_self

/-- A key is listed exactly if it is bound. -/
theorem mem_keys_iff {d : Dict κ ν} {k : κ} : k ∈ d.keys ↔ ∃ v, d.get? k = some v := by
  have key : ∀ es : List (κ × ν), k ∈ es.map Prod.fst ↔ ∃ v, es.lookup k = some v := by
    intro es
    induction es with
    | nil => simp
    | cons e es ih =>
        obtain ⟨e₁, e₂⟩ := e
        by_cases hk : k = e₁
        · simp [hk]
        · simpa [List.lookup_cons, hk, beq_false_of_ne hk] using ih
  exact key d.entries

/-- The bindings whose keys satisfy a test, in their old order. -/
def filterKeys (d : Dict κ ν) (p : κ → Bool) : Dict κ ν where
  entries := d.entries.filter fun e ↦ p e.1
  nodup := d.nodup.sublist (List.filter_sublist.map Prod.fst)

/-- Looking a key up after a filter on keys. -/
theorem get?_filterKeys (d : Dict κ ν) (p : κ → Bool) (k : κ) :
    (d.filterKeys p).get? k = if p k then d.get? k else none := by
  have key : ∀ es : List (κ × ν), (es.filter fun e ↦ p e.1).lookup k =
      if p k then es.lookup k else none := by
    intro es
    induction es with
    | nil => simp
    | cons e es ih =>
        obtain ⟨e₁, e₂⟩ := e
        by_cases hk : k = e₁
        · subst hk
          cases hp : p k <;> simp [hp, ih]
        · cases hp : p e₁ <;> simp [List.lookup_cons, hp, ih, beq_false_of_ne hk]
  exact key d.entries

/-! ## Renaming -/

section Rename

variable {κ' : Type*} {ν' : Type*}

/-- The bindings in their old order, with other keys and values. -/
def rename (f : κ ↪ κ') (g : ν → ν') (d : Dict κ ν) : Dict κ' ν' where
  entries := d.entries.map fun e ↦ (f e.1, g e.2)
  nodup := by
    have hmap : (d.entries.map fun e ↦ (f e.1, g e.2)).map Prod.fst =
        (d.entries.map Prod.fst).map f := by
      rw [List.map_map, List.map_map]
      rfl
    rw [hmap]
    exact d.nodup.map f.injective

variable [DecidableEq κ']

/-- Looking a renamed key up. -/
theorem get?_rename (f : κ ↪ κ') (g : ν → ν') (d : Dict κ ν) (k : κ) :
    (d.rename f g).get? (f k) = (d.get? k).map g := by
  have key : ∀ es : List (κ × ν),
      (es.map fun e ↦ (f e.1, g e.2)).lookup (f k) = (es.lookup k).map g := by
    intro es
    induction es with
    | nil => rfl
    | cons e es ih =>
        obtain ⟨e₁, e₂⟩ := e
        by_cases hk : k = e₁
        · simp [hk]
        · simpa [List.lookup_cons, beq_false_of_ne hk,
            beq_false_of_ne (f.injective.ne hk)] using ih
  exact key d.entries

/-- Assigning to a renamed key. -/
theorem rename_set (f : κ ↪ κ') (g : ν → ν') (d : Dict κ ν) (k : κ) (v : ν) :
    (d.set k v).rename f g = (d.rename f g).set (f k) (g v) := by
  have key : ∀ es : List (κ × ν), (setEntries k v es).map (fun e ↦ (f e.1, g e.2)) =
      setEntries (f k) (g v) (es.map fun e ↦ (f e.1, g e.2)) := by
    intro es
    induction es with
    | nil => rfl
    | cons e es ih =>
        rw [setEntries, List.map_cons, setEntries]
        by_cases hk : e.1 = k
        · rw [if_pos hk, if_pos (congrArg f hk)]
          rfl
        · rw [if_neg hk, if_neg (f.injective.ne hk), List.map_cons, ih]
  exact Dict.ext (key d.entries)

end Rename

end Dict

end Courtside
