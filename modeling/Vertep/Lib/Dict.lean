import Mathlib.Data.List.Nodup
import Mathlib.Data.List.Perm.Basic

/-!
# Insertion-ordered dictionaries

The `dict` of Python: a list of bindings in insertion order with at most one binding a key. An
assignment to a present key keeps its place, an assignment to a new key goes to the end, and `pop`
closes the gap. The order is observable (`list(d.items())`, `next(iter(d))`), so the finite maps of
Mathlib, which forget or permute it, do not serve here.
-/

namespace Lib

/-- A dictionary: its bindings in insertion order, no key bound twice. -/
structure Dict (κ ν : Type) where
  entries : List (κ × ν)
  nodup : (entries.map Prod.fst).Nodup
deriving DecidableEq

namespace Dict

variable {κ ν : Type}

/-- `{}`. -/
def empty : Dict κ ν := ⟨[], List.nodup_nil⟩

instance : EmptyCollection (Dict κ ν) := ⟨empty⟩

/-- `list(d)`. -/
def keys (d : Dict κ ν) : List κ := d.entries.map Prod.fst

/-- `list(d.values())`. -/
def values (d : Dict κ ν) : List ν := d.entries.map Prod.snd

variable [DecidableEq κ]

/-- The value bound to `k` in a list of bindings. -/
def lookup (k : κ) : List (κ × ν) → Option ν
  | [] => none
  | (k', v) :: es => if k' = k then some v else lookup k es

/-- The bindings after an assignment to `k`. -/
def upsert (k : κ) (v : ν) : List (κ × ν) → List (κ × ν)
  | [] => [(k, v)]
  | (k', v') :: es => if k' = k then (k, v) :: es else (k', v') :: upsert k v es

attribute [local simp] lookup upsert

/-- `d.get(k)`. -/
def get? (d : Dict κ ν) (k : κ) : Option ν := lookup k d.entries

/-- `k in d`. -/
def contains (d : Dict κ ν) (k : κ) : Bool := (d.get? k).isSome

lemma upsert_keys (k : κ) (v : ν) (es : List (κ × ν)) :
    (upsert k v es).map Prod.fst =
      if k ∈ es.map Prod.fst then es.map Prod.fst else es.map Prod.fst ++ [k] := by
  induction es with
  | nil => simp [upsert]
  | cons e es ih =>
    obtain ⟨k', v'⟩ := e
    by_cases h : k' = k
    · simp [upsert, h]
    · simp only [upsert, h, if_false, List.map_cons, ih, List.mem_cons, Ne.symm h, false_or]
      split <;> simp

/-- `d[k] = v`. -/
def set (d : Dict κ ν) (k : κ) (v : ν) : Dict κ ν :=
  ⟨upsert k v d.entries, by
    rw [upsert_keys]
    split
    · exact d.nodup
    · rename_i h
      exact List.Nodup.append d.nodup (List.nodup_singleton k) (by simpa using h)⟩

/-- `d.pop(k, None)`, the dictionary that is left. -/
def pop (d : Dict κ ν) (k : κ) : Dict κ ν :=
  ⟨d.entries.filter (fun e => e.1 ≠ k), d.nodup.sublist (List.filter_sublist.map Prod.fst)⟩

def map (d : Dict κ ν) (f : κ → ν → ν) : Dict κ ν :=
  ⟨d.entries.map fun e => (e.1, f e.1 e.2), by simpa [Function.comp_def] using d.nodup⟩

/-- The bindings with a value that `p` allows. -/
def filter (d : Dict κ ν) (p : ν → Bool) : Dict κ ν :=
  ⟨d.entries.filter (fun e => p e.2), d.nodup.sublist (List.filter_sublist.map Prod.fst)⟩

/-- The bindings under new keys, as far as they have any. -/
def reKey {κ' : Type} (d : Dict κ ν) (f : κ → Option κ') (inj : ∀ k k' j, f k = some j → f k' = some j → k = k') :
    Dict κ' ν :=
  ⟨d.entries.filterMap fun e => (f e.1).map (·, e.2), by
    have keys : (d.entries.filterMap fun e => (f e.1).map (·, e.2)).map Prod.fst = d.keys.filterMap f := by
      simp [Dict.keys, List.map_filterMap, List.filterMap_map, Function.comp_def]
    rw [keys]
    exact d.nodup.filterMap fun k k' j h h' => inj k k' j h h'⟩

/-! ## Lookup -/

lemma lookup_eq_none {k : κ} {es : List (κ × ν)} :
    lookup k es = none ↔ k ∉ es.map Prod.fst := by
  induction es with
  | nil => simp [lookup]
  | cons e es ih =>
    obtain ⟨k', v'⟩ := e
    by_cases h : k' = k
    · simp [lookup, h]
    · simp [lookup, h, ih, Ne.symm h]

lemma lookup_upsert (k k' : κ) (v : ν) (es : List (κ × ν)) :
    lookup k' (upsert k v es) = if k = k' then some v else lookup k' es := by
  induction es with
  | nil => simp [upsert, lookup]
  | cons e es ih =>
    obtain ⟨k0, v0⟩ := e
    by_cases h : k0 = k
    · subst h
      by_cases h' : k0 = k' <;> simp [upsert, lookup, h']
    · by_cases h' : k0 = k'
      · subst h'
        simp [upsert, lookup, h, Ne.symm h]
      · simp [upsert, lookup, h, h', ih]

lemma lookup_filter_ne (k k' : κ) (es : List (κ × ν)) :
    lookup k' (es.filter (fun e => e.1 ≠ k)) = if k = k' then none else lookup k' es := by
  induction es with
  | nil => simp [lookup]
  | cons e es ih =>
    obtain ⟨k0, v0⟩ := e
    by_cases h : k0 = k
    · subst h
      by_cases h' : k0 = k' <;> simp_all [lookup]
    · by_cases h' : k0 = k'
      · subst h'
        simp [lookup, h, Ne.symm h]
      · simp_all [lookup]

lemma mem_of_lookup {k : κ} {v : ν} {es : List (κ × ν)} (h : lookup k es = some v) :
    (k, v) ∈ es := by
  induction es with
  | nil => cases h
  | cons e es ih =>
    obtain ⟨k', v'⟩ := e
    by_cases hk : k' = k
    · simp only [lookup, hk, if_true, Option.some.injEq] at h
      simp [hk, h]
    · simp only [lookup, hk, if_false] at h
      exact List.mem_cons_of_mem _ (ih h)

lemma lookup_of_mem {k : κ} {v : ν} {es : List (κ × ν)} (nd : (es.map Prod.fst).Nodup)
    (h : (k, v) ∈ es) : lookup k es = some v := by
  induction es with
  | nil => cases h
  | cons e es ih =>
    obtain ⟨k', v'⟩ := e
    simp only [List.map_cons, List.nodup_cons] at nd
    rcases List.mem_cons.1 h with e | h
    · cases e
      simp [lookup]
    · have hk : k' ≠ k := by
        rintro rfl
        exact nd.1 (List.mem_map_of_mem (f := Prod.fst) h)
      simp [lookup, hk, ih nd.2 h]

lemma mem_entries_iff {d : Dict κ ν} {k : κ} {v : ν} :
    (k, v) ∈ d.entries ↔ d.get? k = some v :=
  ⟨lookup_of_mem d.nodup, mem_of_lookup⟩

lemma get?_eq_none {d : Dict κ ν} {k : κ} : d.get? k = none ↔ k ∉ d.keys := lookup_eq_none

lemma mem_keys_iff {d : Dict κ ν} {k : κ} : k ∈ d.keys ↔ ∃ v, d.get? k = some v := by
  rw [← Option.ne_none_iff_exists', ne_eq, get?_eq_none, not_not]

lemma mem_values_iff {d : Dict κ ν} {v : ν} : v ∈ d.values ↔ ∃ k, d.get? k = some v := by
  simp only [values, List.mem_map, Prod.exists, exists_eq_right, mem_entries_iff]

lemma contains_iff {d : Dict κ ν} {k : κ} : d.contains k = true ↔ k ∈ d.keys := by
  rw [contains, Option.isSome_iff_exists, mem_keys_iff]

lemma get?_of_entries {d : Dict κ ν} (h : d.entries = []) (k : κ) : d.get? k = none := by
  rw [get?, h, lookup]

@[simp] lemma get?_empty (k : κ) : (∅ : Dict κ ν).get? k = none := rfl

@[simp] lemma get?_set (d : Dict κ ν) (k k' : κ) (v : ν) :
    (d.set k v).get? k' = if k = k' then some v else d.get? k' := lookup_upsert k k' v d.entries

@[simp] lemma get?_pop (d : Dict κ ν) (k k' : κ) :
    (d.pop k).get? k' = if k = k' then none else d.get? k' := lookup_filter_ne k k' d.entries

@[simp] lemma get?_map (d : Dict κ ν) (f : κ → ν → ν) (k : κ) : (d.map f).get? k = (d.get? k).map (f k) := by
  obtain ⟨es, nd⟩ := d
  simp only [get?, map]
  clear nd
  induction es with
  | nil => rfl
  | cons e es ih =>
    obtain ⟨k', v⟩ := e
    by_cases h : k' = k
    · simp [lookup, h]
    · simp [lookup, h, ih]

@[simp] lemma get?_filter (d : Dict κ ν) (p : ν → Bool) (k : κ) : (d.filter p).get? k = (d.get? k).filter p := by
  obtain ⟨es, nd⟩ := d
  simp only [get?, filter]
  induction es with
  | nil => rfl
  | cons e es ih =>
    obtain ⟨k', v⟩ := e
    rw [List.map_cons, List.nodup_cons] at nd
    by_cases h : k' = k
    · subst h
      by_cases keep : p v = true
      · simp [lookup, keep, Option.filter]
      · simp [lookup, keep, ih nd.2, lookup_eq_none.2 nd.1, Option.filter]
    · by_cases keep : p v = true <;> simp [lookup, h, keep, ih nd.2]

lemma get?_reKey {κ' : Type} [DecidableEq κ'] {d : Dict κ ν} {f : κ → Option κ'}
    {inj : ∀ k k' j, f k = some j → f k' = some j → k = k'} {j : κ'} {v : ν} :
    (d.reKey f inj).get? j = some v ↔ ∃ k, f k = some j ∧ d.get? k = some v := by
  simp only [← mem_entries_iff, reKey, List.mem_filterMap, Option.map_eq_some_iff, Prod.mk.injEq, Prod.exists]
  constructor
  · rintro ⟨k, _, bound, _, is, rfl, rfl⟩
    exact ⟨k, is, bound⟩
  · rintro ⟨k, is, bound⟩
    exact ⟨k, v, bound, j, is, rfl, rfl⟩

omit [DecidableEq κ] in
@[simp] lemma keys_map (d : Dict κ ν) (f : κ → ν → ν) : (d.map f).keys = d.keys := by
  simp [keys, map, Function.comp_def]

@[simp] lemma mem_keys_set {d : Dict κ ν} {k k' : κ} {v : ν} :
    k' ∈ (d.set k v).keys ↔ k' = k ∨ k' ∈ d.keys := by
  simp only [mem_keys_iff, get?_set]
  by_cases h : k = k' <;> simp [h, eq_comm]

@[simp] lemma mem_keys_pop {d : Dict κ ν} {k k' : κ} :
    k' ∈ (d.pop k).keys ↔ k' ≠ k ∧ k' ∈ d.keys := by
  simp only [mem_keys_iff, get?_pop]
  by_cases h : k = k' <;> simp [h, eq_comm]

lemma get?_foldl_set (f : κ → ν → ν) (es : List (κ × ν)) (nd : (es.map Prod.fst).Nodup) (d : Dict κ ν)
    (k : κ) : (es.foldl (fun d e => d.set e.1 (f e.1 e.2)) d).get? k =
      ((lookup k es).map (f k)).or (d.get? k) := by
  induction es generalizing d with
  | nil => rfl
  | cons e es ih =>
    obtain ⟨k', v⟩ := e
    simp only [List.map_cons, List.nodup_cons] at nd
    rw [List.foldl_cons, ih nd.2, get?_set, lookup]
    by_cases h : k' = k
    · subst h
      rw [lookup_eq_none.2 nd.1]
      simp
    · simp [h]

/-- `d.update(d')`. -/
def update (d d' : Dict κ ν) : Dict κ ν := d'.entries.foldl (fun d e => d.set e.1 e.2) d

@[simp] lemma get?_update (d d' : Dict κ ν) (k : κ) : (d.update d').get? k = (d'.get? k).or (d.get? k) := by
  have assigned := get?_foldl_set (fun _ v => v) d'.entries d'.nodup d k
  rw [update, assigned, Option.map_id']
  rfl

lemma keys_set_of_mem {d : Dict κ ν} {k : κ} {v : ν} (h : k ∈ d.keys) : (d.set k v).keys = d.keys := by
  rw [keys, set, upsert_keys]
  exact if_pos h

/-! ## Bindings up to order -/

lemma upsert_of_not_mem {k : κ} {v : ν} {es : List (κ × ν)} (h : k ∉ es.map Prod.fst) :
    upsert k v es = es ++ [(k, v)] := by
  induction es with
  | nil => rfl
  | cons e es ih =>
    obtain ⟨k', v'⟩ := e
    simp only [List.map_cons, List.mem_cons, not_or] at h
    simp [upsert, Ne.symm h.1, ih h.2]

lemma filter_ne_of_not_mem {k : κ} {es : List (κ × ν)} (h : k ∉ es.map Prod.fst) :
    es.filter (fun e => e.1 ≠ k) = es := by
  rw [List.filter_eq_self]
  rintro ⟨k', v'⟩ hm
  simp only [ne_eq, decide_eq_true_eq]
  rintro rfl
  exact h (List.mem_map_of_mem (f := Prod.fst) hm)

lemma entries_set_of_not_mem {d : Dict κ ν} {k : κ} {v : ν} (h : k ∉ d.keys) :
    (d.set k v).entries = d.entries ++ [(k, v)] := upsert_of_not_mem h

lemma entries_set_perm (d : Dict κ ν) (k : κ) (v : ν) :
    (d.set k v).entries.Perm ((k, v) :: (d.pop k).entries) := by
  obtain ⟨es, nd⟩ := d
  simp only [set, pop]
  induction es with
  | nil => exact .refl _
  | cons e es ih =>
    obtain ⟨k', v'⟩ := e
    simp only [List.map_cons, List.nodup_cons] at nd
    by_cases h : k' = k
    · subst h
      have rest : es.filter (fun e => e.1 ≠ k') = es := filter_ne_of_not_mem nd.1
      rw [List.filter_cons_of_neg (by simp), rest, upsert, if_pos rfl]
    · rw [List.filter_cons_of_pos (by simpa using h), upsert, if_neg h]
      exact ((ih nd.2).cons _).trans (List.Perm.swap _ _ _)

lemma set_set (d : Dict κ ν) (k : κ) (v v' : ν) : (d.set k v).set k v' = d.set k v' := by
  obtain ⟨es, nd⟩ := d
  simp only [set, mk.injEq]
  clear nd
  induction es with
  | nil => simp
  | cons e es ih =>
    obtain ⟨k', v''⟩ := e
    by_cases hk : k' = k
    · simp [hk]
    · simp [hk, ih]

lemma set_of_get? {d : Dict κ ν} {k : κ} {v : ν} (h : d.get? k = some v) : d.set k v = d := by
  obtain ⟨es, nd⟩ := d
  simp only [get?] at h
  simp only [set, mk.injEq]
  clear nd
  induction es with
  | nil => cases h
  | cons e es ih =>
    obtain ⟨k', v'⟩ := e
    by_cases hk : k' = k
    · subst hk
      simp only [lookup, if_true, Option.some.injEq] at h
      rw [upsert, if_pos rfl, h]
    · simp only [lookup, hk, if_false] at h
      rw [upsert, if_neg hk, ih h]

lemma filterMap_keys (d : Dict κ ν) : d.keys.filterMap d.get? = d.values := by
  rw [keys, values, List.filterMap_map, ← List.filterMap_eq_map]
  apply List.filterMap_congr
  intro e within
  exact mem_entries_iff.1 within

lemma ext_get? {d d' : Dict κ ν} (keys : d.keys = d'.keys) (lookups : ∀ k, d.get? k = d'.get? k) : d = d' := by
  have values : d.values = d'.values := by
    rw [← d.filterMap_keys, ← d'.filterMap_keys, keys]
    exact List.filterMap_congr fun k _ => lookups k
  obtain ⟨es, nd⟩ := d
  obtain ⟨es', nd'⟩ := d'
  have entries : es = es' := by
    rw [← List.zip_unzip es, ← List.zip_unzip es', List.unzip_eq_map, List.unzip_eq_map]
    exact congrArg₂ List.zip keys values
  subst entries
  rfl

lemma pop_of_not_mem {d : Dict κ ν} {k : κ} (h : k ∉ d.keys) : d.pop k = d := by
  obtain ⟨es, nd⟩ := d
  simp only [pop, mk.injEq]
  exact filter_ne_of_not_mem h

lemma entries_perm_pop {d : Dict κ ν} {k : κ} {v : ν} (h : d.get? k = some v) :
    d.entries.Perm ((k, v) :: (d.pop k).entries) := by
  obtain ⟨es, nd⟩ := d
  simp only [get?, pop] at h ⊢
  induction es with
  | nil => cases h
  | cons e es ih =>
    obtain ⟨k', v'⟩ := e
    simp only [List.map_cons, List.nodup_cons] at nd
    by_cases hk : k' = k
    · subst hk
      simp only [lookup, if_true, Option.some.injEq] at h
      subst h
      have rest : es.filter (fun e => e.1 ≠ k') = es := filter_ne_of_not_mem nd.1
      rw [List.filter_cons_of_neg (by simp), rest]
    · simp only [lookup, hk, if_false] at h
      rw [List.filter_cons_of_pos (by simpa using hk)]
      exact ((ih nd.2 h).cons _).trans (List.Perm.swap _ _ _)

end Dict

end Lib
