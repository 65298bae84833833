/-
  Galoy.Lib.Dict

  A plain object used as a dictionary, `{ [key: K]: V }`: its own properties in
  insertion order, each key once.  `d[k]` is `get?` (`undefined` is `none`),
  `d[k] = v` is `set` (a present key keeps its place and takes the new value, a
  new key goes last), and `Object.keys(d)` is `keys`.

  What a loop that accumulates into such an object needs: how `get?` and `keys`
  read a `set`, the value a key ends with after a fold of `modify`s (it depends
  only on the items of that key, in order), and regrouping a sum by key
  (`List.sum_map_sum_filter`), which turns per-key totals back into a total over
  the items.
-/

import Mathlib.Algebra.BigOperators.Group.List.Basic
import Mathlib.Data.List.Dedup

/-- An object with distinct keys, in insertion order. -/
structure Dict (K V : Type) where
  entries : List (K × V)
  nodup : (entries.map Prod.fst).Nodup

namespace Dict

variable {K V : Type}

/-- `{}`. -/
def empty : Dict K V := ⟨[], List.nodup_nil⟩

/-- `{ [k]: v }`. -/
def singleton (k : K) (v : V) : Dict K V := ⟨[(k, v)], List.nodup_singleton k⟩

/-- `Object.keys(d)`. -/
def keys (d : Dict K V) : List K := d.entries.map Prod.fst

@[simp] theorem keys_empty : (empty : Dict K V).keys = [] := rfl

theorem keys_nodup (d : Dict K V) : d.keys.Nodup := d.nodup

/-- Writing `v` over the entry of `k` keeps every key where it was. -/
theorem map_fst_overwrite [DecidableEq K] (entries : List (K × V)) (k : K) (v : V) :
    (entries.map fun e => if e.1 = k then (k, v) else e).map Prod.fst =
      entries.map Prod.fst := by
  rw [List.map_map]
  refine List.map_congr_left fun e _ => ?_
  by_cases h : e.1 = k
  · simp [h]
  · simp [h]

theorem nodup_append_new {keys : List K} {k : K} (hNodup : keys.Nodup) (hk : k ∉ keys) :
    (keys ++ [k]).Nodup :=
  hNodup.append (List.nodup_singleton k) (by simpa using hk)

variable [DecidableEq K]

/-- `d[k]`. -/
def get? (d : Dict K V) (k : K) : Option V := (d.entries.find? (·.1 = k)).map Prod.snd

/-- `d[k] = v`. -/
def set (d : Dict K V) (k : K) (v : V) : Dict K V :=
  if hk : k ∈ d.keys then
    ⟨d.entries.map fun e => if e.1 = k then (k, v) else e,
      (map_fst_overwrite d.entries k v).symm ▸ d.nodup⟩
  else
    ⟨d.entries ++ [(k, v)], by simpa using nodup_append_new d.nodup hk⟩

/-- `d[k] = f(d[k])`: the new value of `k` computed from its current one. -/
def modify (d : Dict K V) (k : K) (f : Option V → V) : Dict K V := d.set k (f (d.get? k))

@[simp] theorem get?_empty (k : K) : (empty : Dict K V).get? k = none := rfl

/-- A key reads `v` exactly when `(k, v)` is an entry: the keys are distinct. -/
theorem get?_eq_some_iff {d : Dict K V} {k : K} {v : V} :
    d.get? k = some v ↔ (k, v) ∈ d.entries := by
  constructor
  · intro h
    obtain ⟨e, hFind, rfl⟩ := Option.map_eq_some_iff.mp h
    have hKey : e.1 = k := by simpa using List.find?_some hFind
    subst hKey
    exact List.mem_of_find?_eq_some hFind
  · intro h
    rcases hFind : d.entries.find? (·.1 = k) with _ | e
    · rw [List.find?_eq_none] at hFind
      simpa using hFind _ h
    · have hKey : e.1 = k := by simpa using List.find?_some hFind
      have hEq : e = (k, v) :=
        List.inj_on_of_nodup_map d.nodup (List.mem_of_find?_eq_some hFind) h hKey
      simp [get?, hFind, hEq]

/-- The value an entry holds is what its key reads. -/
theorem get?_of_mem {d : Dict K V} {e : K × V} (he : e ∈ d.entries) : d.get? e.1 = some e.2 :=
  get?_eq_some_iff.mpr he

/-- What `d[k] = v` holds: `(k, v)`, and every entry of another key. -/
theorem mem_entries_set {d : Dict K V} {k : K} {v : V} {e : K × V} :
    e ∈ (d.set k v).entries ↔ e = (k, v) ∨ (e ∈ d.entries ∧ e.1 ≠ k) := by
  unfold set
  split
  · -- overwriting in place
    rename_i hk
    simp only [List.mem_map]
    constructor
    · rintro ⟨e0, he0, rfl⟩
      by_cases h : e0.1 = k
      · simp [h]
      · simp [h, he0]
    · rintro (rfl | ⟨he, hKey⟩)
      · obtain ⟨e0, he0, hKey0⟩ := List.mem_map.mp hk
        exact ⟨e0, he0, by simp [hKey0]⟩
      · exact ⟨e, he, by simp [hKey]⟩
  · -- a new key goes last; no old entry has it
    rename_i hk
    simp only [List.mem_append, List.mem_singleton]
    constructor
    · rintro (he | rfl)
      · exact Or.inr ⟨he, fun hKey => hk (hKey ▸ List.mem_map_of_mem he)⟩
      · exact Or.inl rfl
    · rintro (rfl | ⟨he, -⟩)
      · exact Or.inr rfl
      · exact Or.inl he

theorem keys_set (d : Dict K V) (k : K) (v : V) :
    (d.set k v).keys = if k ∈ d.keys then d.keys else d.keys ++ [k] := by
  unfold set keys
  split
  · simp only [map_fst_overwrite]
  · simp

theorem mem_keys_set (d : Dict K V) (k j : K) (v : V) :
    j ∈ (d.set k v).keys ↔ j = k ∨ j ∈ d.keys := by
  rw [keys_set]
  split
  · rename_i hk
    constructor
    · exact Or.inr
    · rintro (rfl | hj)
      · exact hk
      · exact hj
  · simp [or_comm]

/-- `d[k] = v` then `d[j]`: the new value at `k`, the old one elsewhere. -/
@[simp] theorem get?_set (d : Dict K V) (k j : K) (v : V) :
    (d.set k v).get? j = if j = k then some v else d.get? j := by
  refine Option.ext fun w => ?_
  rw [get?_eq_some_iff, mem_entries_set]
  by_cases hj : j = k
  · subst hj
    simp [eq_comm]
  · simp [hj, get?_eq_some_iff]

@[simp] theorem get?_modify (d : Dict K V) (k j : K) (f : Option V → V) :
    (d.modify k f).get? j = if j = k then some (f (d.get? k)) else d.get? j :=
  get?_set d k j _

theorem mem_keys_modify (d : Dict K V) (k j : K) (f : Option V → V) :
    j ∈ (d.modify k f).keys ↔ j = k ∨ j ∈ d.keys :=
  mem_keys_set d k j _

section Fold

variable {ι : Type} (key : ι → K) (f : ι → Option V → V)

/-- After a loop that runs `d[key i] = f i (d[key i])` for each item, a key's value
    is its old value updated by the items of that key, in order. -/
theorem get?_foldl_modify (items : List ι) (d : Dict K V) (k : K) :
    (items.foldl (fun d i => d.modify (key i) (f i)) d).get? k =
      (items.filter (key · = k)).foldl (fun v i => some (f i v)) (d.get? k) := by
  -- the fold is on the items, with the dictionary generalised
  induction items generalizing d with
  | nil => rfl
  | cons i rest ih =>
    rw [List.foldl_cons, ih, get?_modify, List.filter_cons]
    by_cases hKey : key i = k
    · subst hKey
      simp
    · simp [hKey, Ne.symm hKey]

theorem mem_keys_foldl_modify (items : List ι) (d : Dict K V) (k : K) :
    k ∈ (items.foldl (fun d i => d.modify (key i) (f i)) d).keys ↔
      k ∈ d.keys ∨ ∃ i ∈ items, key i = k := by
  induction items generalizing d with
  | nil => simp
  | cons i rest ih =>
    rw [List.foldl_cons, ih, mem_keys_modify]
    constructor
    · rintro ((rfl | hk) | ⟨j, hj, rfl⟩)
      · exact Or.inr ⟨i, List.mem_cons_self, rfl⟩
      · exact Or.inl hk
      · exact Or.inr ⟨j, List.mem_cons_of_mem i hj, rfl⟩
    · rintro (hk | ⟨j, hj, rfl⟩)
      · exact Or.inl (Or.inr hk)
      · rcases List.mem_cons.mp hj with rfl | hj
        · exact Or.inl (Or.inl rfl)
        · exact Or.inr ⟨j, hj, rfl⟩

/-- A fold that overwrites its value with each item's ends with the last one's, so
    with `v` when every item gives `v`. -/
theorem foldl_overwrite (val : ι → V) {items : List ι} {v : V} (hItems : items ≠ [])
    (hVal : ∀ i ∈ items, val i = v) (o : Option V) :
    items.foldl (fun _ i => some (val i)) o = some v := by
  induction items generalizing o with
  | nil => exact absurd rfl hItems
  | cons i rest ih =>
    rw [List.foldl_cons]
    by_cases hRest : rest = []
    · rw [hRest, List.foldl_nil, hVal i List.mem_cons_self]
    · exact ih hRest (fun j hj => hVal j (List.mem_cons_of_mem i hj)) _

theorem mem_keys_foldl_set (val : ι → V) (items : List ι) (d : Dict K V) (k : K) :
    k ∈ (items.foldl (fun d i => d.set (key i) (val i)) d).keys ↔
      k ∈ d.keys ∨ ∃ i ∈ items, key i = k :=
  mem_keys_foldl_modify key (fun i _ => val i) items d k

/-- After a loop of `d[key i] = val i`, a key that some item writes, and every item
    of it writes with `v`, reads `v`. -/
theorem get?_foldl_set (val : ι → V) {items : List ι} {k : K} {v : V}
    (hMem : ∃ i ∈ items, key i = k) (hVal : ∀ i ∈ items, key i = k → val i = v)
    (d : Dict K V) :
    (items.foldl (fun d i => d.set (key i) (val i)) d).get? k = some v := by
  have hItems : items.filter (key · = k) ≠ [] := by
    obtain ⟨i, hi, hKey⟩ := hMem
    exact List.ne_nil_of_mem (List.mem_filter.mpr ⟨hi, by simpa using hKey⟩)
  rw [show (fun d i => d.set (key i) (val i)) = fun (d : Dict K V) i => d.modify (key i)
      (fun _ => val i) from rfl, get?_foldl_modify]
  refine foldl_overwrite val hItems (fun i hi => ?_) _
  obtain ⟨hi, hKey⟩ := List.mem_filter.mp hi
  exact hVal i hi (by simpa using hKey)

end Fold

end Dict

-- ============================================================================
-- Regrouping a sum by key
-- ============================================================================

namespace List

variable {ι κ M : Type} [DecidableEq κ] [AddCommMonoid M]

/-- Over a duplicate-free list of keys that holds every item's key, summing each
    key's items and then the keys gives the sum over the items. -/
theorem sum_map_sum_filter {keys : List κ} (hNodup : keys.Nodup) (key : ι → κ) (val : ι → M)
    {items : List ι} (hKeys : ∀ i ∈ items, key i ∈ keys) :
    (keys.map fun k => ((items.filter (key · = k)).map val).sum).sum = (items.map val).sum := by
  induction items with
  | nil => simp
  | cons i rest ih =>
    -- the head item lands in exactly one key's group
    have hStep : ∀ k, (((i :: rest).filter (key · = k)).map val).sum =
        (if key i = k then val i else 0) + ((rest.filter (key · = k)).map val).sum := by
      intro k
      by_cases h : key i = k
      · simp [h]
      · simp [h]
    have hOnce : (keys.map fun k => if key i = k then val i else 0).sum = val i := by
      rw [List.sum_map_eq_nsmul_single (key i) (fun k => if key i = k then val i else 0)
          fun k hk _ => by simp [Ne.symm hk],
        List.count_eq_one_of_mem hNodup (hKeys i List.mem_cons_self), if_pos rfl, one_nsmul]
    have hSplit : (keys.map fun k => (((i :: rest).filter (key · = k)).map val).sum) =
        keys.map fun k =>
          (if key i = k then val i else 0) + ((rest.filter (key · = k)).map val).sum :=
      List.map_congr_left fun k _ => hStep k
    rw [hSplit, List.sum_map_add, hOnce,
      ih fun j hj => hKeys j (List.mem_cons_of_mem i hj), List.map_cons, List.sum_cons]

end List
