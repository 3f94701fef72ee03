import Mathlib.Data.List.Dedup
import Mathlib.Data.List.Nodup
import Mathlib.Data.List.Perm.Subperm
/-!
# Insertion-ordered dictionaries

A Python `dict`: a list of items with pairwise different keys, kept in the order in which the keys were first
written. A dictionary filled by `set` alone is described by the last write of each key, one filled by
`setDefault` by the first.
-/

namespace Python

/-- A dictionary. The keys are pairwise different. -/
structure Dict (κ α : Type) where
  items : List (κ × α)
  nodup : (items.map Prod.fst).Nodup

namespace Dict

variable {κ α : Type}

def empty : Dict κ α := ⟨[], List.nodup_nil⟩

variable (d : Dict κ α)

def keys : List κ := d.items.map Prod.fst

def values : List α := d.items.map Prod.snd

variable [DecidableEq κ]

variable (k : κ)

/-- `d.get(k)`. -/
def get? : Option α := d.items.lookup k

def setItem (k : κ) (v : α) : List (κ × α) → List (κ × α)
  | [] => [(k, v)]
  | (k', v') :: rest => if k' = k then (k, v) :: rest else (k', v') :: setItem k v rest

variable (v : α)

theorem map_fst_setItem (items : List (κ × α)) :
    (setItem k v items).map Prod.fst
      = if k ∈ items.map Prod.fst then items.map Prod.fst else items.map Prod.fst ++ [k] := by
  induction items with
  | nil => simp [setItem]
  | cons item rest ih =>
    obtain ⟨k', v'⟩ := item
    by_cases hk : k' = k
    · simp [setItem, hk]
    · have hk' : ¬ k = k' := fun h => hk h.symm
      simp only [setItem, if_neg hk, List.map_cons, List.mem_cons, hk', false_or, ih]
      split_ifs <;> simp

private theorem nodup_setItem {items : List (κ × α)}
    (h : (items.map Prod.fst).Nodup) : ((setItem k v items).map Prod.fst).Nodup := by
  rw [map_fst_setItem]
  split_ifs with hmem
  · exact h
  · exact List.Nodup.append h (List.nodup_singleton k) (by simpa using hmem)

/-- `d[k] = v`. -/
def set : Dict κ α := ⟨setItem k v d.items, nodup_setItem k v d.nodup⟩

/-- `if k not in d: d[k] = v`. -/
def setDefault : Dict κ α :=
  if k ∈ d.keys then d else d.set k v

theorem keys_set :
    (d.set k v).keys = if k ∈ d.keys then d.keys else d.keys ++ [k] := map_fst_setItem k v d.items

@[simp] theorem mem_keys_set (k k' : κ) (v : α) :
    k' ∈ (d.set k v).keys ↔ k' = k ∨ k' ∈ d.keys := by
  rw [keys_set]
  split_ifs with hmem
  · constructor
    · exact Or.inr
    · rintro (rfl | h)
      · exact hmem
      · exact h
  · simp [or_comm]

private theorem setItem_of_not_mem {items : List (κ × α)}
    (h : k ∉ items.map Prod.fst) : setItem k v items = items ++ [(k, v)] := by
  induction items with
  | nil => rfl
  | cons item rest ih =>
    obtain ⟨k', v'⟩ := item
    simp only [List.map_cons, List.mem_cons, not_or] at h
    have hk : ¬ k' = k := fun he => h.1 he.symm
    rw [setItem, if_neg hk, ih h.2, List.cons_append]

theorem items_set_of_not_mem (h : k ∉ d.keys) :
    (d.set k v).items = d.items ++ [(k, v)] := setItem_of_not_mem k v h

theorem items_setDefault :
    (d.setDefault k v).items = if k ∈ d.keys then d.items else d.items ++ [(k, v)] := by
  unfold setDefault
  split_ifs with hmem
  · rfl
  · exact items_set_of_not_mem d k v hmem

theorem lookup_cons_eq_ite (k k' : κ) (v : α) (items : List (κ × α)) :
    ((k, v) :: items).lookup k' = if k' = k then some v else items.lookup k' := by
  by_cases hk : k' = k
  · simp [hk]
  · have hbeq : (k' == k) = false := by simpa using hk
    simp [List.lookup_cons, hbeq, hk]

theorem mem_items_iff_get? : (k, v) ∈ d.items ↔ d.get? k = some v := by
  obtain ⟨items, hnodup⟩ := d
  change (k, v) ∈ items ↔ items.lookup k = some v
  induction items with
  | nil => simp
  | cons item rest ih =>
    obtain ⟨k', v'⟩ := item
    simp only [List.map_cons, List.nodup_cons] at hnodup
    rw [lookup_cons_eq_ite, List.mem_cons, Prod.mk.injEq]
    by_cases hk : k = k'
    · have habsent : (k, v) ∉ rest := fun h => hnodup.1 (List.mem_map.2 ⟨(k, v), h, hk⟩)
      simp [hk ▸ habsent, hk, eq_comm]
    · simp [hk, ih hnodup.2]

private theorem lookup_setItem (k k' : κ) (v : α) (items : List (κ × α)) :
    (setItem k v items).lookup k' = if k' = k then some v else items.lookup k' := by
  induction items with
  | nil => exact lookup_cons_eq_ite k k' v []
  | cons item rest ih =>
    obtain ⟨key, value⟩ := item
    rw [setItem, lookup_cons_eq_ite]
    by_cases hkey : key = k
    · rw [if_pos hkey, lookup_cons_eq_ite, hkey]
      split_ifs <;> rfl
    · rw [if_neg hkey, lookup_cons_eq_ite, ih]
      by_cases hk : k' = key
      · rw [if_pos hk, if_neg (hk ▸ hkey), if_pos hk]
      · rw [if_neg hk, if_neg hk]

@[simp] theorem get?_set (k k' : κ) (v : α) :
    (d.set k v).get? k' = if k' = k then some v else d.get? k' := lookup_setItem k k' v d.items

theorem get?_isSome_iff : (∃ v, d.get? k = some v) ↔ k ∈ d.keys := by
  simp only [← mem_items_iff_get?, keys, List.mem_map, Prod.exists, exists_and_right, exists_eq_right]

/-- `del d[k]`. -/
def erase : Dict κ α := ⟨d.items.filter fun item => item.1 ≠ k, d.nodup.sublist (List.filter_sublist.map Prod.fst)⟩

@[simp] theorem get?_erase (k k' : κ) : (d.erase k).get? k' = if k' = k then none else d.get? k' := by
  by_cases hk : k' = k
  · rw [if_pos hk, Option.eq_none_iff_forall_not_mem]
    intro v hv
    have hmem := (mem_items_iff_get? (d.erase k) k' v).2 hv
    simp [erase, hk] at hmem
  · rw [if_neg hk]
    ext v
    rw [← mem_items_iff_get?, ← mem_items_iff_get?]
    simp [erase, hk]

/-! ### A dictionary filled by writes -/

def ofWrites (writes : List (κ × α)) : Dict κ α :=
  writes.foldl (fun d w => d.set w.1 w.2) empty

theorem mem_keys_foldl_set (writes : List (κ × α)) (k : κ) :
    k ∈ (writes.foldl (fun d w => d.set w.1 w.2) d).keys ↔ k ∈ d.keys ∨ k ∈ writes.map Prod.fst := by
  induction writes generalizing d with
  | nil => simp
  | cons w rest ih =>
    rw [List.foldl_cons, ih, mem_keys_set, List.map_cons, List.mem_cons]
    tauto

@[simp] theorem mem_keys_ofWrites (writes : List (κ × α)) (k : κ) :
    k ∈ (ofWrites writes).keys ↔ k ∈ writes.map Prod.fst := by
  rw [ofWrites, mem_keys_foldl_set]
  simp [empty, keys]

private theorem items_foldl_set_of_nodup (writes : List (κ × α)) (h : (d.keys ++ writes.map Prod.fst).Nodup) :
    (writes.foldl (fun d w => d.set w.1 w.2) d).items = d.items ++ writes := by
  induction writes generalizing d with
  | nil => simp
  | cons w rest ih =>
    have hfresh : w.1 ∉ d.keys := by
      intro hmem
      exact (List.nodup_append.1 h).2.2 _ hmem _ (by simp) rfl
    have hkeys : (d.set w.1 w.2).keys = d.keys ++ [w.1] := by rw [keys_set, if_neg hfresh]
    rw [List.foldl_cons, ih, items_set_of_not_mem d _ _ hfresh]
    · simp
    · rw [hkeys]
      simpa using h

theorem mem_of_get?_foldl_set {d : Dict κ α} {writes : List (κ × α)} {k : κ} {v : α}
    (h : (writes.foldl (fun d w => d.set w.1 w.2) d).get? k = some v) :
    (k, v) ∈ writes ∨ d.get? k = some v := by
  induction writes generalizing d with
  | nil => exact .inr h
  | cons w rest ih =>
    rcases ih h with hrest | hset
    · exact .inl (List.mem_cons_of_mem w hrest)
    · rw [get?_set] at hset
      split_ifs at hset with hk
      · obtain rfl := Option.some.inj hset
        exact .inl (hk ▸ List.mem_cons_self)
      · exact .inr hset

theorem mem_of_get?_ofWrites {writes : List (κ × α)} {k : κ} {v : α} (h : (ofWrites writes).get? k = some v) :
    (k, v) ∈ writes := by
  rcases mem_of_get?_foldl_set h with hmem | hempty
  · exact hmem
  · cases hempty

theorem get?_foldl_set_of_not_mem {writes : List (κ × α)} {k : κ} (h : k ∉ writes.map Prod.fst) :
    (writes.foldl (fun d w => d.set w.1 w.2) d).get? k = d.get? k := by
  induction writes generalizing d with
  | nil => rfl
  | cons w rest ih =>
    simp only [List.map_cons, List.mem_cons, not_or] at h
    rw [List.foldl_cons, ih (d.set w.1 w.2) h.2, get?_set, if_neg h.1]

theorem items_ofWrites_of_nodup {writes : List (κ × α)} (h : (writes.map Prod.fst).Nodup) :
    (ofWrites writes).items = writes := by
  rw [ofWrites, items_foldl_set_of_nodup]
  · rfl
  · simpa [empty, keys] using h

/-- Every write has a key of its own that still holds what it wrote. -/
def HoldsEach (written : List α) : Prop :=
  ∃ ks : List κ, ks.Nodup ∧ List.Forall₂ (fun k v => d.get? k = some v) ks written

/-- The writes all survive, each under a key of its own, exactly when their keys are pairwise
different. -/
theorem holdsEach_ofWrites_iff (writes : List (κ × α)) :
    (ofWrites writes).HoldsEach (writes.map Prod.snd) ↔ (writes.map Prod.fst).Nodup := by
  constructor
  · rintro ⟨ks, hks, heach⟩
    have hlength : ks.length = writes.length := by simpa using heach.length_eq
    have hsubset : ks ⊆ (writes.map Prod.fst).dedup := by
      intro k hk
      obtain ⟨i, hi, rfl⟩ := List.getElem_of_mem hk
      have hget := (List.forall₂_iff_get.1 heach).2 i hi (by rw [List.length_map]; omega)
      rw [List.mem_dedup, ← mem_keys_ofWrites]
      exact (get?_isSome_iff _ _).1 ⟨_, hget⟩
    -- The distinct keys cannot be fewer than the writes they are assigned to.
    have hcard : ks.length ≤ (writes.map Prod.fst).dedup.length :=
      (hks.subperm hsubset).length_le
    have hsub := List.dedup_sublist (writes.map Prod.fst)
    have hdedup : (writes.map Prod.fst).dedup = writes.map Prod.fst :=
      hsub.eq_of_length_le (by rw [List.length_map]; omega)
    exact List.dedup_eq_self.1 hdedup
  · intro hnodup
    refine ⟨writes.map Prod.fst, hnodup, ?_⟩
    rw [List.forall₂_map_left_iff, List.forall₂_map_right_iff, List.forall₂_same]
    intro w hw
    rw [← mem_items_iff_get?, items_ofWrites_of_nodup hnodup]
    exact hw

/-! ### A dictionary filled by first writes -/

variable (offers : List (κ × α))

def ofDefaults : Dict κ α :=
  offers.foldl (fun d w => d.setDefault w.1 w.2) empty

theorem lookup_append_singleton (items : List (κ × α)) (k k' : κ) (v : α) :
    (items ++ [(k, v)]).lookup k'
      = (items.lookup k').or (if k' = k then some v else none) := by
  rw [List.lookup_append, lookup_cons_eq_ite]
  rfl

theorem get?_setDefault (k k' : κ) (v : α) :
    (d.setDefault k v).get? k' = (d.get? k').or (if k' = k then some v else none) := by
  rw [get?, items_setDefault]
  split_ifs with hmem hk
  · obtain ⟨w, hw⟩ := (get?_isSome_iff d k).2 hmem
    rw [hk]
    simp [get?, show d.items.lookup k = some w from hw]
  · simp [get?]
  · rw [lookup_append_singleton, if_pos ‹_›]; rfl
  · rw [lookup_append_singleton, if_neg ‹_›]; rfl

theorem get?_foldl_setDefault (k : κ) :
    (offers.foldl (fun d w => d.setDefault w.1 w.2) d).get? k = (d.get? k).or (offers.lookup k) := by
  induction offers generalizing d with
  | nil => simp
  | cons w rest ih =>
    obtain ⟨k', v⟩ := w
    rw [List.foldl_cons, ih, get?_setDefault, Option.or_assoc, lookup_cons_eq_ite]
    split_ifs <;> rfl

theorem get?_ofDefaults (k : κ) :
    (ofDefaults offers).get? k = offers.lookup k := by
  rw [ofDefaults, get?_foldl_setDefault]
  simp [empty, get?]

theorem lookup_filterMap {β : Type} {offer : β → Option (κ × α)} {value : β → Option α}
    {names : β → Bool} {k : κ} (xs : List β)
    (hpos : ∀ x, names x = true → ∃ v, offer x = some (k, v) ∧ value x = some v)
    (hneg : ∀ x, names x = false → ∀ item, offer x = some item → item.1 ≠ k) :
    (xs.filterMap offer).lookup k = (xs.find? names).bind value := by
  induction xs with
  | nil => rfl
  | cons x rest ih =>
    cases hx : names x with
    | true =>
      obtain ⟨v, hoffer, hvalue⟩ := hpos x hx
      simp [List.filterMap_cons_some hoffer, hx, hvalue]
    | false =>
      cases hoffer : offer x with
      | none => rw [List.filterMap_cons_none hoffer, ih, List.find?_cons, hx]
      | some item =>
        have hbeq : (k == item.1) = false := by
          simpa using fun h => hneg x hx item hoffer h.symm
        rw [List.filterMap_cons_some hoffer, List.lookup_cons, hbeq, ih, List.find?_cons, hx]

theorem mem_items_ofDefaults (k : κ) (v : α) :
    (k, v) ∈ (ofDefaults offers).items ↔ offers.lookup k = some v := by
  rw [mem_items_iff_get?, get?_ofDefaults]

private theorem items_foldl_setDefault_sublist :
    (offers.foldl (fun d w => d.setDefault w.1 w.2) d).items.Sublist (d.items ++ offers) := by
  induction offers generalizing d with
  | nil => simp
  | cons w rest ih =>
    refine (ih (d.setDefault w.1 w.2)).trans ?_
    rw [items_setDefault]
    split_ifs
    · exact (List.sublist_cons_self w rest).append_left d.items
    · simp

theorem items_ofDefaults_sublist : (ofDefaults offers).items.Sublist offers :=
  items_foldl_setDefault_sublist empty offers

private theorem filter_items_foldl_setDefault (p : κ → Bool) (d : Dict κ α) (offers : List (κ × α))
    (h : (d.keys ++ (offers.map Prod.fst).filter p).Nodup) :
    (offers.foldl (fun d w => d.setDefault w.1 w.2) d).items.filter (fun item => p item.1)
      = d.items.filter (fun item => p item.1) ++ offers.filter (fun item => p item.1) := by
  induction offers generalizing d with
  | nil => simp
  | cons w rest ih =>
    by_cases hp : p w.1 = true
    · have hfresh : w.1 ∉ d.keys := by
        intro hmem
        exact (List.nodup_append.1 h).2.2 _ hmem _ (by simp [hp]) rfl
      have hitems := items_setDefault d w.1 w.2
      rw [if_neg hfresh] at hitems
      rw [List.foldl_cons, ih, hitems]
      · simp [hp]
      · rw [keys, hitems]
        simpa [hp, keys] using h
    · have hrest : (d.keys ++ (rest.map Prod.fst).filter p).Nodup := by simpa [hp] using h
      rw [List.foldl_cons, ih]
      · rw [items_setDefault]
        split_ifs <;> simp [hp]
      · rw [keys, items_setDefault]
        split_ifs with hmem
        · exact hrest
        · have hout : w.1 ∉ (rest.map Prod.fst).filter p := fun hin => hp (List.mem_filter.1 hin).2
          have hperm : ((d.items ++ [(w.1, w.2)]).map Prod.fst ++ (rest.map Prod.fst).filter p).Perm
              (w.1 :: (d.keys ++ (rest.map Prod.fst).filter p)) := by
            simp [keys]
          rw [hperm.nodup_iff, List.nodup_cons, List.mem_append, not_or]
          exact ⟨⟨hmem, hout⟩, hrest⟩

theorem filter_items_ofDefaults (p : κ → Bool) {offers : List (κ × α)}
    (h : ((offers.map Prod.fst).filter p).Nodup) :
    (ofDefaults offers).items.filter (fun item => p item.1) = offers.filter (fun item => p item.1) := by
  rw [ofDefaults, filter_items_foldl_setDefault]
  · simp [empty]
  · simpa [empty, keys] using h

/-! ### Updates in place -/

omit [DecidableEq κ] in
theorem eq_of_items_eq {d d' : Dict κ α} (h : d.items = d'.items) : d = d' := by
  obtain ⟨items, hnodup⟩ := d
  obtain ⟨items', hnodup'⟩ := d'
  cases h
  rfl

variable (f : κ → α → α)

def mapValues (d : Dict κ α) : Dict κ α :=
  ⟨d.items.map fun item => (item.1, f item.1 item.2), by simpa [Function.comp_def] using d.nodup⟩

@[simp] theorem get?_mapValues (d : Dict κ α) (k : κ) :
    (d.mapValues f).get? k = (d.get? k).map (f k) := by
  obtain ⟨items, hnodup⟩ := d
  change (items.map fun item => (item.1, f item.1 item.2)).lookup k = (items.lookup k).map (f k)
  clear hnodup
  induction items with
  | nil => rfl
  | cons item rest ih =>
    obtain ⟨k', v⟩ := item
    rw [List.map_cons, lookup_cons_eq_ite, lookup_cons_eq_ite, ih]
    split_ifs with hk
    · rw [hk, Option.map_some]
    · rfl

omit [DecidableEq κ] in
theorem mapValues_id : (d.mapValues fun _ v => v) = d := eq_of_items_eq (by simp [mapValues])

end Dict

theorem map_filterMap_sublist {α β γ : Type} {f : α → Option β} {g : β → γ} {h : α → γ}
    (hback : ∀ x y, f x = some y → g y = h x) (xs : List α) :
    ((xs.filterMap f).map g).Sublist (xs.map h) := by
  induction xs with
  | nil => simp
  | cons x rest ih =>
    cases hx : f x with
    | none => simpa [List.filterMap_cons_none hx] using ih.cons (h x)
    | some y => simpa [List.filterMap_cons_some hx, hback x y hx] using ih

/-- `{key: f(value) for key, value in d.items()}`, for the values that `f` is defined on. -/
theorem Dict.get?_ofWrites_filterMap {κ α β : Type} [DecidableEq κ] (d : Dict κ α) (f : α → Option β) (k : κ) :
    (Dict.ofWrites (d.items.filterMap fun item => (f item.2).map (item.1, ·))).get? k = (d.get? k).bind f := by
  have hkeys : ((d.items.filterMap fun item => (f item.2).map (item.1, ·)).map Prod.fst).Nodup := by
    refine d.nodup.sublist (map_filterMap_sublist (fun item write hwrite => ?_) d.items)
    obtain ⟨value, -, rfl⟩ := Option.map_eq_some_iff.1 hwrite
    rfl
  ext value
  rw [← Dict.mem_items_iff_get?, Dict.items_ofWrites_of_nodup hkeys, List.mem_filterMap, Option.bind_eq_some_iff]
  constructor
  · rintro ⟨⟨key, old⟩, hitem, hwrite⟩
    obtain ⟨new, hnew, heq⟩ := Option.map_eq_some_iff.1 hwrite
    obtain ⟨rfl, rfl⟩ := Prod.mk.inj heq
    exact ⟨old, (d.mem_items_iff_get? key old).1 hitem, hnew⟩
  · rintro ⟨old, hget, hnew⟩
    exact ⟨(k, old), (d.mem_items_iff_get? k old).2 hget, by rw [hnew]; rfl⟩

theorem Dict.length_ofWrites_le {κ α : Type} [DecidableEq κ] (writes : List (κ × α)) :
    (Dict.ofWrites writes).items.length ≤ writes.length := by
  have hsubset : (Dict.ofWrites writes).items.map Prod.fst ⊆ writes.map Prod.fst :=
    fun k hk => (Dict.mem_keys_ofWrites writes k).1 hk
  simpa using ((Dict.ofWrites writes).nodup.subperm hsubset).length_le

end Python
