import Mathlib.Data.List.Sort
import Proxbox.Library.Dict
/-!
# Grouping and sorting

A dictionary that is filled item by item, each item changing the value under its key, has under a key what the
items of that key make. A list cut into pieces is its pieces. A stable sort is characterised by what it keeps:
the items, and the order of those with equal keys.
-/

namespace Python

namespace Dict

variable {κ α β : Type} [DecidableEq κ] {key : β → κ} {step : Option α → β → α}

def accumulate (key : β → κ) (step : Option α → β → α) (d : Dict κ α) (items : List β) : Dict κ α :=
  items.foldl (fun d item => d.set (key item) (step (d.get? (key item)) item)) d

theorem get?_accumulate (d : Dict κ α) (items : List β) (k : κ) :
    (accumulate key step d items).get? k =
      (items.filter (key · = k)).foldl (fun value item => some (step value item)) (d.get? k) := by
  induction items generalizing d with
  | nil => rfl
  | cons item items ih =>
    change (accumulate key step (d.set (key item) (step (d.get? (key item)) item)) items).get? k = _
    rw [ih, get?_set]
    by_cases hkey : key item = k
    · rw [if_pos hkey.symm, List.filter_cons_of_pos (by simpa using hkey), List.foldl_cons, hkey]
    · rw [if_neg (Ne.symm hkey), List.filter_cons_of_neg (by simpa using hkey)]

theorem getD_accumulate_append (items : List β) (k : κ) :
    ((accumulate key (fun found item => found.getD [] ++ [item]) empty items).get? k).getD [] = items.filter (key · = k) := by
  have hfold (found : Option (List β)) (items : List β) :
      (items.foldl (fun found item => some (found.getD [] ++ [item])) found).getD [] = found.getD [] ++ items := by
    induction items generalizing found with
    | nil => exact (List.append_nil _).symm
    | cons item items ih => rw [List.foldl_cons, ih, Option.getD_some, List.append_assoc, List.singleton_append]
  rw [get?_accumulate, hfold]
  rfl

end Dict

section Chunks

variable {α : Type}

/-- `[items[i:i + size] for i in range(0, len(items), size)]`. -/
def chunks (size : Nat) (items : List α) : List (List α) :=
  (List.range ((items.length + size - 1) / size)).map fun i => (items.drop (size * i)).take size

theorem flatten_chunks {size : Nat} (hsize : 0 < size) (items : List α) : (chunks size items).flatten = items := by
  have htake (count : Nat) :
      ((List.range count).map fun i => (items.drop (size * i)).take size).flatten = items.take (size * count) := by
    induction count with
    | zero => rfl
    | succ count ih =>
      rw [List.range_succ, List.map_append, List.flatten_append, ih, Nat.mul_succ, List.take_add]
      simp
  unfold chunks
  rw [htake, List.take_of_length_le]
  have hmod := Nat.div_add_mod (items.length + size - 1) size
  have hlt := Nat.mod_lt (items.length + size - 1) hsize
  omega

theorem ne_nil_of_mem_chunks {size : Nat} (hsize : 0 < size) {items piece : List α} (h : piece ∈ chunks size items) :
    piece ≠ [] := by
  obtain ⟨i, hi, rfl⟩ := List.mem_map.1 h
  rw [List.mem_range, Nat.lt_div_iff_mul_lt hsize, Nat.mul_comm] at hi
  rw [Ne, List.take_eq_nil_iff, List.drop_eq_nil_iff]
  omega

variable {pieces : List (List α)}

theorem head?_flatten_of_ne_nil (h : ∀ piece ∈ pieces, piece ≠ []) : pieces.head?.bind List.head? = pieces.flatten.head? := by
  cases pieces with
  | nil => rfl
  | cons piece pieces =>
    obtain ⟨item, rest, rfl⟩ := List.exists_cons_of_ne_nil (h piece List.mem_cons_self)
    rfl

theorem getLast?_flatten_of_ne_nil (h : ∀ piece ∈ pieces, piece ≠ []) :
    pieces.getLast?.bind List.getLast? = pieces.flatten.getLast? := by
  rcases List.eq_nil_or_concat' pieces with rfl | ⟨before, piece, rfl⟩
  · rfl
  · have hne := h piece (List.mem_append_right _ List.mem_cons_self)
    rw [List.getLast?_concat, List.flatten_concat, List.getLast?_append_of_ne_nil _ hne]
    rfl

end Chunks

section Sorting

variable {α κ : Type} [LinearOrder κ] {key : α → κ}

/-- The items in the order of their keys, and items with equal keys in the order in which they come. -/
structure StablySorted (key : α → κ) (items ordered : List α) : Prop where
  perm : ordered.Perm items
  sorted : ordered.Pairwise fun a b => key a ≤ key b
  ties : ∀ k, ordered.filter (key · = k) = items.filter (key · = k)

/-- `sorted(items, key=key)`. -/
def sortedBy (key : α → κ) (items : List α) : List α := items.insertionSort fun a b => key a ≤ key b

theorem filter_orderedInsert (k : κ) (a : α) (items : List α) :
    (items.orderedInsert (fun a b => key a ≤ key b) a).filter (key · = k) = (a :: items).filter (key · = k) := by
  induction items with
  | nil => rfl
  | cons b items ih =>
    rw [List.orderedInsert_cons]
    split_ifs with hle
    · rfl
    · -- `b` stays in front of `a`, and has another key.
      have hne : key b = k → key a ≠ k := fun hb ha => hle (ha.trans hb.symm).le
      by_cases hb : key b = k
      · have ha := hne hb
        rw [List.filter_cons_of_pos (by simpa using hb), ih, List.filter_cons_of_neg (by simpa using ha),
          List.filter_cons_of_neg (by simpa using ha), List.filter_cons_of_pos (by simpa using hb)]
      · rw [List.filter_cons_of_neg (by simpa using hb), ih, List.filter_cons, List.filter_cons,
          List.filter_cons_of_neg (by simpa using hb)]

theorem stablySorted_sortedBy (key : α → κ) (items : List α) : StablySorted key items (sortedBy key items) := by
  have : Std.Total fun a b : α => key a ≤ key b := ⟨fun a b => le_total _ _⟩
  have : IsTrans α fun a b => key a ≤ key b := ⟨fun _ _ _ => le_trans⟩
  refine ⟨List.perm_insertionSort _ _, List.pairwise_insertionSort _ _, fun k => ?_⟩
  unfold sortedBy
  induction items with
  | nil => rfl
  | cons a items ih =>
    rw [List.insertionSort_cons, filter_orderedInsert, List.filter_cons, ih, List.filter_cons]

end Sorting

end Python
