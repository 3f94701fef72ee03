import Mathlib.Data.List.Sort
import Proxbox.Library.Json
import Proxbox.Library.JsonText
/-!
# JSON values as trees

Induction over a value of any depth, the replacement of the values that a rule hides in each object, and the
text `json.dumps` writes. Two values that are the same but for what is hidden become equal when the hidden
values are replaced by one and the same. A text of a value holds the texts of its parts.
-/

namespace Python

theorem Json.induct {P : Json → Prop} (null : P .null) (bool : ∀ b, P (.bool b)) (int : ∀ n, P (.int n))
    (float : ∀ text, P (.float text)) (str : ∀ s, P (.str s)) (arr : ∀ xs, (∀ x ∈ xs, P x) → P (.arr xs))
    (obj : ∀ fields : Fields, (∀ field ∈ fields, P field.2) → P (.obj fields)) (value : Json) : P value :=
  @Json.rec P (fun xs => ∀ x ∈ xs, P x) (fun fields => ∀ field ∈ fields, P field.2) (fun field => P field.2)
    null bool int float str arr obj (List.forall_mem_nil _) (fun _ _ hx hxs => List.forall_mem_cons.2 ⟨hx, hxs⟩)
    (List.forall_mem_nil _) (fun _ _ hfield hfields => List.forall_mem_cons.2 ⟨hfield, hfields⟩)
    (fun _ _ hvalue => hvalue) value

/-! ### Hidden values -/

mutual

/-- The value with a filler for everything that is hidden; a rule sees the object and the key. -/
def fill (hidden : Fields → String → Bool) (filler : Json) : Json → Json
  | .null => .null
  | .bool b => .bool b
  | .int n => .int n
  | .float text => .float text
  | .str s => .str s
  | .arr xs => .arr (fillItems hidden filler xs)
  | .obj fields => .obj (fillFields hidden filler (hidden fields) fields)

def fillItems (hidden : Fields → String → Bool) (filler : Json) : List Json → List Json
  | [] => []
  | x :: rest => fill hidden filler x :: fillItems hidden filler rest

def fillFields (hidden : Fields → String → Bool) (filler : Json) (hides : String → Bool) :
    List (String × Json) → List (String × Json)
  | [] => []
  | (key, value) :: rest =>
    (key, if hides key then filler else fill hidden filler value) :: fillFields hidden filler hides rest

end

/-- The values are equal but for what the rule hides. -/
def SameBut (hidden : Fields → String → Bool) (left right : Json) : Prop :=
  fill hidden .null left = fill hidden .null right

/-- What a rule hides does not depend on hidden values. -/
def Stable (hidden : Fields → String → Bool) : Prop :=
  ∀ filler fields, hidden (fillFields hidden filler (hidden fields) fields) = hidden fields

mutual

/-- Some key satisfies the test, at any depth. -/
def Json.anyKey (test : String → Bool) : Json → Bool
  | .arr xs => anyKeyItems test xs
  | .obj fields => anyKeyFields test fields
  | _ => false

def anyKeyItems (test : String → Bool) : List Json → Bool
  | [] => false
  | x :: rest => x.anyKey test || anyKeyItems test rest

def anyKeyFields (test : String → Bool) : List (String × Json) → Bool
  | [] => false
  | (key, value) :: rest => test key || value.anyKey test || anyKeyFields test rest

end

section Hidden

variable {hidden : Fields → String → Bool} {test : String → Bool} {filler : Json}

theorem fill_arr (xs : List Json) : fill hidden filler (.arr xs) = .arr (xs.map (fill hidden filler)) := by
  have hitems : fillItems hidden filler xs = xs.map (fill hidden filler) := by
    induction xs with
    | nil => rfl
    | cons x rest ih => rw [fillItems, ih, List.map_cons]
  rw [fill, hitems]

variable (fields : Fields)

theorem fillFields_eq_map (hides : String → Bool) (fields : Fields) : fillFields hidden filler hides fields =
    fields.map fun field => (field.1, if hides field.1 then filler else fill hidden filler field.2) := by
  induction fields with
  | nil => rfl
  | cons field rest ih => rw [fillFields, ih, List.map_cons]

theorem fill_obj : fill hidden filler (.obj fields) = .obj (fields.map fun field =>
    (field.1, if hidden fields field.1 then filler else fill hidden filler field.2)) := by
  rw [fill, fillFields_eq_map]

theorem get_fillFields {hides : String → Bool} {key : String} (hkey : hides key = false) (fields : Fields) :
    Fields.get (fillFields hidden filler hides fields) key = fill hidden filler (Fields.get fields key) := by
  induction fields with
  | nil => rfl
  | cons field rest ih =>
    obtain ⟨name, value⟩ := field
    rw [fillFields, Fields.get_cons, Fields.get_cons, ih]
    by_cases hname : key = name
    · subst hname
      simp [hkey]
    · rw [if_neg hname, if_neg hname]

theorem fill_fill (hstable : Stable hidden) (first second value : Json) :
    fill hidden second (fill hidden first value) = fill hidden second value := by
  induction value using Json.induct with
  | null => rfl
  | bool b => rfl
  | int n => rfl
  | float text => rfl
  | str s => rfl
  | arr xs ih =>
    rw [fill_arr, fill_arr, fill_arr, List.map_map]
    exact congrArg Json.arr (List.map_congr_left ih)
  | obj fields ih =>
    have hsame := hstable first fields
    rw [fillFields_eq_map] at hsame
    rw [fill_obj, fill_obj, fill_obj, hsame, List.map_map]
    refine congrArg Json.obj (List.map_congr_left fun field hfield => ?_)
    show (field.1, if hidden fields field.1 then second
      else fill hidden second (if hidden fields field.1 then first else fill hidden first field.2)) = _
    by_cases hhidden : hidden fields field.1 = true
    · rw [if_pos hhidden, if_pos hhidden]
    · rw [if_neg hhidden, if_neg hhidden, if_neg hhidden, ih field hfield]

theorem sameBut_fill (hstable : Stable hidden) (filler value : Json) : SameBut hidden (fill hidden filler value) value :=
  fill_fill hstable filler .null value

theorem stable_of_keys (test : String → Bool) : Stable fun _ => test := fun _ _ => rfl

theorem anyKey_arr (xs : List Json) : (Json.arr xs).anyKey test = xs.any (Json.anyKey test) := by
  rw [Json.anyKey]
  induction xs with
  | nil => rfl
  | cons x rest ih => rw [anyKeyItems, ih, List.any_cons]

theorem anyKey_obj :
    (Json.obj fields).anyKey test = fields.any fun field => test field.1 || field.2.anyKey test := by
  rw [Json.anyKey]
  induction fields with
  | nil => rfl
  | cons field rest ih => rw [anyKeyFields, ih, List.any_cons]

theorem fill_of_anyKey_eq_false {value : Json} (h : value.anyKey test = false) : fill (fun _ => test) filler value = value := by
  induction value using Json.induct with
  | null => rfl
  | bool b => rfl
  | int n => rfl
  | float text => rfl
  | str s => rfl
  | arr xs ih =>
    rw [anyKey_arr, List.any_eq_false] at h
    rw [fill_arr]
    refine congrArg Json.arr ((List.map_congr_left fun x hx => ?_).trans (List.map_id xs))
    exact ih x hx (Bool.eq_false_of_not_eq_true (h x hx))
  | obj fields ih =>
    rw [anyKey_obj, List.any_eq_false] at h
    rw [fill_obj]
    refine congrArg Json.obj ((List.map_congr_left fun field hfield => ?_).trans (List.map_id fields))
    have hfree := h field hfield
    rw [Bool.or_eq_true, not_or] at hfree
    rw [if_neg hfree.1, ih field hfield (Bool.eq_false_of_not_eq_true hfree.2)]
    rfl

theorem anyKey_fill_null (value : Json) : (fill (fun _ => test) .null value).anyKey test = value.anyKey test := by
  induction value using Json.induct with
  | null => rfl
  | bool b => rfl
  | int n => rfl
  | float text => rfl
  | str s => rfl
  | arr xs ih =>
    rw [fill_arr, anyKey_arr, anyKey_arr, List.any_map, Bool.eq_iff_iff, List.any_eq_true, List.any_eq_true]
    exact exists_congr fun x => and_congr_right fun hx => Bool.eq_iff_iff.1 (ih x hx)
  | obj fields ih =>
    rw [fill_obj, anyKey_obj, anyKey_obj, List.any_map, Bool.eq_iff_iff, List.any_eq_true, List.any_eq_true]
    refine exists_congr fun field => and_congr_right fun hfield => Bool.eq_iff_iff.1 ?_
    show (test field.1 || (if test field.1 then Json.null else fill (fun _ => test) .null field.2).anyKey test) = _
    rcases Bool.eq_false_or_eq_true (test field.1) with hkey | hkey
    · rw [hkey, Bool.true_or, Bool.true_or]
    · rw [hkey, if_neg Bool.false_ne_true, ih field hfield]

theorem eq_of_sameBut {left right : Json} (hleft : left.anyKey test = false) (h : SameBut (fun _ => test) left right) :
    left = right := by
  have hfill : fill (fun _ => test) .null right = left := h.symm.trans (fill_of_anyKey_eq_false hleft)
  have hright : right.anyKey test = false := by rw [← anyKey_fill_null, hfill, hleft]
  rw [← hfill, fill_of_anyKey_eq_false hright]

end Hidden

/-! ### Texts of a value -/

/-- `float.__repr__` as `json.dumps` prints it. -/
def dumpFloat (text : String) : String :=
  if text = "inf" then "Infinity" else if text = "-inf" then "-Infinity" else if text = "nan" then "NaN" else text

def joined (parts : List (List Char)) : List Char := [',', ' '].intercalate parts

def dumpField (field : String × List Char) : List Char := quoted field.1 ++ ':' :: ' ' :: field.2

mutual

/-- `json.dumps(value, sort_keys=sort)`. -/
def Json.dump (sort : Bool) : Json → List Char
  | .null => "null".toList
  | .bool b => (if b then "true" else "false").toList
  | .int n => (toString n).toList
  | .float text => (dumpFloat text).toList
  | .str s => quoted s
  | .arr xs => '[' :: joined (dumpItems sort xs) ++ [']']
  | .obj fields =>
    let dumped := dumpFields sort fields
    let ordered := if sort then dumped.insertionSort fun a b => a.1 ≤ b.1 else dumped
    openBrace :: joined (ordered.map dumpField) ++ [closeBrace]

def dumpItems (sort : Bool) : List Json → List (List Char)
  | [] => []
  | x :: rest => x.dump sort :: dumpItems sort rest

def dumpFields (sort : Bool) : List (String × Json) → List (String × List Char)
  | [] => []
  | (key, value) :: rest => (key, value.dump sort) :: dumpFields sort rest

end

theorem joined_singleton (part : List Char) : joined [part] = part := List.intercalate_singleton

theorem joined_cons_cons (first second : List Char) (rest : List (List Char)) :
    joined (first :: second :: rest) = first ++ [',', ' '] ++ joined (second :: rest) := List.intercalate_cons_cons

theorem infix_joined {part : List Char} {parts : List (List Char)} (h : part ∈ parts) : part <:+: joined parts := by
  induction parts with
  | nil => cases h
  | cons first rest ih =>
    cases rest with
    | nil => rw [List.mem_singleton.1 h, joined_singleton]
    | cons second rest =>
      rw [joined_cons_cons]
      rcases List.mem_cons.1 h with rfl | hrest
      · rw [List.append_assoc]
        exact (List.prefix_append _ _).isInfix
      · exact (ih hrest).trans (List.suffix_append _ _).isInfix

section Texts

variable {sort : Bool}

theorem infix_dump_arr {x : Json} {xs : List Json} (h : x ∈ xs) : x.dump sort <:+: (Json.arr xs).dump sort := by
  have hitems : x.dump sort ∈ dumpItems sort xs := by
    induction xs with
    | nil => cases h
    | cons y rest ih =>
      rw [dumpItems]
      rcases List.mem_cons.1 h with rfl | hrest
      · exact List.mem_cons_self
      · exact List.mem_cons_of_mem _ (ih hrest)
  rw [Json.dump]
  exact (infix_joined hitems).trans (List.infix_append ['['] _ _)

theorem infix_dump_obj {field : String × Json} {fields : Fields} (h : field ∈ fields) :
    field.2.dump sort <:+: (Json.obj fields).dump sort := by
  have hfields : (field.1, field.2.dump sort) ∈ dumpFields sort fields := by
    induction fields with
    | nil => cases h
    | cons other rest ih =>
      rw [dumpFields]
      rcases List.mem_cons.1 h with rfl | hrest
      · exact List.mem_cons_self
      · exact List.mem_cons_of_mem _ (ih hrest)
  have hpart : field.2.dump sort <:+: dumpField (field.1, field.2.dump sort) :=
    (List.suffix_append (quoted field.1 ++ [':', ' ']) _).isInfix.trans (by simp [dumpField])
  rw [Json.dump]
  refine (hpart.trans (infix_joined ?_)).trans (List.infix_append [openBrace] _ _)
  refine List.mem_map_of_mem ?_
  split_ifs
  · exact (List.mem_insertionSort _).2 hfields
  · exact hfields

theorem toList_reprItems (xs : List Json) : (reprItems xs).toList = joined (xs.map fun x => x.repr.toList) := by
  induction xs with
  | nil => rfl
  | cons x rest ih =>
    cases rest with
    | nil => rw [reprItems, List.map_cons, List.map_nil, joined_singleton]
    | cons y rest =>
      rw [reprItems, String.toList_append, String.toList_append, ih]
      exact (joined_cons_cons _ _ _).symm

def reprField (field : String × Json) : List Char := (reprStr field.1 ++ ": " ++ field.2.repr).toList

theorem toList_reprFields (fields : Fields) : (reprFields fields).toList = joined (fields.map reprField) := by
  induction fields with
  | nil => rfl
  | cons field rest ih =>
    cases rest with
    | nil => rw [reprFields, List.map_cons, List.map_nil, joined_singleton, reprField]
    | cons other rest =>
      rw [reprFields, String.toList_append, String.toList_append, ih]
      exact (joined_cons_cons _ _ _).symm

theorem infix_repr_arr {x : Json} {xs : List Json} (h : x ∈ xs) : x.repr.toList <:+: (Json.arr xs).repr.toList := by
  have hpart : x.repr.toList ∈ xs.map fun x => x.repr.toList := List.mem_map.2 ⟨x, h, rfl⟩
  rw [Json.repr, String.toList_append, String.toList_append, toList_reprItems]
  exact (infix_joined hpart).trans (List.infix_append _ _ _)

theorem infix_repr_obj {field : String × Json} {fields : Fields} (h : field ∈ fields) :
    field.2.repr.toList <:+: (Json.obj fields).repr.toList := by
  have hpart : field.2.repr.toList <:+: reprField field := by
    rw [reprField, String.toList_append]
    exact (List.suffix_append _ _).isInfix
  rw [Json.repr, String.toList_append, String.toList_append, toList_reprFields]
  exact (hpart.trans (infix_joined (List.mem_map_of_mem h))).trans (List.infix_append _ _ _)

/-- A text that shows every part of a value shows the filler wherever a key hides one. -/
theorem infix_of_anyKey {test : String → Bool} {filler : Json} (render : Json → List Char)
    (harr : ∀ {x xs}, x ∈ xs → render x <:+: render (.arr xs))
    (hobj : ∀ {field : String × Json} {fields}, field ∈ fields → render field.2 <:+: render (.obj fields)) {value : Json}
    (h : value.anyKey test = true) : render filler <:+: render (fill (fun _ => test) filler value) := by
  induction value using Json.induct with
  | null => cases h
  | bool b => cases h
  | int n => cases h
  | float text => cases h
  | str s => cases h
  | arr xs ih =>
    rw [anyKey_arr, List.any_eq_true] at h
    obtain ⟨x, hx, hkey⟩ := h
    rw [fill_arr]
    exact (ih x hx hkey).trans (harr (List.mem_map_of_mem hx))
  | obj fields ih =>
    rw [anyKey_obj, List.any_eq_true] at h
    obtain ⟨field, hfield, hkey⟩ := h
    rw [fill_obj]
    refine List.IsInfix.trans ?_ (hobj (List.mem_map.2 ⟨field, hfield, rfl⟩))
    dsimp only
    split_ifs with htest
    · exact List.infix_rfl
    · rw [Bool.or_eq_true, or_iff_right htest] at hkey
      exact ih field hfield hkey

end Texts

end Python
