import Proxbox.Redaction.Vocabulary
/-!
# Backend payloads on their way into the job log

`views/error_utils.py`: credentials in a text, and in a structure of any depth. In a structure three rules meet:
a value under a sensitive key is replaced, so is the echo of a submitted value when the `loc` beside it names a
sensitive field, and every other text is swept. What lies below the depth limit is replaced as a whole.
-/

namespace Proxbox

open Python Regex

def redacted : String := "[redacted]"

def redactedDeep : String := "[redacted: nesting depth limit]"

def redactionDepthLimit : Nat := 6

def locEchoKeys : List String := ["input", "input_value"]

/-! ### Texts -/

def plainValueChar (c : Char) : Bool := !isSpace c && !Pattern.oneOf ",;)]" c && c != closeBrace

def quotedBy (quote : Char) : Pattern := .cat [.one (· == quote), .star (· != quote), .one (· == quote)]

def assignmentValue : Pattern :=
  .any [.cat [schemePattern, .plus isSpace, .plus plainValueChar],
    quotedBy singleQuote,
    quotedBy quoteMark,
    -- A quote that opens and never closes: the rest of the line.
    .cat [.one isQuote, .star fun c => c != '\r' && c != '\n'],
    .plus plainValueChar]

def renderRedactedValue (value : List Char) : List Char :=
  match value.head? with
  | some c => if isQuote c then c :: redacted.toList ++ [c] else redacted.toList
  | none => redacted.toList

def tokenChar (c : Char) : Bool := Pattern.anyLetter c || c.isDigit || Pattern.oneOf "._-+/=" c

section Sweep

-- Which characters beyond ASCII are letters or digits; they only decide where a word ends.
variable (isAlnum : Char → Bool)

def wordChar (c : Char) : Bool := c.isAlphanum || c == '_' || (128 ≤ c.toNat && isAlnum c)

def credential : Pattern :=
  .cat [.capture "1" schemePattern, .plus isSpace, .capture "2" (.times (.one tokenChar) 8 none)]

def bearer : Pattern := .seq (.boundary (wordChar isAlnum)) credential

def renderBearer (found : Found) : List Char := (found.group "1").getD [] ++ ' ' :: redacted.toList

def redactSensitiveText (value : String) : String :=
  String.ofList ((bearer isAlnum).sub renderBearer
    (redactAssignments value.toList assignmentValue renderRedactedValue isSensitiveOrEchoKey))

/-! ### Structures -/

def isSensitivePart : Json → Bool
  | .str part => isSensitiveKey part
  | _ => false

def locNamesSensitiveField : Json → Bool
  | .arr parts => parts.any isSensitivePart
  | _ => false

/-- The keys of an object whose values are replaced unseen. -/
def hiddenKey (fields : Fields) (key : String) : Bool :=
  isSensitiveKey key || (locNamesSensitiveField (fields.get "loc") && locEchoKeys.contains key)

mutual

def redactSensitive (depth : Nat) (value : Json) : Json :=
  if redactionDepthLimit < depth then .str redactedDeep
  else match value with
    | .obj fields => .obj (redactFields (hiddenKey fields) (depth + 1) fields)
    | .arr xs => .arr (redactItems (depth + 1) xs)
    | .str s => .str (redactSensitiveText isAlnum s)
    | .null => .null
    | .bool b => .bool b
    | .int n => .int n
    | .float text => .float text

def redactItems : Nat → List Json → List Json
  | _, [] => []
  | depth, x :: rest => redactSensitive depth x :: redactItems depth rest

def redactFields (hides : String → Bool) : Nat → List (String × Json) → List (String × Json)
  | _, [] => []
  | depth, (key, value) :: rest =>
    (key, if hides key then .str redacted else redactSensitive depth value) :: redactFields hides depth rest

end

def redactBackendDetail (value : Json) : String :=
  match redactSensitive isAlnum 0 value with
  | .str s => s
  | other => String.ofList (other.dump false)

theorem bearer_ends (cursor : Cursor) (h : credential.ends cursor = []) : (bearer isAlnum).ends cursor = [] := by
  refine List.flatMap_eq_nil_iff.2 fun middle hmiddle => ?_
  unfold Pattern.boundary Pattern.ends at hmiddle
  split_ifs at hmiddle
  · rw [List.mem_singleton.1 hmiddle, h]
  · cases hmiddle

/-! ### What the result depends on -/

section Structures

variable {isAlnum : Char → Bool} {depth : Nat}

theorem redactSensitive_of_limit_lt (h : redactionDepthLimit < depth) (value : Json) :
    redactSensitive isAlnum depth value = .str redactedDeep := by
  rw [redactSensitive.eq_def, if_pos h]

theorem redactSensitive_arr (h : depth ≤ redactionDepthLimit) (xs : List Json) :
    redactSensitive isAlnum depth (.arr xs) = .arr (xs.map (redactSensitive isAlnum (depth + 1))) := by
  have hitems : redactItems isAlnum (depth + 1) xs = xs.map (redactSensitive isAlnum (depth + 1)) := by
    induction xs with
    | nil => rfl
    | cons x rest ih => rw [redactItems, ih, List.map_cons]
  rw [redactSensitive, if_neg (Nat.not_lt.2 h)]
  exact congrArg Json.arr hitems

theorem redactSensitive_obj (h : depth ≤ redactionDepthLimit) (fields : Fields) :
    redactSensitive isAlnum depth (.obj fields) = .obj (fields.map fun field =>
      (field.1, if hiddenKey fields field.1 then .str redacted else redactSensitive isAlnum (depth + 1) field.2)) := by
  have hfields (hides : String → Bool) (fields : Fields) : redactFields isAlnum hides (depth + 1) fields =
      fields.map fun field =>
        (field.1, if hides field.1 then .str redacted else redactSensitive isAlnum (depth + 1) field.2) := by
    induction fields with
    | nil => rfl
    | cons field rest ih => rw [redactFields, ih, List.map_cons]
  rw [redactSensitive, if_neg (Nat.not_lt.2 h)]
  exact congrArg Json.obj (hfields _ fields)

theorem hiddenKey_loc (fields : Fields) : hiddenKey fields "loc" = false := by
  have hkey : isSensitiveKey "loc" = false := by decide +kernel
  have hecho : locEchoKeys.contains "loc" = false := by decide +kernel
  rw [hiddenKey, hkey, hecho, Bool.and_false, Bool.or_false]

theorem isSensitivePart_fill (filler part : Json) : isSensitivePart (fill hiddenKey filler part) = isSensitivePart part := by
  cases part with
  | str s => rw [fill]
  | arr xs =>
    rw [fill_arr]
    rfl
  | obj fields =>
    rw [fill_obj]
    rfl
  | null => rw [fill]
  | bool b => rw [fill]
  | int n => rw [fill]
  | float text => rw [fill]

theorem locNamesSensitiveField_fill (filler loc : Json) :
    locNamesSensitiveField (fill hiddenKey filler loc) = locNamesSensitiveField loc := by
  cases loc with
  | arr parts =>
    rw [fill_arr, locNamesSensitiveField, locNamesSensitiveField, List.any_map]
    congr 1
    funext part
    exact isSensitivePart_fill filler part
  | obj fields =>
    rw [fill_obj]
    rfl
  | null => rw [fill]
  | bool b => rw [fill]
  | int n => rw [fill]
  | float text => rw [fill]
  | str s => rw [fill]

theorem stable_hiddenKey : Stable hiddenKey := by
  intro filler fields
  funext key
  rw [hiddenKey, get_fillFields (hiddenKey_loc fields), locNamesSensitiveField_fill]
  rfl

theorem redactSensitive_fill (filler value : Json) :
    redactSensitive isAlnum depth (fill hiddenKey filler value) = redactSensitive isAlnum depth value := by
  induction value using Json.induct generalizing depth with
  | null => rfl
  | bool b => rfl
  | int n => rfl
  | float text => rfl
  | str s => rfl
  | arr xs ih =>
    rcases Nat.lt_or_ge redactionDepthLimit depth with hdeep | hdepth
    · rw [redactSensitive_of_limit_lt hdeep, redactSensitive_of_limit_lt hdeep]
    · rw [fill_arr, redactSensitive_arr hdepth, redactSensitive_arr hdepth, List.map_map]
      exact congrArg Json.arr (List.map_congr_left fun x hx => ih x hx)
  | obj fields ih =>
    rcases Nat.lt_or_ge redactionDepthLimit depth with hdeep | hdepth
    · rw [redactSensitive_of_limit_lt hdeep, redactSensitive_of_limit_lt hdeep]
    · have hsame := stable_hiddenKey filler fields
      rw [fillFields_eq_map] at hsame
      rw [fill_obj, redactSensitive_obj hdepth, redactSensitive_obj hdepth, hsame, List.map_map]
      refine congrArg Json.obj (List.map_congr_left fun field hfield => ?_)
      dsimp only [Function.comp_apply]
      by_cases hhidden : hiddenKey fields field.1 = true
      · rw [if_pos hhidden, if_pos hhidden]
      · rw [if_neg hhidden, if_neg hhidden, if_neg hhidden, ih field hfield]

/-- The payloads agree on the first levels. Of two objects on the last two of these, whose paths reach further
down, `related` is asked too. -/
def AgreeAbove (related : Fields → Fields → Prop) : Nat → Json → Json → Prop
  | 0, _, _ => True
  | levels + 1, .arr xs, .arr ys => List.Forall₂ (AgreeAbove related levels) xs ys
  | levels + 1, .obj fields, .obj others =>
    List.Forall₂ (fun field other => field.1 = other.1 ∧ AgreeAbove related levels field.2 other.2) fields others ∧
      (levels < 2 → related fields others)
  | _ + 1, value, other => value = other

/-- Both objects' paths name a sensitive field, or neither does. -/
def SameLocVerdict (fields others : Fields) : Prop :=
  locNamesSensitiveField (fields.get "loc") = locNamesSensitiveField (others.get "loc")

section Agreement

variable {related : Fields → Fields → Prop} {levels : Nat}

def AgreeFields (related : Fields → Fields → Prop) (levels : Nat) : Fields → Fields → Prop :=
  List.Forall₂ fun field other => field.1 = other.1 ∧ AgreeAbove related levels field.2 other.2

theorem AgreeAbove.eq_or_parts {value other : Json} (h : AgreeAbove related (levels + 1) value other) :
    value = other ∨ (∃ xs ys, value = .arr xs ∧ other = .arr ys ∧ List.Forall₂ (AgreeAbove related levels) xs ys) ∨
      ∃ fields others, value = .obj fields ∧ other = .obj others ∧ AgreeFields related levels fields others ∧
        (levels < 2 → related fields others) := by
  unfold AgreeAbove at h
  split at h
  · cases ‹_ + 1 = 0›
  · rename_i xs ys hlevels
    obtain rfl := Nat.succ.inj hlevels
    exact .inr (.inl ⟨xs, ys, rfl, rfl, h⟩)
  · rename_i fields others hlevels
    obtain rfl := Nat.succ.inj hlevels
    exact .inr (.inr ⟨fields, others, rfl, rfl, h⟩)
  · exact .inl h

theorem AgreeAbove.null : AgreeAbove related levels .null .null := by
  cases levels with
  | zero => trivial
  | succ levels => rfl

variable {fields others : Fields}

theorem AgreeFields.get (h : AgreeFields related levels fields others) (key : String) :
    AgreeAbove related levels (fields.get key) (others.get key) := by
  induction h with
  | nil => exact AgreeAbove.null
  | @cons field other rest rest' hfield _ ih =>
    obtain ⟨name, value⟩ := field
    obtain ⟨name', value'⟩ := other
    obtain ⟨rfl, hvalue⟩ : name = name' ∧ AgreeAbove related levels value value' := hfield
    rw [Fields.get_cons, Fields.get_cons]
    split_ifs
    · exact hvalue
    · exact ih

theorem AgreeAbove.isSensitivePart {part part' : Json} (h : AgreeAbove related (levels + 1) part part') :
    isSensitivePart part = isSensitivePart part' := by
  obtain rfl | ⟨xs, ys, rfl, rfl, -⟩ | ⟨fields, others, rfl, rfl, -⟩ := h.eq_or_parts
  · rfl
  · rfl
  · rfl

theorem AgreeAbove.locNamesSensitiveField {loc loc' : Json} (h : AgreeAbove related (levels + 2) loc loc') :
    locNamesSensitiveField loc = locNamesSensitiveField loc' := by
  obtain rfl | ⟨parts, parts', rfl, rfl, hparts⟩ | ⟨fields, others, rfl, rfl, -⟩ := h.eq_or_parts
  · rfl
  · show parts.any Proxbox.isSensitivePart = parts'.any Proxbox.isSensitivePart
    clear h
    induction hparts with
    | nil => rfl
    | cons hpart _ ih => rw [List.any_cons, List.any_cons, hpart.isSensitivePart, ih]
  · rfl

theorem AgreeFields.hiddenKey (h : AgreeFields SameLocVerdict levels fields others)
    (hdeep : levels < 2 → SameLocVerdict fields others) : hiddenKey fields = hiddenKey others := by
  have hverdict : SameLocVerdict fields others := by
    rcases Nat.lt_or_ge levels 2 with hlow | hhigh
    · exact hdeep hlow
    · obtain ⟨below, rfl⟩ := Nat.exists_eq_add_of_le' hhigh
      exact (h.get "loc").locNamesSensitiveField
  funext key
  rw [Proxbox.hiddenKey, Proxbox.hiddenKey, hverdict]

/-- The redactor sees as many levels as it has left, and the paths of objects on the last two. -/
theorem redactSensitive_of_agreeAbove (hlevels : depth + levels = redactionDepthLimit + 1) {left right : Json}
    (h : AgreeAbove SameLocVerdict levels left right) :
    redactSensitive isAlnum depth left = redactSensitive isAlnum depth right := by
  induction levels generalizing depth left right with
  | zero => rw [redactSensitive_of_limit_lt (by omega), redactSensitive_of_limit_lt (by omega)]
  | succ levels ih =>
    have hdepth : depth ≤ redactionDepthLimit := by omega
    have hnext : depth + 1 + levels = redactionDepthLimit + 1 := by omega
    obtain rfl | ⟨xs, ys, rfl, rfl, hitems⟩ | ⟨fields, others, rfl, rfl, hfields, hdeep⟩ := h.eq_or_parts
    · rfl
    · rw [redactSensitive_arr hdepth, redactSensitive_arr hdepth]
      refine congrArg Json.arr (List.forall₂_eq_eq_eq ▸ ?_)
      rw [List.forall₂_map_left_iff, List.forall₂_map_right_iff]
      exact hitems.imp fun _ _ => ih hnext
    · rw [redactSensitive_obj hdepth, redactSensitive_obj hdepth, hfields.hiddenKey hdeep]
      refine congrArg Json.obj (List.forall₂_eq_eq_eq ▸ ?_)
      rw [List.forall₂_map_left_iff, List.forall₂_map_right_iff]
      refine hfields.imp fun field other hfield => ?_
      rw [hfield.1, ih hnext hfield.2]

end Agreement

/-- Two payloads that agree down to the depth limit give the same result, as long as the paths at the limit name
a sensitive field in both or in neither. -/
theorem redactSensitive_noninterference (isAlnum : Char → Bool) (left right : Json) :
    (SameBut hiddenKey left right → redactSensitive isAlnum 0 left = redactSensitive isAlnum 0 right) ∧
      (AgreeAbove SameLocVerdict (redactionDepthLimit + 1) left right →
        redactSensitive isAlnum 0 left = redactSensitive isAlnum 0 right) := by
  refine ⟨fun hsame => ?_, redactSensitive_of_agreeAbove (Nat.zero_add _)⟩
  rw [← redactSensitive_fill .null left, hsame, redactSensitive_fill]

def deepError (field : String) : Json :=
  .arr [.arr [.arr [.arr [.arr [.arr [.obj [("loc", .arr [.str field]), ("input", .int 1)]]]]]]]

theorem redactSensitive_deepError {field shown : String}
    (h : (if isSensitiveKey field then redacted else redactedDeep) = shown) :
    redactSensitive isAlnum 0 (deepError field) = .arr [.arr [.arr [.arr [.arr [.arr
      [.obj [("loc", .str redactedDeep), ("input", .str shown)]]]]]]] := by
  have hwrap (depth : Nat) (hdepth : depth ≤ redactionDepthLimit) (x : Json) :
      redactSensitive isAlnum depth (.arr [x]) = .arr [redactSensitive isAlnum (depth + 1) x] :=
    redactSensitive_arr hdepth [x]
  have hinput : hiddenKey [("loc", .arr [.str field]), ("input", .int 1)] "input" = isSensitiveKey field := by
    have hkey : isSensitiveKey "input" = false := by decide +kernel
    simp [hiddenKey, hkey, Fields.get_cons, locNamesSensitiveField, isSensitivePart, locEchoKeys]
  rw [deepError, hwrap 0 (by decide), hwrap 1 (by decide), hwrap 2 (by decide), hwrap 3 (by decide), hwrap 4 (by decide),
    hwrap 5 (by decide), redactSensitive_obj (by decide)]
  simp only [List.map_cons, List.map_nil, hiddenKey_loc, hinput, Bool.false_eq_true, if_false, ← h, apply_ite Json.str,
    redactSensitive_of_limit_lt (show redactionDepthLimit < 7 by decide)]

theorem deep_loc_decides_echo :
    AgreeAbove (fun _ _ => True) (redactionDepthLimit + 1) (deepError "name") (deepError "password") ∧
      ∀ isAlnum, redactSensitive isAlnum 0 (deepError "name") ≠ redactSensitive isAlnum 0 (deepError "password") := by
  constructor
  · simp [AgreeAbove, deepError, redactionDepthLimit]
  · intro isAlnum
    rw [redactSensitive_deepError (if_neg (by decide +kernel)), redactSensitive_deepError (if_pos (by decide +kernel))]
    simp
    decide

end Structures

end Sweep

end Proxbox
