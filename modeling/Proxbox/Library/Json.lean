import Proxbox.Library.Text
/-!
# JSON values as Python sees them

A JSON document after `json.loads`, with the operations the modelled code applies to a value whose type
it does not know: truth value, `value in (None, "")`, `dict.get`, `str`, `==`, and the two ways of
reading a number out of it. A float is carried by the text `repr` prints for it, which determines it.
-/

namespace Python

inductive Json where
  | null
  | bool (b : Bool)
  | int (n : Int)
  | float (text : String)
  | str (s : String)
  | arr (xs : List Json)
  | obj (fields : List (String × Json))

/-- The fields of a JSON object in order, which is also how the code writes a `dict` literal. -/
abbrev Fields := List (String × Json)

namespace Json

/-- `value in (None, "")`. -/
def blank : Json → Bool
  | .null => true
  | .str s => s == ""
  | _ => false

@[simp] theorem blank_null : blank .null = true := rfl
@[simp] theorem blank_int (n : Int) : blank (.int n) = false := rfl
@[simp] theorem blank_str (s : String) : blank (.str s) = (s == "") := rfl

def isNull : Json → Bool
  | .null => true
  | _ => false

@[simp] theorem isNull_iff {value : Json} : value.isNull = true ↔ value = .null := by
  cases value <;> simp [isNull]

/-- `bool(value)`. -/
def truthy : Json → Bool
  | .null => false
  | .bool b => b
  | .int n => n != 0
  | .float text => match floatLiteral text with
      | some (.finite num _) => num != 0
      | _ => true
  | .str s => s != ""
  | .arr xs => !xs.isEmpty
  | .obj fields => !fields.isEmpty

/-- `a or b`. -/
def or (a b : Json) : Json := if a.truthy then a else b

/-- The fields of an object, and none of any other value: `data if isinstance(data, dict) else {}`. -/
def asDict : Json → Fields
  | .obj fields => fields
  | _ => []

def isDict : Json → Bool
  | .obj _ => true
  | _ => false

def ofText? : Option String → Json
  | some s => .str s
  | none => .null

def ofInt? : Option Int → Json
  | some n => .int n
  | none => .null

end Json

variable (key : String)

/-- `data.get(key)`, `None` when the key is absent. -/
def Fields.get (data : Fields) (key : String) : Json := (data.lookup key).getD .null

def Fields.getD (data : Fields) (key : String) (default : Json) : Json := (data.lookup key).getD default

@[simp] theorem Fields.get_nil : Fields.get [] key = .null := rfl

theorem Fields.get_cons (name : String) (value : Json) (rest : Fields) (key : String) :
    Fields.get ((name, value) :: rest) key = if key = name then value else Fields.get rest key := by
  by_cases hkey : key = name
  · simp [Fields.get, hkey]
  · have hne : (key == name) = false := by simpa using hkey
    simp [Fields.get, List.lookup_cons, hne, hkey]

/-- `{key: value for key, value in payload.items() if value is not None}`. -/
def dropNone (payload : Fields) : Fields :=
  payload.filter fun field => !field.2.isNull

/-- `{key: value for key, value in payload.items() if value not in (None, "")}`. -/
def dropEmpty (payload : Fields) : Fields := payload.filter fun field => !field.2.blank

/-- Leaving out the fields without a value does not change what a key reads as. -/
theorem get_dropNone (fields : Fields) (hnodup : (fields.map Prod.fst).Nodup) (key : String) :
    Fields.get (dropNone fields) key = Fields.get fields key := by
  induction fields with
  | nil => rfl
  | cons field rest ih =>
    obtain ⟨name, value⟩ := field
    obtain ⟨hname, hrest⟩ := List.nodup_cons.1 hnodup
    rw [Fields.get_cons]
    by_cases hnull : value.isNull = true
    · have hdrop : dropNone ((name, value) :: rest) = dropNone rest :=
        List.filter_cons_of_neg (by simp [hnull])
      rw [hdrop, ih hrest]
      split_ifs with hkey
      · -- The key is not among the others, so it reads as `None` there too.
        have habsent : rest.lookup key = none := by
          rw [List.lookup_eq_none_iff]
          intro other hother
          have hne : key ≠ other.1 := by
            rintro rfl
            exact hname (List.mem_map.2 ⟨other, hother, hkey⟩)
          simpa using hne
        rw [Fields.get, habsent, Json.isNull_iff.1 hnull]
        rfl
      · rfl
    · have hkeep : dropNone ((name, value) :: rest) = (name, value) :: dropNone rest :=
        List.filter_cons_of_pos (by simp [hnull])
      rw [hkeep, Fields.get_cons, ih hrest]

/-! ### Text of a value -/

def hexDigit (n : Nat) : Char := "0123456789abcdef".toList.getD n '0'

/-- One character of `repr`. Above Latin-1 this differs from Python, which escapes the characters that are not
printable. -/
def reprChar (quote c : Char) : List Char :=
  let n := c.toNat
  if c = quote ∨ c = '\\' then ['\\', c]
  else if c = '\n' then ['\\', 'n']
  else if c = '\r' then ['\\', 'r']
  else if c = '\t' then ['\\', 't']
  else if n < 32 ∨ (127 ≤ n ∧ n ≤ 160) ∨ n = 173 then
    ['\\', 'x', hexDigit (n / 16), hexDigit (n % 16)]
  else [c]

/-- `repr(s)` of a string: single quotes, unless it holds one and no double quote. -/
def reprStr (s : String) : String :=
  let cs := s.toList
  let quote := if cs.contains (Char.ofNat 39) && !cs.contains '"' then '"' else Char.ofNat 39
  String.ofList (quote :: cs.flatMap (reprChar quote) ++ [quote])

mutual

/-- `repr(value)`. -/
def Json.repr : Json → String
  | .null => "None"
  | .bool b => if b then "True" else "False"
  | .int n => toString n
  | .float text => text
  | .str s => reprStr s
  | .arr xs => "[" ++ reprItems xs ++ "]"
  | .obj fields => "\x7b" ++ reprFields fields ++ "\x7d"

def reprItems : List Json → String
  | [] => ""
  | [x] => x.repr
  | x :: y :: rest => x.repr ++ ", " ++ reprItems (y :: rest)

def reprFields : List (String × Json) → String
  | [] => ""
  | [(key, value)] => reprStr key ++ ": " ++ value.repr
  | (key, value) :: field :: rest =>
    reprStr key ++ ": " ++ value.repr ++ ", " ++ reprFields (field :: rest)

end

/-- `str(value)`. -/
def Json.text : Json → String
  | .str s => s
  | value => value.repr

/-! ### Equality -/

/-- Numeric value, for the comparison of `bool`, `int` and `float` with one another. -/
def Json.number : Json → Option (Int × Nat)
  | .bool b => some (if b then 1 else 0, 1)
  | .int n => some (n, 1)
  | .float text => match floatLiteral text with
      | some (.finite num den) => some (num, den)
      | _ => none
  | _ => none

def numberEq (left right : Json) : Bool :=
  match left.number, right.number with
  | some (n, d), some (m, e) => n * e == m * d
  | _, _ => false

mutual

/-- `left == right`. Objects compare without regard to the order of their keys. -/
def Json.eq : Json → Json → Bool
  | .null, .null => true
  | .str s, .str t => s == t
  | .arr xs, .arr ys => eqItems xs ys
  | .obj fields, .obj others => fields.length == others.length && eqFields fields others
  | .bool a, right => numberEq (Json.bool a) right
  | .int n, right => numberEq (Json.int n) right
  | .float t, right => numberEq (Json.float t) right
  | _, _ => false

def eqItems : List Json → List Json → Bool
  | [], [] => true
  | x :: xs, y :: ys => x.eq y && eqItems xs ys
  | _, _ => false

def eqFields : List (String × Json) → List (String × Json) → Bool
  | [], _ => true
  | (key, value) :: rest, others =>
    match others.lookup key with
    | some other => value.eq other && eqFields rest others
    | none => false

end

theorem Json.eq_null_left (value : Json) : Json.eq .null value = value.isNull := by
  cases value <;> simp [Json.eq, Json.isNull]

@[simp] theorem Json.eq_str (s t : String) : Json.eq (.str s) (.str t) = (s == t) := by
  simp [Json.eq]

/-! ### Numbers out of values -/

inductive NumberError where
  | typeError
  | valueError
  | overflowError
  deriving DecidableEq

/-- An exception as a handler sees it: one raised with a text of the code's own, or one of the
interpreter's. -/
inductive Raised where
  | withText (text : String)
  | overflow
  | unhashable
  deriving DecidableEq

def Json.toDouble : Json → Except NumberError Double
  | .bool b => .ok (.finite (if b then 1 else 0) 1)
  | .int n => match nearestDouble n 1 with
      | .infinite => .error .overflowError
      | value => .ok value
  | .float text => match floatLiteral text with
      | some value => .ok value
      | none => .error .valueError
  | .str s => match floatLiteral s with
      | some value => .ok value
      | none => .error .valueError
  | _ => .error .typeError

/-- `int(round(float(value)))`. -/
def Json.roundToInt (value : Json) : Except NumberError Int := do
  match ← value.toDouble with
  | .finite num den => .ok (roundHalfEven num den)
  | .infinite => .error .overflowError
  | .nan => .error .valueError

theorem Json.roundToInt_int (n : Int) :
    Json.roundToInt (.int n) = .error .overflowError ∨ ∃ m, Json.roundToInt (.int n) = .ok m := by
  cases hdouble : nearestDouble n 1 with
  | finite num den => exact .inr ⟨_, by simp [roundToInt, toDouble, hdouble, bind, Except.bind]; rfl⟩
  | infinite => exact .inl (by simp [roundToInt, toDouble, hdouble, bind, Except.bind])
  | nan => exact absurd hdouble (nearestDouble_ne_nan n 1)

/-- `int(value)`, which truncates a float towards zero. -/
def Json.toInt : Json → Except NumberError Int
  | .bool b => .ok (if b then 1 else 0)
  | .int n => .ok n
  | .float text => match floatLiteral text with
      | some (.finite num den) => .ok (num.tdiv den)
      | some .infinite => .error .overflowError
      | _ => .error .valueError
  | .str s => match intLiteral s with
      | some n => .ok n
      | none => .error .valueError
  | _ => .error .typeError

/-- `int(value)`, `None` where that raises a `TypeError` or a `ValueError`. -/
def Json.intOrNone (value : Json) : Except Raised (Option Int) :=
  match value.toInt with
  | .ok n => .ok (some n)
  | .error .overflowError => .error .overflow
  | .error _ => .ok none

/-! ### Computations that may raise -/

section Raising

variable {ε α β : Type}

variable {x : Except ε α} {f : α → Except ε β}

theorem bind_eq_ok {b : β} :
    (x >>= f) = .ok b ↔ ∃ a, x = .ok a ∧ f a = .ok b := by
  cases x <;> simp [bind, Except.bind]

def ensure (c : Prop) [Decidable c] (e : ε) : Except ε Unit := if c then .ok () else .error e

theorem ensure_eq_ok {c : Prop} [Decidable c] {e : ε} {u : Unit} : ensure c e = .ok u ↔ c := by
  unfold ensure
  split_ifs with hc <;> simp [hc]

theorem toOption_eq_some {a : α} : x.toOption = some a ↔ x = .ok a := by
  cases x <;> simp [Except.toOption]

theorem mem_mapM_eq_ok {xs : List α} {ys : List β} {y : β} (h : xs.mapM f = .ok ys) : y ∈ ys ↔ ∃ x ∈ xs, f x = .ok y := by
  induction xs generalizing ys with
  | nil =>
    obtain rfl := Except.ok.inj h
    simp
  | cons head rest ih =>
    rw [List.mapM_cons] at h
    obtain ⟨first, hfirst, h⟩ := bind_eq_ok.1 h
    obtain ⟨others, hothers, h⟩ := bind_eq_ok.1 h
    obtain rfl := Except.ok.inj h
    rw [List.mem_cons, ih hothers, List.exists_mem_cons_iff, hfirst, Except.ok.injEq, eq_comm]

/-- A loop that does not raise keeps an invariant over the items done so far. -/
theorem foldlM_eq_ok {step : β → α → Except ε β} {xs : List α} {init result : β} (inv : List α → β → Prop)
    (hstart : inv [] init)
    (hstep : ∀ done x acc acc', inv done acc → step acc x = .ok acc' → inv (done ++ [x]) acc')
    (h : xs.foldlM step init = .ok result) : inv xs result := by
  suffices hrun : ∀ done rest acc, inv done acc → rest.foldlM step acc = .ok result → inv (done ++ rest) result from
    hrun [] xs init hstart h
  intro done rest
  induction rest generalizing done with
  | nil =>
    intro acc hinv h
    obtain rfl := Except.ok.inj h
    simpa using hinv
  | cons x rest ih =>
    intro acc hinv h
    rw [List.foldlM_cons] at h
    obtain ⟨acc', hx, h⟩ := bind_eq_ok.1 h
    simpa using ih (done ++ [x]) acc' (hstep done x acc acc' hinv hx) h

end Raising

end Python
