import Mathlib.Algebra.Group.Int.Defs
import Mathlib.Algebra.Group.Nat.Defs
import Mathlib.Data.List.DropRight
import Mathlib.Data.List.Infix
import Mathlib.Tactic.SplitIfs
/-!
# Python text

The string operations the modelled code calls, on the characters of a string. Case folding is the ASCII one: the
code that uses `lower` only compares a folded text with ASCII words. Outside ASCII, Python folds the Kelvin sign
to a `k`, and the dotted capital I to an `i` with a combining dot after it, and none of these words has either.
-/

namespace Python

variable (s : String)

def lower : String := String.ofList (s.toList.map Char.toLower)

/-- The characters `str.isspace` accepts, which are those `str.strip` removes. -/
def isSpace (c : Char) : Bool :=
  let n := c.toNat
  (9 ≤ n && n ≤ 13) || (28 ≤ n && n ≤ 32) || n == 0x85 || n == 0xa0 || n == 0x1680 ||
    (0x2000 ≤ n && n ≤ 0x200a) || n == 0x2028 || n == 0x2029 || n == 0x202f || n == 0x205f ||
    n == 0x3000

variable (cs : List Char)

def rstripChars : List Char := (cs.reverse.dropWhile isSpace).reverse

def stripChars : List Char := rstripChars (cs.dropWhile isSpace)

def rstrip : String := String.ofList (rstripChars s.toList)

def strip : String := String.ofList (stripChars s.toList)

variable {c : Char}

theorem rstripChars_cons_of_not_isSpace (h : isSpace c = false) :
    rstripChars (c :: cs) = c :: rstripChars cs := by
  simp only [rstripChars, List.reverse_cons, List.dropWhile_append]
  split
  · rename_i hempty
    simp [List.isEmpty_iff.mp hempty, h]
  · simp

/-- Evaluated on the list alone, however many values its type has. -/
theorem forall_mem_of_all {α : Type} {p : α → Prop} [DecidablePred p] {items : List α}
    (h : (items.all fun a => decide (p a)) = true) :
    ∀ a ∈ items, p a := by
  simpa using h

theorem rstripChars_initial : rstripChars cs <+: cs := List.rdropWhile_prefix isSpace cs

theorem rstripChars_append_of_isSpace {spaces : List Char} (h : ∀ c ∈ spaces, isSpace c = true) :
    rstripChars (cs ++ spaces) = rstripChars cs := by
  have hreverse : ∀ c ∈ spaces.reverse, isSpace c = true := fun c hc => h c (List.mem_reverse.1 hc)
  rw [rstripChars, List.reverse_append, List.dropWhile_append_of_pos hreverse, rstripChars]

theorem rstripChars_of_last (init : List Char) {last : Char} (h : isSpace last = false) :
    rstripChars (init ++ [last]) = init ++ [last] :=
  List.rdropWhile_concat_neg isSpace init last (by simp [h])

theorem stripChars_stripChars : stripChars (stripChars cs) = stripChars cs := by
  unfold stripChars
  cases hdropped : cs.dropWhile isSpace with
  | nil => rfl
  | cons c rest =>
    have hc : isSpace c = false := by
      have := List.head?_dropWhile_not isSpace cs
      simpa [hdropped] using this
    rw [rstripChars_cons_of_not_isSpace rest hc, List.dropWhile_cons_of_neg (by simp [hc]),
      rstripChars_cons_of_not_isSpace _ hc]
    exact congrArg (c :: ·) (List.rdropWhile_idempotent isSpace rest)

@[simp] theorem strip_strip : strip (strip s) = strip s := by
  simp [strip, stripChars_stripChars]

theorem mem_of_mem_stripChars {cs : List Char} (h : c ∈ stripChars cs) : c ∈ cs := by
  have hdropped : c ∈ cs.dropWhile isSpace := by
    simpa using (List.dropWhile_suffix isSpace).subset (List.mem_reverse.mp h)
  exact (List.dropWhile_suffix isSpace).subset hdropped

theorem mem_dropWhile_isSpace {cs : List Char} (h : c ∈ cs) (hc : isSpace c = false) :
    c ∈ cs.dropWhile isSpace := by
  induction cs with
  | nil => exact h
  | cons d cs ih =>
    by_cases hd : isSpace d = true
    · rw [List.dropWhile_cons_of_pos hd]
      rcases List.mem_cons.mp h with rfl | hmem
      · exact absurd hd (by simp [hc])
      · exact ih hmem
    · rwa [List.dropWhile_cons_of_neg hd]

theorem mem_stripChars {cs : List Char} (h : c ∈ cs) (hc : isSpace c = false) : c ∈ stripChars cs :=
  List.mem_reverse.mpr (mem_dropWhile_isSpace (List.mem_reverse.mpr (mem_dropWhile_isSpace h hc)) hc)

theorem strip_of_forall_not_isSpace {s : String} (h : ∀ c ∈ s.toList, isSpace c = false) : strip s = s := by
  have hdrop : ∀ cs : List Char, (∀ c ∈ cs, isSpace c = false) → cs.dropWhile isSpace = cs := by
    intro cs hcs
    cases cs with
    | nil => rfl
    | cons c rest => exact List.dropWhile_cons_of_neg (by simp [hcs c List.mem_cons_self])
  unfold strip stripChars rstripChars
  rw [hdrop _ h, hdrop _ (fun c hc => h c (List.mem_reverse.mp hc)), List.reverse_reverse, String.ofList_toList]

theorem isSpace_of_graphic (hlow : 32 < c.toNat) (hhigh : c.toNat < 127) : isSpace c = false := by
  simp only [isSpace, Bool.or_eq_false_iff, Bool.and_eq_false_iff, decide_eq_false_iff_not, beq_eq_false_iff_ne]
  omega

theorem strip_of_ends {s : String} {c d : Char} {rest init : List Char} (hhead : s.toList = c :: rest)
    (hc : isSpace c = false) (hlast : s.toList = init ++ [d]) (hd : isSpace d = false) : strip s = s := by
  have hfront : s.toList.dropWhile isSpace = s.toList := by
    rw [hhead]
    exact List.dropWhile_cons_of_neg (by simp [hc])
  have hback : s.toList.reverse.dropWhile isSpace = s.toList.reverse := by
    rw [hlast, List.reverse_append]
    exact List.dropWhile_cons_of_neg (by simp [hd])
  unfold strip stripChars rstripChars
  rw [hfront, hback, List.reverse_reverse, String.ofList_toList]

theorem suffix_stripChars {before middle : List Char} {c d : Char} (hc : isSpace c = false) (hd : isSpace d = false) :
    c :: middle ++ [d] <:+ stripChars (before ++ (c :: middle ++ [d])) := by
  have hdrop : (before ++ (c :: middle ++ [d])).dropWhile isSpace
      = before.dropWhile isSpace ++ (c :: middle) ++ [d] := by
    rw [List.dropWhile_append]
    split_ifs with hempty
    · rw [List.isEmpty_iff.1 hempty, List.cons_append, List.dropWhile_cons_of_neg (by simp [hc])]
      rfl
    · rw [List.append_assoc]
  have hstrip : stripChars (before ++ (c :: middle ++ [d])) = before.dropWhile isSpace ++ (c :: middle) ++ [d] := by
    rw [stripChars, hdrop]
    exact List.rdropWhile_concat_neg _ _ _ (by simp [hd])
  rw [hstrip, List.append_assoc]
  exact List.suffix_append _ _

/-- `s.rstrip(c)` for one character `c`. -/
def rstripOf (c : Char) (s : String) : String :=
  String.ofList (s.toList.reverse.dropWhile (· == c)).reverse

/-- `s.split(c)[0]` for one character `c`. -/
def splitHead (c : Char) (s : String) : String := String.ofList (s.toList.takeWhile (· ≠ c))

theorem splitHead_of_not_mem {s : String} (h : c ∉ s.toList) : splitHead c s = s := by
  have htake : s.toList.takeWhile (· ≠ c) = s.toList :=
    List.takeWhile_eq_self_iff.mpr fun d hd => by simpa using fun hdc : d = c => h (hdc ▸ hd)
  unfold splitHead
  rw [htake, String.ofList_toList]

theorem not_mem_splitHead (c : Char) (s : String) : c ∉ (splitHead c s).toList := by
  unfold splitHead
  rw [String.toList_ofList]
  intro hmem
  simpa using List.mem_takeWhile_imp hmem

theorem splitHead_strip_splitHead (c : Char) (s : String) :
    splitHead c (strip (splitHead c s)) = strip (splitHead c s) := by
  apply splitHead_of_not_mem
  unfold strip
  rw [String.toList_ofList]
  intro hmem
  exact not_mem_splitHead c s (mem_of_mem_stripChars hmem)

/-- A text is cut uniquely before the first occurrence of a character. -/
theorem cut_unique {xs ys rest rest' : List Char} (hxs : c ∉ xs) (hys : c ∉ ys)
    (h : xs ++ c :: rest = ys ++ c :: rest') : xs = ys ∧ rest = rest' := by
  induction xs generalizing ys with
  | nil =>
    cases ys with
    | nil => exact ⟨rfl, (List.cons.inj h).2⟩
    | cons y ys => exact absurd (by rw [(List.cons.inj h).1]; exact List.mem_cons_self) hys
  | cons x xs ih =>
    cases ys with
    | nil => exact absurd (by rw [← (List.cons.inj h).1]; exact List.mem_cons_self) hxs
    | cons y ys =>
      obtain ⟨hhead, htail⟩ := List.cons.inj h
      obtain ⟨hsame, hrest⟩ := ih (fun hmem => hxs (List.mem_cons_of_mem _ hmem))
        (fun hmem => hys (List.mem_cons_of_mem _ hmem)) htail
      exact ⟨by rw [hhead, hsame], hrest⟩

def contains (needle s : String) : Bool := s.toList.tails.any needle.toList.isPrefixOf

theorem contains_iff_infix {needle s : String} : contains needle s = true ↔ needle.toList <:+: s.toList := by
  unfold contains
  rw [List.any_eq_true, List.infix_iff_prefix_suffix]
  refine exists_congr fun tail => ?_
  rw [List.mem_tails, List.isPrefixOf_iff_prefix, and_comm]

def endsWith (suffix s : String) : Bool := suffix.toList.isSuffixOf s.toList

/-- The characters `str.splitlines` splits at, apart from the pair `\r\n`. -/
def isLineBreak (c : Char) : Bool :=
  let n := c.toNat
  (10 ≤ n && n ≤ 13) || (28 ≤ n && n ≤ 30) || n == 0x85 || n == 0x2028 || n == 0x2029

/-- `s.splitlines()`, with `current` the reversed line being read. No line follows a final break. -/
def splitLinesFrom (current : List Char) : List Char → List (List Char)
  | [] => if current.isEmpty then [] else [current.reverse]
  | '\r' :: '\n' :: rest => current.reverse :: splitLinesFrom [] rest
  | c :: rest =>
    if isLineBreak c then current.reverse :: splitLinesFrom [] rest
    else splitLinesFrom (c :: current) rest

def splitLines : List String := (splitLinesFrom [] s.toList).map String.ofList

/-! ### Numbers -/

theorem toString_isDigit {n : Nat} (h : c ∈ (toString n).toList) : c.isDigit = true := by
  rw [Nat.toString_eq_repr, Nat.toList_repr] at h
  exact Nat.isDigit_of_mem_toDigits (by decide) (by decide) h

variable (n : Nat)

theorem toString_ne_nil : (toString n).toList ≠ [] := by
  rw [Nat.toString_eq_repr, Nat.toList_repr]
  exact Nat.toDigits_ne_nil

theorem toString_toList_inj {n m : Nat} (h : (toString n).toList = (toString m).toList) : n = m := by
  rw [Nat.toString_eq_repr, Nat.toString_eq_repr, Nat.toList_repr, Nat.toList_repr] at h
  have hread := congrArg (fun digits => Nat.ofDigitChars 10 digits 0) h
  simpa [Nat.ofDigitChars_toDigits] using hread

theorem toString_inj_of_nonneg {a b : Int} (ha : 0 ≤ a) (hb : 0 ≤ b) (h : toString a = toString b) : a = b := by
  obtain ⟨n, rfl⟩ := Int.eq_ofNat_of_zero_le ha
  obtain ⟨m, rfl⟩ := Int.eq_ofNat_of_zero_le hb
  exact congrArg Int.ofNat (toString_toList_inj (congrArg String.toList h))

theorem toList_toString_negSucc : (toString (Int.negSucc n)).toList = '-' :: (toString (n + 1)).toList :=
  String.toList_append

theorem isDigit_or_sign_of_toString {n : Int} (h : c ∈ (toString n).toList) : c.isDigit = true ∨ c = '-' := by
  cases n with
  | ofNat n => exact .inl (toString_isDigit (n := n) h)
  | negSucc n =>
    rw [toList_toString_negSucc, List.mem_cons] at h
    exact h.symm.imp_left toString_isDigit

theorem strip_toString (n : Int) : strip (toString n) = toString n := by
  apply strip_of_forall_not_isSpace
  intro c hc
  rcases isDigit_or_sign_of_toString hc with hdigit | rfl
  · have hrange : 48 ≤ c.toNat ∧ c.toNat ≤ 57 := by
      simpa [Char.isDigit, UInt32.le_iff_toNat_le] using hdigit
    exact isSpace_of_graphic (by omega) (by omega)
  · rfl

theorem toString_ne_empty (n : Int) : toString n ≠ "" := by
  cases n with
  | ofNat n =>
    intro hempty
    exact toString_ne_nil n (congrArg String.toList hempty)
  | negSucc n =>
    intro hempty
    have hnil := congrArg String.toList hempty
    rw [toList_toString_negSucc] at hnil
    cases hnil

/-! ### Quoting -/

def utf8 (text : List Char) : List UInt8 := text.flatMap String.utf8EncodeChar

/-- Letters, digits and `_.-~`. -/
def unreserved (c : Char) : Bool := c.isAlphanum || c == '_' || c == '.' || c == '-' || c == '~'

def quoteByte (b : UInt8) : List Char :=
  let digit := fun n => "0123456789ABCDEF".toList.getD n '0'
  if unreserved (Char.ofNat b.toNat) then [Char.ofNat b.toNat]
  else ['%', digit (b.toNat / 16), digit (b.toNat % 16)]

/-- `quote(text, safe="")`. -/
def quote (text : List Char) : List Char := (utf8 text).flatMap quoteByte

/-- A text that `http.client` can send as the value of a header. -/
def isLatin1 (s : String) : Bool := s.toList.all (·.toNat < 256)

/-! ### Splitting -/

/-- `s.split(c)`. -/
def split (c : Char) (s : String) : List String := (s.toList.splitOn c).map String.ofList

theorem split_intercalate {parts : List String} (hne : parts ≠ []) (h : ∀ part ∈ parts, c ∉ part.toList) :
    split c (String.intercalate (String.singleton c) parts) = parts := by
  have hparts : ∀ cs ∈ parts.map String.toList, c ∉ cs := by
    intro cs hcs
    obtain ⟨part, hpart, rfl⟩ := List.mem_map.1 hcs
    exact h part hpart
  rw [split, String.toList_intercalate, String.toList_singleton, List.splitOn_intercalate c hparts (by simpa using hne)]
  simp

@[simp] theorem ofDigitChars_toString : Nat.ofDigitChars 10 (toString n).toList 0 = n := by
  rw [Nat.toString_eq_repr, Nat.toList_repr, Nat.ofDigitChars_toDigits] <;> decide

/-- `n / d` rounded to the nearest integer, ties to the even one, for a positive `d`. -/
def roundHalfEven (n : Int) (d : Nat) : Int :=
  let quotient := n / d
  let remainder := n % d
  if 2 * remainder < d then quotient
  else if (d : Int) < 2 * remainder then quotient + 1
  else if quotient % 2 = 0 then quotient
  else quotient + 1

/-- A binary64 value: a finite one as an exact fraction with a positive denominator. -/
inductive Double where
  | finite (num : Int) (den : Nat)
  | infinite
  | nan

/-- The exponent `e` with `2 ^ e ≤ a / d < 2 ^ (e + 1)`, for positive `a` and `d`. -/
def binaryExponent (a d : Nat) : Int :=
  let e : Int := a.log2 - d.log2
  if d * 2 ^ e.toNat ≤ a * 2 ^ (-e).toNat then e else e - 1

/-- The binary64 value nearest to `n / d`, ties to even: 53 significant bits, none below `2 ^ -1074`,
and infinite from `2 ^ 1024` on. -/
def nearestDouble (n : Int) (d : Nat) : Double :=
  if n = 0 then .finite 0 1
  else
    let shift : Int := min (52 - binaryExponent n.natAbs d) 1074
    let mantissa := roundHalfEven (n.natAbs * 2 ^ shift.toNat) (d * 2 ^ (-shift).toNat)
    let num := mantissa * 2 ^ (-shift).toNat
    let den : Nat := 2 ^ shift.toNat
    if (2 : Int) ^ 1024 * den ≤ num then .infinite
    else .finite (if n < 0 then -num else num) den

theorem nearestDouble_ne_nan (n : Int) (d : Nat) : nearestDouble n d ≠ .nan := by
  unfold nearestDouble
  dsimp only
  split_ifs <;> simp

/-- The zeros of the decimal digits outside ASCII, in Unicode 15. Nine more digits follow each. -/
def decimalZeros : List Nat :=
  [0x660, 0x6f0, 0x7c0, 0x966, 0x9e6, 0xa66, 0xae6, 0xb66, 0xbe6, 0xc66, 0xce6, 0xd66, 0xde6, 0xe50,
    0xed0, 0xf20, 0x1040, 0x1090, 0x17e0, 0x1810, 0x1946, 0x19d0, 0x1a80, 0x1a90, 0x1b50, 0x1bb0,
    0x1c40, 0x1c50, 0xa620, 0xa8d0, 0xa900, 0xa9d0, 0xa9f0, 0xaa50, 0xabf0, 0xff10, 0x104a0, 0x10d30,
    0x11066, 0x110f0, 0x11136, 0x111d0, 0x112f0, 0x11450, 0x114d0, 0x11650, 0x116c0, 0x11730, 0x118e0,
    0x11950, 0x11c50, 0x11d50, 0x11da0, 0x11f50, 0x16a60, 0x16ac0, 0x16b50, 0x1d7ce, 0x1d7d8, 0x1d7e2,
    0x1d7ec, 0x1d7f6, 0x1e140, 0x1e2f0, 0x1e4f0, 0x1e950, 0x1fbf0]

/-- A decimal digit of any script as its ASCII digit, which is how `int` and `float` read it. -/
def asciiDigit (c : Char) : Char :=
  let n := c.toNat
  if n < 128 then c
  else match decimalZeros.find? fun start => start ≤ n && n < start + 10 with
    | some start => Char.ofNat ('0'.toNat + (n - start))
    | none => c

/-- `\d` of a text pattern. -/
def isDecimal (c : Char) : Bool := (asciiDigit c).isDigit

/-- The digits of a digit part, with single underscores allowed between two digits, and what follows. -/
def digitPart : List Char → List Char × List Char
  | [] => ([], [])
  | [c] => if c.isDigit then ([c], []) else ([], [c])
  | c :: d :: rest =>
    if !c.isDigit then ([], c :: d :: rest)
    else if d.isDigit then
      let (digits, tail) := digitPart (d :: rest)
      (c :: digits, tail)
    else match d, rest with
      | '_', e :: rest' =>
        if e.isDigit then
          let (digits, tail) := digitPart (e :: rest')
          (c :: digits, tail)
        else ([c], '_' :: e :: rest')
      | _, _ => ([c], d :: rest)

def natOfDigits (digits : List Char) : Nat :=
  digits.foldl (fun n c => 10 * n + (c.toNat - '0'.toNat)) 0

def signed : List Char → Bool × List Char
  | '-' :: rest => (true, rest)
  | '+' :: rest => (false, rest)
  | cs => (false, cs)

/-- `int(s)`; `none` for the texts it refuses with a `ValueError`, those of more than 4300 digits among them. -/
def intLiteral : Option Int :=
  let (negative, cs) := signed ((stripChars s.toList).map asciiDigit)
  match digitPart cs with
  | ([], _) => none
  | (digits, []) =>
    if 4300 < digits.length then none
    else some (if negative then -(natOfDigits digits : Int) else natOfDigits digits)
  | (_, _ :: _) => none

theorem asciiDigit_of_isDigit (h : c.isDigit = true) : asciiDigit c = c := by
  have hsmall : c.toNat < 128 := by
    simp only [Char.isDigit, Bool.and_eq_true, decide_eq_true_eq] at h
    have hle : c.toNat ≤ 57 := h.2
    omega
  unfold asciiDigit
  dsimp only
  rw [if_pos hsmall]

theorem digitPart_of_digits {cs : List Char} (h : ∀ c ∈ cs, c.isDigit = true) : digitPart cs = (cs, []) := by
  induction cs with
  | nil => rfl
  | cons c rest ih =>
    obtain ⟨hc, hrest⟩ := List.forall_mem_cons.1 h
    cases rest with
    | nil => simp [digitPart, hc]
    | cons d rest =>
      have hd := hrest d List.mem_cons_self
      unfold digitPart
      simp only [hc, hd, ih hrest, Bool.not_true, Bool.false_eq_true, if_false, if_true]

theorem natOfDigits_toString : natOfDigits (toString n).toList = n := ofDigitChars_toString n

/-- `int(str(n))`, of which only the length can be refused. -/
theorem intLiteral_toString :
    intLiteral (toString n) = if 4300 < (toString n).toList.length then none else some (n : Int) := by
  have hdigits : ∀ c ∈ (toString n).toList, c.isDigit = true := fun _ => toString_isDigit
  have hstrip : stripChars (toString n).toList = (toString n).toList := by
    have h : strip (toString n) = toString n := strip_toString n
    simpa only [strip, String.toList_ofList] using congrArg String.toList h
  have hascii : (toString n).toList.map asciiDigit = (toString n).toList := by
    rw [List.map_congr_left fun c hc => asciiDigit_of_isDigit (hdigits c hc), List.map_id']
  unfold intLiteral
  rw [hstrip, hascii]
  cases hcs : (toString n).toList with
  | nil => exact absurd hcs (toString_ne_nil n)
  | cons c rest =>
    rw [hcs] at hdigits
    have hsigned : signed (c :: rest) = (false, c :: rest) := by
      have hc := hdigits c List.mem_cons_self
      unfold signed
      split
      · rename_i heq
        obtain ⟨rfl, -⟩ := List.cons.inj heq
        cases hc
      · rename_i heq
        obtain ⟨rfl, -⟩ := List.cons.inj heq
        cases hc
      · rfl
    rw [hsigned]
    dsimp only
    rw [digitPart_of_digits hdigits]
    simp only [← hcs, natOfDigits_toString]
    rfl

/-- `int(str(n))` of any integer, where it is not refused. -/
theorem eq_of_intLiteral_toString {n m : Int} (h : intLiteral (toString n) = some m) : m = n := by
  cases n with
  | ofNat n =>
    have hread : intLiteral (toString (Int.ofNat n)) = if 4300 < (toString n).toList.length then none else some (n : Int) :=
      intLiteral_toString n
    rw [hread, Option.ite_none_left_eq_some] at h
    exact (Option.some.inj h.2).symm
  | negSucc n =>
    have hdigits : ∀ c ∈ (toString (n + 1)).toList, c.isDigit = true := fun _ => toString_isDigit
    have hstrip : stripChars (toString (Int.negSucc n)).toList = (toString (Int.negSucc n)).toList := by
      have h := strip_toString (Int.negSucc n)
      simpa only [strip, String.toList_ofList] using congrArg String.toList h
    have hascii : ('-' :: (toString (n + 1)).toList).map asciiDigit = '-' :: (toString (n + 1)).toList := by
      rw [List.map_cons, List.map_congr_left fun c hc => asciiDigit_of_isDigit (hdigits c hc), List.map_id']
      rfl
    unfold intLiteral at h
    rw [hstrip, toList_toString_negSucc, hascii, signed] at h
    dsimp only at h
    rw [digitPart_of_digits hdigits] at h
    split at h
    · cases h
    · rename_i digits _ heq
      obtain ⟨rfl, -⟩ := Prod.mk.inj heq
      rw [Option.ite_none_left_eq_some] at h
      rw [← Option.some.inj h.2, if_pos rfl, natOfDigits_toString]
      rfl
    · rename_i heq
      cases (Prod.mk.inj heq).2

/-- The exponent of a float literal: empty, or `e` with an optionally signed digit part. -/
def exponentPart : List Char → Option Int
  | [] => some 0
  | c :: cs =>
    if c.toLower != 'e' then none
    else
      let (negative, rest) := signed cs
      match digitPart rest with
      | (d :: digits, []) =>
        some (if negative then -(natOfDigits (d :: digits) : Int) else natOfDigits (d :: digits))
      | _ => none

/-- `float(s)`; `none` for the texts it refuses with a `ValueError`. -/
def floatLiteral : Option Double :=
  let (negative, cs) := signed ((stripChars s.toList).map asciiDigit)
  let word := lower (String.ofList cs)
  if word = "inf" ∨ word = "infinity" then some .infinite
  else if word = "nan" then some .nan
  else
    let (whole, afterWhole) := digitPart cs
    let (fraction, tail) := match afterWhole with
      | '.' :: rest => digitPart rest
      | rest => ([], rest)
    if whole.isEmpty && fraction.isEmpty then none
    else do
      let exponent ← exponentPart tail
      let mantissa : Int := natOfDigits (whole ++ fraction)
      let scale := exponent - fraction.length
      let value := nearestDouble (mantissa * 10 ^ scale.toNat) (10 ^ (-scale).toNat)
      return match value with
        | .finite num den => .finite (if negative then -num else num) den
        | other => other

end Python
