import Mathlib.Data.List.Basic
import Mathlib.Tactic.SplitIfs
/-!
# Regular expressions that backtrack

The patterns of Python's `re` as far as they are needed here. A pattern yields the positions where a match may
end, in the order in which the backtracking search tries them, so the match is the first of them. A possessive
run or an atomic group keeps its own first position only. Characters are tested by predicates, and a pattern
that ignores case says so in these.
-/

namespace Regex

/-- A position in a text: the characters before it, the last one first, those after it, and the groups captured
so far. -/
structure Cursor where
  before : List Char
  after : List Char
  groups : List (String × List Char)
deriving DecidableEq

inductive Pattern where
  | empty
  | one (accepts : Char → Bool)
  | seq (first second : Pattern)
  | alt (first second : Pattern)
  /-- At least `least` times and at most `most`, as often as possible. -/
  | times (body : Pattern) (least : Nat) (most : Option Nat)
  | atomic (body : Pattern)
  | capture (name : String) (body : Pattern)
  /-- No text, but a test of the characters on both sides. -/
  | check (holds : Option Char → Option Char → Bool)

namespace Pattern

def cat : List Pattern → Pattern
  | [] => empty
  | [pattern] => pattern
  | pattern :: rest => seq pattern (cat rest)

def any : List Pattern → Pattern
  | [] => one fun _ => false
  | [pattern] => pattern
  | pattern :: rest => alt pattern (any rest)

def optional (body : Pattern) : Pattern := times body 0 (some 1)

def star (accepts : Char → Bool) : Pattern := times (one accepts) 0 none

def plus (accepts : Char → Bool) : Pattern := times (one accepts) 1 none

def notBehind (accepts : Char → Bool) : Pattern := check fun last _ => !last.any accepts

def boundary (isWord : Char → Bool) : Pattern := check fun last next => last.any isWord != next.any isWord

/-! Letters without regard to case, as `re.IGNORECASE` compares them: a long s is an s, the Kelvin sign is a k, and both
Turkish letters are an i. -/

def sameLetter (letter c : Char) : Bool :=
  c == letter || c == letter.toUpper || (letter == 'i' && (c.toNat == 0x130 || c.toNat == 0x131)) ||
    (letter == 's' && c.toNat == 0x17f) || (letter == 'k' && c.toNat == 0x212a)

def anyLetter (c : Char) : Bool :=
  c.isAlpha || c.toNat == 0x130 || c.toNat == 0x131 || c.toNat == 0x17f || c.toNat == 0x212a

/-- A text in lower case, in any case. -/
def anyCase (text : String) : Pattern := cat (text.toList.map fun letter => one (sameLetter letter))

def literal (text : String) : Pattern := cat (text.toList.map fun c => one (· == c))

def oneOf (characters : String) : Char → Bool := characters.toList.contains

end Pattern

def exactly (step : Cursor → List Cursor) : Nat → Cursor → List Cursor
  | 0, cursor => [cursor]
  | n + 1, cursor => (step cursor).flatMap (exactly step n)

def upTo (step : Cursor → List Cursor) : Nat → Cursor → List Cursor
  | 0, cursor => [cursor]
  | n + 1, cursor => (step cursor).flatMap (upTo step n) ++ [cursor]

/-- The text from one position to a later one. -/
def Cursor.upTo (start stop : Cursor) : List Char := start.after.take (start.after.length - stop.after.length)

def Cursor.skip (cursor : Cursor) (text : List Char) : Cursor :=
  { cursor with before := text.reverse ++ cursor.before, after := cursor.after.drop text.length }

/-- The positions where a match from here may end, the preferred one first. -/
def Pattern.ends : Pattern → Cursor → List Cursor
  | .empty => fun cursor => [cursor]
  | .one accepts => fun cursor => match cursor.after with
      | [] => []
      | c :: rest => if accepts c then [{ cursor with before := c :: cursor.before, after := rest }] else []
  | .seq first second => fun cursor => (first.ends cursor).flatMap second.ends
  | .alt first second => fun cursor => first.ends cursor ++ second.ends cursor
  | .times body least most => fun cursor => (exactly body.ends least cursor).flatMap fun later =>
    Regex.upTo body.ends (match most with
      | none => later.after.length
      | some most => most - least) later
  | .atomic body => fun cursor => (body.ends cursor).take 1
  | .capture name body => fun cursor => (body.ends cursor).map fun stop =>
    { stop with groups := (name, cursor.upTo stop) :: stop.groups }
  | .check holds => fun cursor => if holds cursor.before.head? cursor.after.head? then [cursor] else []

/-! ### What a match reads -/

/-- The text lies between the two positions. -/
structure Reads (start : Cursor) (text : List Char) (stop : Cursor) : Prop where
  after : start.after = text ++ stop.after
  before : stop.before = text.reverse ++ start.before

theorem Reads.refl (cursor : Cursor) : Reads cursor [] cursor := ⟨rfl, rfl⟩

theorem Reads.trans {start middle stop : Cursor} {first second : List Char} (hfirst : Reads start first middle)
    (hsecond : Reads middle second stop) : Reads start (first ++ second) stop := by
  constructor
  · rw [hfirst.after, hsecond.after, List.append_assoc]
  · rw [hsecond.before, hfirst.before, List.reverse_append, List.append_assoc]

theorem Reads.upTo {start stop : Cursor} {text : List Char} (h : Reads start text stop) : start.upTo stop = text := by
  rw [Cursor.upTo, h.after, List.length_append, Nat.add_sub_cancel, List.take_left]

/-- The characters that the tests of a pattern let a match read. -/
def Pattern.mayRead : Pattern → Char → Bool
  | .empty, _ => false
  | .one accepts, c => accepts c
  | .seq first second, c => first.mayRead c || second.mayRead c
  | .alt first second, c => first.mayRead c || second.mayRead c
  | .times body _ _, c => body.mayRead c
  | .atomic body, c => body.mayRead c
  | .capture _ body, c => body.mayRead c
  | .check _, _ => false

section Ends

variable {cursor stop : Cursor}

theorem mem_ends_seq {first second : Pattern} :
    stop ∈ (Pattern.seq first second).ends cursor ↔ ∃ middle ∈ first.ends cursor, stop ∈ second.ends middle :=
  List.mem_flatMap

theorem mem_ends_alt {first second : Pattern} :
    stop ∈ (Pattern.alt first second).ends cursor ↔ stop ∈ first.ends cursor ∨ stop ∈ second.ends cursor :=
  List.mem_append

theorem mem_ends_atomic {body : Pattern} (h : stop ∈ (Pattern.atomic body).ends cursor) : stop ∈ body.ends cursor :=
  List.mem_of_mem_take h

variable {accepts : Char → Bool}

theorem mem_ends_one (h : stop ∈ (Pattern.one accepts).ends cursor) :
    ∃ c, accepts c = true ∧ Reads cursor [c] stop ∧ stop.groups = cursor.groups := by
  unfold Pattern.ends at h
  cases hafter : cursor.after with
  | nil =>
    rw [hafter] at h
    cases h
  | cons c rest =>
    rw [hafter] at h
    dsimp only at h
    split_ifs at h with haccepts
    · obtain rfl := List.mem_singleton.1 h
      exact ⟨c, haccepts, ⟨hafter, rfl⟩, rfl⟩
    · cases h

theorem exists_reads_of_mem_exactly {step : Cursor → List Cursor} {P : Char → Prop}
    (hstep : ∀ cursor, ∀ stop ∈ step cursor, ∃ text, Reads cursor text stop ∧ ∀ c ∈ text, P c) {n : Nat}
    (h : stop ∈ exactly step n cursor) : ∃ text, Reads cursor text stop ∧ ∀ c ∈ text, P c := by
  induction n generalizing cursor with
  | zero =>
    obtain rfl := List.mem_singleton.1 h
    exact ⟨[], Reads.refl _, fun c hc => by cases hc⟩
  | succ n ih =>
    obtain ⟨middle, hmiddle, hstop⟩ := List.mem_flatMap.1 h
    obtain ⟨first, hfirst, hP⟩ := hstep cursor middle hmiddle
    obtain ⟨second, hsecond, hQ⟩ := ih hstop
    exact ⟨first ++ second, hfirst.trans hsecond, List.forall_mem_append.2 ⟨hP, hQ⟩⟩

theorem exists_mem_exactly_of_mem_upTo {step : Cursor → List Cursor} {n : Nat} (h : stop ∈ upTo step n cursor) :
    ∃ m, stop ∈ exactly step m cursor := by
  induction n generalizing cursor with
  | zero => exact ⟨0, h⟩
  | succ n ih =>
    rcases List.mem_append.1 h with hmore | hless
    · obtain ⟨middle, hmiddle, hstop⟩ := List.mem_flatMap.1 hmore
      obtain ⟨m, hm⟩ := ih hstop
      exact ⟨m + 1, List.mem_flatMap.2 ⟨middle, hmiddle, hm⟩⟩
    · exact ⟨0, hless⟩

/-- A match reads a text of characters that its pattern may read. -/
theorem exists_reads_of_mem_ends {pattern : Pattern} (h : stop ∈ pattern.ends cursor) :
    ∃ text, Reads cursor text stop ∧ ∀ c ∈ text, pattern.mayRead c = true := by
  induction pattern generalizing cursor stop with
  | empty =>
    obtain rfl := List.mem_singleton.1 h
    exact ⟨[], Reads.refl _, fun c hc => by cases hc⟩
  | one accepts =>
    obtain ⟨c, haccepts, hreads, -⟩ := mem_ends_one h
    refine ⟨[c], hreads, fun d hd => ?_⟩
    rw [List.mem_singleton.1 hd]
    exact haccepts
  | seq first second ihfirst ihsecond =>
    obtain ⟨middle, hmiddle, hstop⟩ := mem_ends_seq.1 h
    obtain ⟨text, hreads, hmay⟩ := ihfirst hmiddle
    obtain ⟨text', hreads', hmay'⟩ := ihsecond hstop
    refine ⟨text ++ text', hreads.trans hreads', fun c hc => Bool.or_eq_true_iff.2 ?_⟩
    exact (List.mem_append.1 hc).imp (hmay c) (hmay' c)
  | alt first second ihfirst ihsecond =>
    rcases mem_ends_alt.1 h with h | h
    · obtain ⟨text, hreads, hmay⟩ := ihfirst h
      exact ⟨text, hreads, fun c hc => Bool.or_eq_true_iff.2 (.inl (hmay c hc))⟩
    · obtain ⟨text, hreads, hmay⟩ := ihsecond h
      exact ⟨text, hreads, fun c hc => Bool.or_eq_true_iff.2 (.inr (hmay c hc))⟩
  | times body least most ih =>
    obtain ⟨middle, hmiddle, hstop⟩ := List.mem_flatMap.1 h
    obtain ⟨text, hreads, hmay⟩ := exists_reads_of_mem_exactly (fun _ _ => ih) hmiddle
    obtain ⟨m, hstop⟩ := exists_mem_exactly_of_mem_upTo hstop
    obtain ⟨text', hreads', hmay'⟩ := exists_reads_of_mem_exactly (fun _ _ => ih) hstop
    exact ⟨text ++ text', hreads.trans hreads', List.forall_mem_append.2 ⟨hmay, hmay'⟩⟩
  | atomic body ih => exact ih (mem_ends_atomic h)
  | capture name body ih =>
    obtain ⟨inner, hinner, rfl⟩ := List.mem_map.1 h
    obtain ⟨text, hreads, hmay⟩ := ih hinner
    exact ⟨text, ⟨hreads.after, hreads.before⟩, hmay⟩
  | check holds =>
    unfold Pattern.ends at h
    split_ifs at h
    · obtain rfl := List.mem_singleton.1 h
      exact ⟨[], Reads.refl _, fun c hc => by cases hc⟩
    · cases h

theorem Reads.unique {first second : List Char} (hfirst : Reads cursor first stop) (hsecond : Reads cursor second stop) :
    first = second := List.append_cancel_right (hfirst.after.symm.trans hsecond.after)

theorem skip_mem_ends_star {text rest : List Char} (hafter : cursor.after = text ++ rest)
    (hall : ∀ c ∈ text, accepts c = true) : cursor.skip text ∈ (Pattern.star accepts).ends cursor := by
  have hrun (n : Nat) (hn : text.length ≤ n) : cursor.skip text ∈ upTo (Pattern.one accepts).ends n cursor := by
    induction text generalizing cursor n with
    | nil =>
      have hhere : cursor.skip [] = cursor := rfl
      cases n with
      | zero => exact List.mem_singleton.2 hhere
      | succ n => exact List.mem_append_right _ (List.mem_singleton.2 hhere)
    | cons c text ih =>
      obtain ⟨n, rfl⟩ := Nat.exists_eq_succ_of_ne_zero (Nat.ne_zero_of_lt hn)
      obtain ⟨hc, htext⟩ := List.forall_mem_cons.1 hall
      have hone : (Pattern.one accepts).ends cursor = [cursor.skip [c]] := by
        unfold Pattern.ends Cursor.skip
        rw [hafter]
        dsimp only [List.cons_append]
        rw [if_pos hc]
        rfl
      have hnext : (cursor.skip [c]).after = text ++ rest := by rw [Cursor.skip, hafter]; rfl
      have hskip : cursor.skip (c :: text) = (cursor.skip [c]).skip text := by
        simp [Cursor.skip]
      rw [upTo, hone, List.flatMap_singleton, hskip]
      exact List.mem_append_left _ (ih hnext htext n (Nat.le_of_succ_le_succ hn))
  refine List.mem_flatMap.2 ⟨cursor, List.mem_singleton_self _, hrun _ ?_⟩
  rw [hafter, List.length_append]
  exact Nat.le_add_right _ _

/-- Every match reads a character of the kind. -/
def Pattern.Shows (pattern : Pattern) (kind : Char → Prop) : Prop :=
  ∀ cursor stop, stop ∈ pattern.ends cursor → ∀ text, Reads cursor text stop → ∃ c ∈ text, kind c

section Shows

variable {kind : Char → Prop} {first second : Pattern}

theorem Pattern.shows_one (h : ∀ c, accepts c = true → kind c) : (Pattern.one accepts).Shows kind := by
  intro cursor stop hstop text htext
  obtain ⟨c, haccepts, hreads, -⟩ := mem_ends_one hstop
  rw [htext.unique hreads]
  exact ⟨c, List.mem_singleton_self c, h c haccepts⟩

theorem Pattern.Shows.seq_left (h : first.Shows kind) (second : Pattern) : (Pattern.seq first second).Shows kind := by
  intro cursor stop hstop text htext
  obtain ⟨middle, hmiddle, hrest⟩ := mem_ends_seq.1 hstop
  obtain ⟨head, hhead, -⟩ := exists_reads_of_mem_ends hmiddle
  obtain ⟨tail, htail, -⟩ := exists_reads_of_mem_ends hrest
  obtain ⟨c, hc, hkind⟩ := h cursor middle hmiddle head hhead
  rw [htext.unique (hhead.trans htail)]
  exact ⟨c, List.mem_append_left _ hc, hkind⟩

theorem Pattern.Shows.seq_right (first : Pattern) (h : second.Shows kind) : (Pattern.seq first second).Shows kind := by
  intro cursor stop hstop text htext
  obtain ⟨middle, hmiddle, hrest⟩ := mem_ends_seq.1 hstop
  obtain ⟨head, hhead, -⟩ := exists_reads_of_mem_ends hmiddle
  obtain ⟨tail, htail, -⟩ := exists_reads_of_mem_ends hrest
  obtain ⟨c, hc, hkind⟩ := h middle stop hrest tail htail
  rw [htext.unique (hhead.trans htail)]
  exact ⟨c, List.mem_append_right _ hc, hkind⟩

theorem Pattern.shows_plus (h : ∀ c, accepts c = true → kind c) : (Pattern.plus accepts).Shows kind := by
  intro cursor stop hstop text htext
  obtain ⟨middle, hmiddle, hrest⟩ := List.mem_flatMap.1 hstop
  obtain ⟨first, hfirst, hsame⟩ := List.mem_flatMap.1 hmiddle
  obtain rfl := List.mem_singleton.1 hsame
  obtain ⟨c, haccepts, hreads, -⟩ := mem_ends_one hfirst
  obtain ⟨m, hrest⟩ := exists_mem_exactly_of_mem_upTo hrest
  obtain ⟨tail, htail, -⟩ := exists_reads_of_mem_exactly (fun _ _ => exists_reads_of_mem_ends) hrest
  rw [htext.unique (hreads.trans htail)]
  exact ⟨c, List.mem_append_left _ (List.mem_singleton_self c), h c haccepts⟩

theorem Pattern.Shows.capture (name : String) (h : first.Shows kind) : (Pattern.capture name first).Shows kind := by
  intro cursor stop hstop text htext
  obtain ⟨inner, hinner, rfl⟩ := List.mem_map.1 hstop
  exact h cursor inner hinner text ⟨htext.after, htext.before⟩

end Shows

end Ends

/-! ### Search -/

/-- `pattern.match(text, position)`. -/
def Pattern.matchAt (pattern : Pattern) (before after : List Char) : Option Cursor :=
  (pattern.ends ⟨before, after, []⟩).head?

theorem Pattern.matchAt_alt (first second : Pattern) (before after : List Char) :
    (Pattern.alt first second).matchAt before after = (first.matchAt before after).or (second.matchAt before after) :=
  List.head?_append

/-- A match, with the text in front of it. -/
structure Found where
  skipped : List Char
  text : List Char
  stop : Cursor
deriving DecidableEq

def Found.group (found : Found) (name : String) : Option (List Char) := found.stop.groups.lookup name

/-- `pattern.search(text, position)`. -/
def Pattern.search (pattern : Pattern) : List Char → List Char → Option Found
  | before, [] => (pattern.matchAt before []).map fun stop => ⟨[], Cursor.upTo ⟨before, [], []⟩ stop, stop⟩
  | before, c :: rest => match pattern.matchAt before (c :: rest) with
      | some stop => some ⟨[], Cursor.upTo ⟨before, c :: rest, []⟩ stop, stop⟩
      | none => (pattern.search (c :: before) rest).map fun found => { found with skipped := c :: found.skipped }

/-- `pattern.sub(render, text)`, for a pattern without empty matches: as many searches as there are characters
suffice. -/
def Pattern.subFrom (pattern : Pattern) (render : Found → List Char) : Nat → List Char → List Char → List Char
  | 0, _, after => after
  | fuel + 1, before, after => match pattern.search before after with
      | none => after
      | some found =>
        found.skipped ++ render found ++ pattern.subFrom render fuel found.stop.before found.stop.after

def Pattern.sub (pattern : Pattern) (render : Found → List Char) (text : List Char) : List Char :=
  pattern.subFrom render text.length [] text

/-- `pattern.fullmatch(text)` finds one. -/
def Pattern.fullMatch (pattern : Pattern) (text : List Char) : Bool :=
  (pattern.ends ⟨[], text, []⟩).any (·.after.isEmpty)

/-- `pattern.finditer(text)`, for a pattern without empty matches. -/
def Pattern.findAllFrom (pattern : Pattern) : Nat → List Char → List Char → List Found
  | 0, _, _ => []
  | fuel + 1, before, after => match pattern.search before after with
      | none => []
      | some found => found :: pattern.findAllFrom fuel found.stop.before found.stop.after

def Pattern.findAll (pattern : Pattern) (text : List Char) : List Found := pattern.findAllFrom text.length [] text

section Search

variable {pattern : Pattern} {before after : List Char}

theorem exists_reads_of_matchAt {stop : Cursor} (h : pattern.matchAt before after = some stop) :
    ∃ text, Reads ⟨before, after, []⟩ text stop ∧ ∀ c ∈ text, pattern.mayRead c = true :=
  exists_reads_of_mem_ends (List.mem_of_head? h)

structure Located (pattern : Pattern) (before after : List Char) (found : Found) : Prop where
  split : after = found.skipped ++ (found.text ++ found.stop.after)
  passed : found.stop.before = found.text.reverse ++ (found.skipped.reverse ++ before)
  here : pattern.matchAt (found.skipped.reverse ++ before) (found.text ++ found.stop.after) = some found.stop

theorem located_of_matchAt {stop : Cursor} (h : pattern.matchAt before after = some stop) :
    Located pattern before after ⟨[], Cursor.upTo ⟨before, after, []⟩ stop, stop⟩ := by
  obtain ⟨text, hreads, -⟩ := exists_reads_of_matchAt h
  have hafter : after = text ++ stop.after := hreads.after
  refine ⟨?_, ?_, ?_⟩ <;> rw [hreads.upTo]
  · exact hafter
  · exact hreads.before
  · rw [← hafter]
    exact h

variable {found : Found}

theorem located_of_search (h : pattern.search before after = some found) :
    Located pattern before after found := by
  induction after generalizing before found with
  | nil =>
    obtain ⟨stop, hstop, rfl⟩ := Option.map_eq_some_iff.1 h
    exact located_of_matchAt hstop
  | cons c rest ih =>
    unfold Pattern.search at h
    cases hhere : pattern.matchAt before (c :: rest) with
    | some stop =>
      rw [hhere] at h
      obtain rfl := Option.some.inj h
      exact located_of_matchAt hhere
    | none =>
      rw [hhere] at h
      obtain ⟨later, hlater, rfl⟩ := Option.map_eq_some_iff.1 h
      have hspec := ih hlater
      refine ⟨?_, ?_, ?_⟩
      · rw [List.cons_append, ← hspec.split]
      · simpa using hspec.passed
      · simpa using hspec.here

theorem Located.mayRead (h : Located pattern before after found) :
    ∀ c ∈ found.text, pattern.mayRead c = true := by
  obtain ⟨text, hreads, hmay⟩ := exists_reads_of_matchAt h.here
  have hsame : found.text = text := List.append_cancel_right hreads.after
  rw [hsame]
  exact hmay

theorem Located.shows {kind : Char → Prop} (hpattern : pattern.Shows kind)
    (h : Located pattern before after found) : ∃ c ∈ found.text, kind c := by
  obtain ⟨text, hreads, -⟩ := exists_reads_of_matchAt h.here
  have hsame : found.text = text := List.append_cancel_right hreads.after
  rw [hsame]
  exact hpattern _ _ (List.mem_of_head? h.here) text hreads

variable {c : Char}

/-- A character that the matches do not read is not lost. -/
theorem count_le_count_subFrom (hc : pattern.mayRead c = false) (render : Found → List Char) (fuel : Nat)
    (before after : List Char) : after.count c ≤ (pattern.subFrom render fuel before after).count c := by
  induction fuel generalizing before after with
  | zero => exact Nat.le_refl _
  | succ fuel ih =>
    unfold Pattern.subFrom
    cases hsearch : pattern.search before after with
    | none => exact Nat.le_refl _
    | some found =>
      have hlocated := located_of_search hsearch
      have htext : found.text.count c = 0 := by
        refine List.count_eq_zero.2 fun hmem => ?_
        rw [hlocated.mayRead c hmem] at hc
        cases hc
      have hrest := ih found.stop.before found.stop.after
      dsimp only
      rw [hlocated.split]
      simp only [List.count_append, htext]
      omega

/-- A word between two characters that no match reads lies beside a match, if every match reads a character that
the word does not have. -/
theorem infix_of_split {word skipped text rest : List Char} {kind : Char → Prop} (hc : c ∉ text)
    (hshows : ∃ d ∈ text, kind d) (hword : ∀ d ∈ word, ¬ kind d) (h : c :: (word ++ [c]) <:+: skipped ++ (text ++ rest)) :
    c :: (word ++ [c]) <:+: skipped ∨ c :: (word ++ [c]) <:+: rest := by
  obtain ⟨front, behind, hsplit⟩ := h
  obtain ⟨d, hd, hkind⟩ := hshows
  rw [List.append_assoc] at hsplit
  rcases List.append_eq_append_iff.1 hsplit with ⟨more, rfl, hrest⟩ | ⟨between, rfl, hrest⟩
  · rcases List.append_eq_append_iff.1 hrest with ⟨inner, rfl, -⟩ | ⟨tail, hguarded, htail⟩
    · exact .inl ⟨front, inner, List.append_assoc _ _ _⟩
    · -- The match starts inside the guarded word, so it ends there too.
      have hends : d ∉ c :: (word ++ [c]) := by
        intro hmem
        simp only [List.mem_cons, List.mem_append, List.not_mem_nil, or_false] at hmem
        rcases hmem with rfl | hmem | rfl
        · exact hc hd
        · exact hword d hmem hkind
        · exact hc hd
      rcases List.append_eq_append_iff.1 htail with ⟨inside, rfl, -⟩ | ⟨beyond, rfl, -⟩
      · rw [hguarded] at hends
        exact absurd (by simp [hd]) hends
      · obtain rfl | ⟨init, last, rfl⟩ := List.eq_nil_or_concat tail
        · exact .inl ⟨front, [], by rw [hguarded]; simp⟩
        · have hlast : c = last := by
            rw [List.concat_eq_append, ← List.cons_append, ← List.append_assoc] at hguarded
            exact (List.cons.inj (List.append_inj' hguarded rfl).2).1
          exact absurd (by simp [hlast]) hc
  · rcases List.append_eq_append_iff.1 hrest with ⟨inner, rfl, hinner⟩ | ⟨more, rfl, hmore⟩
    · exact .inr ⟨inner, behind, by rw [hinner]; simp⟩
    · cases more with
      | nil => exact .inr ⟨[], behind, by simpa using hmore⟩
      | cons e more =>
        obtain ⟨rfl, -⟩ := List.cons.inj hmore
        exact absurd (by simp) hc

theorem infix_subFrom {word : List Char} {kind : Char → Prop} (hc : pattern.mayRead c = false)
    (hshows : pattern.Shows kind) (hword : ∀ d ∈ word, ¬ kind d) (render : Found → List Char) (fuel : Nat)
    (before after : List Char) (h : c :: (word ++ [c]) <:+: after) :
    c :: (word ++ [c]) <:+: pattern.subFrom render fuel before after := by
  induction fuel generalizing before after with
  | zero => exact h
  | succ fuel ih =>
    unfold Pattern.subFrom
    cases hsearch : pattern.search before after with
    | none => exact h
    | some found =>
      have hlocated := located_of_search hsearch
      have hfree : c ∉ found.text := by
        intro hmem
        rw [hlocated.mayRead c hmem] at hc
        cases hc
      rw [hlocated.split] at h
      dsimp only
      rcases infix_of_split hfree (hlocated.shows hshows) hword h with hskipped | hrest
      · rw [List.append_assoc]
        exact hskipped.trans (List.prefix_append _ _).isInfix
      · exact (ih _ _ hrest).trans (List.suffix_append _ _).isInfix

/-- Where a weaker pattern has no match the stronger one has none. -/
theorem search_eq_none_of_ends {weaker : Pattern} (hends : ∀ cursor, weaker.ends cursor = [] → pattern.ends cursor = [])
    (h : weaker.search before after = none) : pattern.search before after = none := by
  have hmatch (before after : List Char) (hweaker : weaker.matchAt before after = none) :
      pattern.matchAt before after = none :=
    List.head?_eq_none_iff.2 (hends _ (List.head?_eq_none_iff.1 hweaker))
  induction after generalizing before with
  | nil =>
    rw [Pattern.search, Option.map_eq_none_iff] at h ⊢
    exact hmatch _ _ h
  | cons c rest ih =>
    unfold Pattern.search at h ⊢
    cases hhere : weaker.matchAt before (c :: rest) with
    | some stop =>
      rw [hhere] at h
      cases h
    | none =>
      rw [hhere] at h
      rw [hmatch _ _ hhere]
      exact Option.map_eq_none_iff.2 (ih (Option.map_eq_none_iff.1 h))

theorem sub_of_search_eq_none {text : List Char} (h : pattern.search [] text = none) (render : Found → List Char) :
    pattern.sub render text = text := by
  unfold Pattern.sub
  cases text.length with
  | zero => rfl
  | succ fuel =>
    unfold Pattern.subFrom
    rw [h]

theorem count_le_count_sub (hc : pattern.mayRead c = false) (render : Found → List Char) (text : List Char) :
    text.count c ≤ (pattern.sub render text).count c := count_le_count_subFrom hc render _ _ _

theorem infix_sub {word : List Char} {kind : Char → Prop} (hc : pattern.mayRead c = false)
    (hshows : pattern.Shows kind) (hword : ∀ d ∈ word, ¬ kind d) (render : Found → List Char) {text : List Char}
    (h : c :: (word ++ [c]) <:+: text) : c :: (word ++ [c]) <:+: pattern.sub render text :=
  infix_subFrom hc hshows hword render _ _ _ h

end Search

end Regex
