import Proxbox.Redaction.ErrorDetail
/-!
# What the sweep of a text leaves behind

The value of an assignment ends at a comma, at a bracket or at a quote. So a list whose first item is a quote of
each kind is not read as one value: whatever stands in front of it, the sweep is past both quotes before it
comes to the other items, and these are kept.
-/

namespace Proxbox

open Python Regex

/-! ### How far a value reaches -/

section Extent

variable {before after : List Char} {stop : Cursor} {quote : Char}

theorem quotedBy_extent (h : (quotedBy quote).matchAt before after = some stop) :
    ∃ inner, after = quote :: (inner ++ quote :: stop.after) ∧ quote ∉ inner := by
  obtain ⟨opened, hopened, hrest⟩ := mem_ends_seq.1 (List.mem_of_head? h)
  obtain ⟨inside, hinside, hstop⟩ := mem_ends_seq.1 hrest
  obtain ⟨c, hc, hread, -⟩ := mem_ends_one hopened
  obtain ⟨inner, hinner, hfree⟩ := exists_reads_of_mem_ends hinside
  obtain ⟨d, hd, hclose, -⟩ := mem_ends_one hstop
  rw [beq_iff_eq.1 hc] at hread
  rw [beq_iff_eq.1 hd] at hclose
  refine ⟨inner, ?_, fun hmem => ?_⟩
  · have hafter : after = quote :: opened.after := hread.after
    rw [hafter, hinner.after, hclose.after]
    rfl
  · have hother : (quote != quote) = true := hfree quote hmem
    exact absurd hother (by simp)

theorem not_mem_of_quotedBy_eq_none {rest : List Char} (h : (quotedBy quote).matchAt before (quote :: rest) = none) :
    quote ∉ rest := by
  intro hmem
  obtain ⟨inner, tail, rfl, hinner⟩ := List.eq_append_cons_of_mem hmem
  let start : Cursor := ⟨before, quote :: (inner ++ quote :: tail), []⟩
  have hopen : start.skip [quote] ∈ (Pattern.one (· == quote)).ends start := by simp [Pattern.ends, start, Cursor.skip]
  have hinside : (start.skip [quote]).skip inner ∈ (Pattern.star (· != quote)).ends (start.skip [quote]) := by
    have hrest : (start.skip [quote]).after = inner ++ quote :: tail := rfl
    exact skip_mem_ends_star hrest fun c hc => bne_iff_ne.2 fun hsame => hinner (hsame ▸ hc)
  have hafter : ((start.skip [quote]).skip inner).after = quote :: tail := by simp [Cursor.skip, start]
  have hclose : ((start.skip [quote]).skip inner).skip [quote] ∈
      (Pattern.one (· == quote)).ends ((start.skip [quote]).skip inner) := by
    unfold Pattern.ends
    rw [hafter]
    simp [Cursor.skip, start]
  have hall : ((start.skip [quote]).skip inner).skip [quote] ∈ (quotedBy quote).ends start :=
    mem_ends_seq.2 ⟨_, hopen, mem_ends_seq.2 ⟨_, hinside, hclose⟩⟩
  rw [Pattern.matchAt, List.head?_eq_none_iff] at h
  rw [h] at hall
  cases hall

/-- The value ends before the next comma and the next bracket, or at the quote that closes it, or is a quote
that none closes. -/
theorem assignmentValue_extent (h : assignmentValue.matchAt before after = some stop) :
    ∃ text, after = text ++ stop.after ∧ ((',' ∉ text ∧ ']' ∉ text) ∨
      (∃ quote inner, isQuote quote = true ∧ text = quote :: (inner ++ [quote]) ∧ quote ∉ inner) ∨
      ∃ quote inner, isQuote quote = true ∧ text = quote :: inner ∧ quote ∉ inner ++ stop.after) := by
  have hplain {pattern : Pattern} (hcomma : pattern.mayRead ',' = false) (hbracket : pattern.mayRead ']' = false)
      (hmatch : pattern.matchAt before after = some stop) : ∃ text, after = text ++ stop.after ∧ (',' ∉ text ∧ ']' ∉ text) := by
    obtain ⟨text, hreads, hmay⟩ := exists_reads_of_matchAt hmatch
    refine ⟨text, hreads.after, fun hmem => ?_, fun hmem => ?_⟩
    · rw [hmay _ hmem] at hcomma
      cases hcomma
    · rw [hmay _ hmem] at hbracket
      cases hbracket
  have hquoted {quote : Char} (hquote : isQuote quote = true) (hmatch : (quotedBy quote).matchAt before after = some stop) :
      ∃ text, after = text ++ stop.after ∧
        ∃ quote inner, isQuote quote = true ∧ text = quote :: (inner ++ [quote]) ∧ quote ∉ inner := by
    obtain ⟨inner, hafter, hinner⟩ := quotedBy_extent hmatch
    exact ⟨quote :: (inner ++ [quote]), by rw [hafter]; simp, quote, inner, hquote, rfl, hinner⟩
  unfold assignmentValue at h
  simp only [Pattern.any, Pattern.matchAt_alt, Option.or_eq_some_iff] at h
  obtain hscheme | ⟨-, hsingle | ⟨hnosingle, hdouble | ⟨hnodouble, hopen | ⟨-, hword⟩⟩⟩⟩ := h
  · obtain ⟨text, hafter, hfree⟩ := hplain (by decide +kernel) (by decide +kernel) hscheme
    exact ⟨text, hafter, .inl hfree⟩
  · obtain ⟨text, hafter, hshape⟩ := hquoted (by decide) hsingle
    exact ⟨text, hafter, .inr (.inl hshape)⟩
  · obtain ⟨text, hafter, hshape⟩ := hquoted (by decide) hdouble
    exact ⟨text, hafter, .inr (.inl hshape)⟩
  · obtain ⟨opened, hopened, hrest⟩ := mem_ends_seq.1 (List.mem_of_head? hopen)
    obtain ⟨c, hc, hread, -⟩ := mem_ends_one hopened
    obtain ⟨inner, hinner, -⟩ := exists_reads_of_mem_ends hrest
    have hafter : after = c :: (inner ++ stop.after) := by
      rw [← hinner.after]
      exact hread.after
    refine ⟨c :: inner, hafter, .inr (.inr ⟨c, inner, hc, rfl, ?_⟩)⟩
    rw [hafter] at hnosingle hnodouble
    rcases Bool.or_eq_true_iff.1 hc with hc | hc
    · rw [beq_iff_eq.1 hc] at hnosingle ⊢
      exact not_mem_of_quotedBy_eq_none hnosingle
    · rw [beq_iff_eq.1 hc] at hnodouble ⊢
      exact not_mem_of_quotedBy_eq_none hnodouble
  · obtain ⟨text, hafter, hfree⟩ := hplain (by decide +kernel) (by decide +kernel) hword
    exact ⟨text, hafter, .inl hfree⟩

end Extent

/-! ### A list that holds both quotes -/

def mixed (items : List Char) : List Char := '[' :: quoteMark :: singleQuote :: quoteMark :: items

def mixedList (items behind : List Char) : List Char := mixed items ++ ']' :: behind

section Scan

variable {skipped text rest items behind : List Char}

theorem not_isAssignment_of_mem_mixed (hitems : ∀ c ∈ items, ¬ IsAssignment c) : ∀ c ∈ mixed items, ¬ IsAssignment c := by
  intro c hc
  simp only [mixed, List.mem_cons] at hc
  rcases hc with rfl | rfl | rfl | rfl | hc
  · decide
  · decide
  · decide
  · decide
  · exact hitems c hc

theorem prefix_skipped (h : skipped ++ (text ++ rest) = items ++ ']' :: behind) (hitems : ∀ c ∈ items, ¬ IsAssignment c)
    (hshows : ∃ c ∈ text, IsAssignment c) (hclose : ']' ∉ text) : items <+: skipped := by
  obtain ⟨c, hc, hassign⟩ := hshows
  rcases List.append_eq_append_iff.1 h with ⟨between, rfl, hrest⟩ | ⟨more, rfl, -⟩
  · rcases List.append_eq_append_iff.1 hrest with ⟨more, rfl, -⟩ | ⟨more, rfl, hmore⟩
    · exact absurd hassign (hitems c (by simp [hc]))
    · cases more with
      | nil => exact absurd hassign (hitems c (by simpa using Or.inr hc))
      | cons d more =>
        obtain ⟨rfl, -⟩ := List.cons.inj hmore
        exact absurd (by simp) hclose
  · exact List.prefix_append _ _

variable {front : List Char}

theorem rest_or_prefix_skipped (h : skipped ++ (text ++ rest) = front ++ mixedList items behind)
    (hitems : ∀ c ∈ items, ¬ IsAssignment c) (hshows : ∃ c ∈ text, IsAssignment c) (hopen : '[' ∉ text) (hclose : ']' ∉ text) :
    (∃ front', rest = front' ++ mixedList items behind) ∨
      front ++ mixed items <+: skipped := by
  rcases List.append_eq_append_iff.1 h with ⟨between, rfl, hrest⟩ | ⟨more, rfl, hmore⟩
  · rcases List.append_eq_append_iff.1 hrest with ⟨front', rfl, rfl⟩ | ⟨more, rfl, hmore⟩
    · exact .inl ⟨front', rfl⟩
    · cases more with
      | nil => exact .inl ⟨[], hmore.symm⟩
      | cons d more =>
        obtain ⟨rfl, -⟩ := List.cons.inj hmore
        exact absurd (by simp) hopen
  · have hstart := prefix_skipped hmore.symm (not_isAssignment_of_mem_mixed hitems) hshows hclose
    exact .inr ((List.prefix_append_right_inj front).2 hstart)

theorem rest_of_plain (h : text ++ rest = front ++ mixedList items behind)
    (hhead : ∀ c ∈ items.head?, c = ',') (hcomma : ',' ∉ text) (hclose : ']' ∉ text) :
    (∃ front', rest = front' ++ mixedList items behind) ∨
      ∃ left, rest = left ++ ']' :: behind ∧ left <:+ mixed items ∧ items <:+ left := by
  rcases List.append_eq_append_iff.1 h with ⟨front', rfl, rfl⟩ | ⟨more, rfl, hmore⟩
  · exact .inl ⟨front', rfl⟩
  · have hnone {c : Char} {tail : List Char} (hitems : items = c :: tail) : c ∉ more := by
      rw [hhead c (by rw [hitems]; rfl)]
      exact fun hmem => hcomma (List.mem_append_right _ hmem)
    rcases List.append_eq_append_iff.1 hmore with ⟨beyond, rfl, hbeyond⟩ | ⟨left, hleft, hrest⟩
    · cases beyond with
      | nil =>
        refine .inr ⟨[], hbeyond.symm, List.nil_suffix, ?_⟩
        cases items with
        | nil => exact List.suffix_refl _
        | cons c tail => exact absurd (by simp [mixed]) (hnone rfl)
      | cons d beyond =>
        obtain ⟨rfl, -⟩ := List.cons.inj hbeyond
        exact absurd (by simp) hclose
    · refine .inr ⟨left, hrest, ⟨more, hleft.symm⟩, ?_⟩
      have hsplit : ['[', quoteMark, singleQuote, quoteMark] ++ items = more ++ left := hleft
      rcases List.append_eq_append_iff.1 hsplit with ⟨read, rfl, hread⟩ | ⟨kept, -, rfl⟩
      · cases read with
        | nil => exact ⟨[], hread⟩
        | cons c read => exact absurd (by simp) (hnone hread)
      · exact List.suffix_append _ _

theorem rest_of_closed {front inner : List Char} {quote : Char} (hquote : isQuote quote = true) (hinner : quote ∉ inner)
    (h : inner ++ quote :: rest = front ++ mixedList items behind) : (∃ front', rest = front' ++ mixedList items behind) ∨
      ∃ left, rest = left ++ ']' :: behind ∧ left <:+ mixed items ∧ items <:+ left := by
  by_cases hfront : quote ∈ front
  · obtain ⟨first, second, rfl, hfirst⟩ := List.eq_append_cons_of_mem hfront
    rw [List.append_assoc, List.cons_append] at h
    exact .inl ⟨second, (cut_unique hinner hfirst h).2⟩
  · right
    rcases Bool.or_eq_true_iff.1 hquote with hkind | hkind
    · obtain rfl := beq_iff_eq.1 hkind
      have hcut : inner ++ singleQuote :: rest =
          (front ++ ['[', quoteMark]) ++ singleQuote :: (quoteMark :: items ++ ']' :: behind) := by
        rw [h]
        simp [mixedList, mixed]
      obtain ⟨-, hrest⟩ := cut_unique hinner (by simpa [singleQuote, quoteMark] using hfront) hcut
      exact ⟨quoteMark :: items, hrest, ⟨['[', quoteMark, singleQuote], rfl⟩, [quoteMark], rfl⟩
    · obtain rfl := beq_iff_eq.1 hkind
      have hcut : inner ++ quoteMark :: rest =
          (front ++ ['[']) ++ quoteMark :: (singleQuote :: quoteMark :: items ++ ']' :: behind) := by
        rw [h]
        simp [mixedList, mixed]
      obtain ⟨-, hrest⟩ := cut_unique hinner (by simpa [quoteMark] using hfront) hcut
      exact ⟨singleQuote :: quoteMark :: items, hrest, ⟨['[', quoteMark], rfl⟩, [singleQuote, quoteMark], rfl⟩

theorem rest_of_extent (h : text ++ rest = front ++ mixedList items behind) (hhead : ∀ c ∈ items.head?, c = ',')
    (hextent : (',' ∉ text ∧ ']' ∉ text) ∨
      (∃ quote inner, isQuote quote = true ∧ text = quote :: (inner ++ [quote]) ∧ quote ∉ inner) ∨
      ∃ quote inner, isQuote quote = true ∧ text = quote :: inner ∧ quote ∉ inner ++ rest) :
    (∃ front', rest = front' ++ mixedList items behind) ∨
      ∃ left, rest = left ++ ']' :: behind ∧ left <:+ mixed items ∧ items <:+ left := by
  -- A value with a quote starts in front of the list, which starts with a bracket.
  have hfront {quote : Char} {tail : List Char} (hquote : isQuote quote = true)
      (hstart : quote :: tail = front ++ mixedList items behind) :
      ∃ front', front = quote :: front' ∧ tail = front' ++ mixedList items behind := by
    cases front with
    | nil =>
      obtain ⟨rfl, -⟩ := List.cons.inj hstart
      exact absurd hquote (by decide)
    | cons d front' =>
      obtain ⟨rfl, htail⟩ := List.cons.inj hstart
      exact ⟨front', rfl, htail⟩
  rcases hextent with ⟨hcomma, hclose⟩ | ⟨quote, inner, hquote, rfl, hinner⟩ | ⟨quote, inner, hquote, rfl, hnone⟩
  · exact rest_of_plain h hhead hcomma hclose
  · rw [List.cons_append, List.append_assoc] at h
    obtain ⟨front', -, htail⟩ := hfront hquote h
    exact rest_of_closed hquote hinner htail
  · obtain ⟨front', -, htail⟩ := hfront hquote h
    have hbehind : quote ∈ front' ++ mixedList items behind := by
      rcases Bool.or_eq_true_iff.1 hquote with hkind | hkind
      · rw [beq_iff_eq.1 hkind]
        simp [mixedList, mixed]
      · rw [beq_iff_eq.1 hkind]
        simp [mixedList, mixed]
    rw [← htail] at hbehind
    exact absurd hbehind hnone

end Scan

section Kept

variable {value : Pattern} {render : List Char → List Char} {predicate : String → Bool} {items behind : List Char}

theorem infix_redactFrom_of_closed (hitems : ∀ c ∈ items, ¬ IsAssignment c) (fuel : Nat) (before : List Char) :
    items <:+: redactFrom value render predicate fuel before (items ++ ']' :: behind) := by
  cases fuel with
  | zero => exact (List.prefix_append _ _).isInfix
  | succ fuel =>
    unfold redactFrom
    cases hsearch : assignmentKey.search before (items ++ ']' :: behind) with
    | none => exact (List.prefix_append _ _).isInfix
    | some found =>
      have hlocated := located_of_search hsearch
      have hstart := prefix_skipped hlocated.split.symm hitems (hlocated.shows assignmentKey_shows)
        (bracket_not_mem hlocated (.inr rfl))
      dsimp only
      rw [List.append_assoc]
      exact (hstart.trans (List.prefix_append _ _)).isInfix

/-- Whatever stands in front of the list, its items are kept. -/
theorem infix_redactFrom (hhead : ∀ c ∈ items.head?, c = ',') (hitems : ∀ c ∈ items, ¬ IsAssignment c) (fuel : Nat)
    (before front : List Char) :
    items <:+: redactFrom assignmentValue render predicate fuel before (front ++ mixedList items behind) := by
  have hmixed : items <:+: mixed items := (List.suffix_append ['[', quoteMark, singleQuote, quoteMark] items).isInfix
  have hwhole (front : List Char) : items <:+: front ++ mixedList items behind :=
    hmixed.trans ((List.prefix_append _ _).isInfix.trans (List.suffix_append _ _).isInfix)
  induction fuel generalizing before front with
  | zero => exact hwhole front
  | succ fuel ih =>
    unfold redactFrom
    cases hsearch : assignmentKey.search before (front ++ mixedList items behind) with
    | none => exact hwhole front
    | some found =>
      have hlocated := located_of_search hsearch
      rcases rest_or_prefix_skipped hlocated.split.symm hitems (hlocated.shows assignmentKey_shows)
        (bracket_not_mem hlocated (.inl rfl)) (bracket_not_mem hlocated (.inr rfl)) with ⟨front', hfront⟩ | hstart
      · dsimp only
        refine List.IsInfix.trans ?_ (List.suffix_append _ _).isInfix
        cases hvalue : replacedValue assignmentValue predicate found with
        | none =>
          rw [hfront]
          exact ih _ _
        | some stop =>
          obtain ⟨text, hafter, hextent⟩ := assignmentValue_extent (replacedValue_eq_some hvalue)
          dsimp only
          refine List.IsInfix.trans ?_ (List.suffix_append _ _).isInfix
          rcases rest_of_extent (hafter.symm.trans hfront) hhead hextent with ⟨front'', hrest⟩ | ⟨left, hrest, hsuffix, hkept⟩
          · rw [hrest]
            exact ih _ _
          · rw [hrest]
            refine hkept.isInfix.trans (infix_redactFrom_of_closed (fun c hc => ?_) _ _)
            exact not_isAssignment_of_mem_mixed hitems c (hsuffix.subset hc)
      · dsimp only
        rw [List.append_assoc]
        have hkept : items <:+: front ++ mixed items := hmixed.trans (List.suffix_append _ _).isInfix
        exact hkept.trans (hstart.trans (List.prefix_append _ _)).isInfix

end Kept

theorem infix_redactAssignments {items : List Char} (hhead : ∀ c ∈ items.head?, c = ',')
    (hitems : ∀ c ∈ items, ¬ IsAssignment c)
    {value front behind : List Char} (hvalue : value = front ++ mixedList items behind) :
    items <:+: redactAssignments value assignmentValue renderRedactedValue isSensitiveOrEchoKey := by
  rw [redactAssignments, hvalue]
  exact infix_redactFrom hhead hitems _ [] front

theorem count_le_count_redactSensitiveText (isAlnum : Char → Bool) {items : List Char} (hhead : ∀ c ∈ items.head?, c = ',')
    (hitems : ∀ c ∈ items, ¬ IsAssignment c) {value : String} {front behind : List Char}
    (hvalue : value.toList = front ++ mixedList items behind) :
    items.count ',' ≤ (redactSensitiveText isAlnum value).toList.count ',' := by
  rw [redactSensitiveText, String.toList_ofList]
  refine ((infix_redactAssignments hhead hitems hvalue).sublist.count_le ',').trans (count_le_count_sub ?_ _ _)
  rfl

end Proxbox
