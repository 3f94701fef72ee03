import Proxbox.Schedule.Edit
/-!
# Which jobs are syncs

Two implementations of one question: a predicate on a job in memory, and a filter for the database. Both look
for the block that a sync keeps in its data, for the old queue, and for the names of syncs. The predicate strips
a name and reads its number as Python does, in any script; the regular expressions of the database know the
blanks and digits of ASCII.
-/

namespace Proxbox

open Python

/-! ### The predicate and the filter -/

structure CoreJob where
  name : String
  queueName : Option String
  data : Json

namespace CoreJob

variable (job : CoreJob)

def hasSyncBlock : Bool := job.data.isDict && job.data.asDict.any fun field => field.1 = "proxbox_sync"

def allowedQueue : Bool := ["", "default", legacyProxboxRqQueue].contains (job.queueName.getD "")

def isProxboxSyncJob : Bool := isSyncRow job.hasSyncBlock job.queueName job.name

end CoreJob

/-- `\s` in the database. -/
def isAsciiSpace (c : Char) : Bool := c.toNat == 32 || (9 ≤ c.toNat && c.toNat ≤ 13)

/-- `^\s*X\s*$` in the database: some part of the text is an `X`, with blanks on both sides. -/
def matchesPadded (body : List Char → Bool) (text : List Char) : Bool :=
  (List.range (text.length + 1)).any fun start => (List.range (text.length + 1)).any fun length =>
    (text.take start).all isAsciiSpace && body ((text.drop start).take length) && ((text.drop start).drop length).all
      isAsciiSpace

/-- The key test `?`, which is true of an array or a text with the key too. -/
def jsonHasKey (key : String) : Json → Bool
  | .obj fields => fields.any fun field => field.1 = key
  | .arr values => values.any fun value => value.eq (.str key)
  | .str text => text == key
  | _ => false

/-- `data -> key` is not `NULL`. -/
def jsonKeyNotNull (key : String) : Json → Bool
  | .obj fields => fields.any fun field => field.1 = key
  | _ => false

namespace CoreJob

variable (job : CoreJob)

def queueIs (name : String) : Bool := job.queueName == some name

def isSelected : Bool :=
  (jsonHasKey "proxbox_sync" job.data && jsonKeyNotNull "proxbox_sync" job.data) || job.queueIs legacyProxboxRqQueue ||
    (matchesPadded (· == proxboxSyncJobName.toList) job.name.toList &&
      (job.queueName.isNone || job.queueIs "" || job.queueIs "default" || job.queueIs legacyProxboxRqQueue)) ||
    matchesPadded (isTargetedName Char.isDigit) job.name.toList

def IsNamed : Prop :=
  strip job.name = proxboxSyncJobName ∧ job.allowedQueue = true ∨ isTargetedName isDecimal (strip job.name).toList = true

/-- The blanks around the name and the digits in it are those of ASCII. -/
structure AsciiName : Prop where
  padding : ∃ lead trail, job.name.toList = lead ++ (strip job.name).toList ++ trail ∧ ∀ c ∈ lead ++ trail,
    isAsciiSpace c = true
  digits : ∀ c ∈ (strip job.name).toList, isDecimal c = true → c.isDigit = true

end CoreJob

/-! ### Padded texts -/

section Padded

variable {body : List Char → Bool} {text : List Char}

theorem matchesPadded_iff : matchesPadded body text = true ↔
    ∃ lead inner trail, text = lead ++ inner ++ trail ∧ body inner = true ∧ ∀ c ∈ lead ++ trail, isAsciiSpace c = true := by
  unfold matchesPadded
  simp only [List.any_eq_true, List.mem_range, Bool.and_eq_true, List.all_eq_true]
  constructor
  · intro h
    obtain ⟨start, -, length, -, ⟨hlead, hbody⟩, htrail⟩ := h
    refine ⟨text.take start, (text.drop start).take length, (text.drop start).drop length, ?_, hbody, ?_⟩
    · rw [List.append_assoc, List.take_append_drop, List.take_append_drop]
    · exact List.forall_mem_append.2 ⟨hlead, htrail⟩
  · intro h
    obtain ⟨lead, inner, trail, rfl, hbody, hspaces⟩ := h
    obtain ⟨hlead, htrail⟩ := List.forall_mem_append.1 hspaces
    refine ⟨lead.length, ?_, inner.length, ?_, ?_⟩
    · simp only [List.length_append]
      omega
    · simp only [List.length_append]
      omega
    · rw [List.append_assoc, List.take_left, List.drop_left, List.take_left, List.drop_left]
      exact ⟨⟨hlead, hbody⟩, htrail⟩

theorem isSpace_of_isAsciiSpace {c : Char} (h : isAsciiSpace c = true) : isSpace c = true := by
  simp only [isAsciiSpace, Bool.or_eq_true, Bool.and_eq_true, decide_eq_true_eq, beq_iff_eq] at h
  simp only [isSpace, Bool.or_eq_true, Bool.and_eq_true, decide_eq_true_eq, beq_iff_eq]
  omega

theorem stripChars_padded {lead inner trail : List Char} {first last : Char} {rest init : List Char}
    (hfirst : inner = first :: rest)
    (hlast : inner = init ++ [last]) (hstart : isSpace first = false) (hend : isSpace last = false)
    (hlead : ∀ c ∈ lead, isSpace c = true) (htrail : ∀ c ∈ trail, isSpace c = true) :
      stripChars (lead ++ inner ++ trail) = inner := by
  have hdrop : (lead ++ inner ++ trail).dropWhile isSpace = inner ++ trail := by
    rw [List.append_assoc, List.dropWhile_append_of_pos hlead, hfirst, List.cons_append]
    exact List.dropWhile_cons_of_neg (by rw [hstart]; exact Bool.false_ne_true)
  rw [stripChars, hdrop, rstripChars_append_of_isSpace _ htrail, hlast]
  exact rstripChars_of_last init hend

/-- A pattern whose texts neither begin nor end with a blank matches what is left without the blanks, if these
are ASCII. -/
theorem matchesPadded_iff_strip (hbody : ∀ inner, body inner = true →
      ∃ first last rest init, inner = first :: rest ∧ inner = init ++ [last] ∧ isSpace first = false ∧ isSpace last = false) :
    matchesPadded body text = true ↔ body (stripChars text) = true ∧
      ∃ lead trail, text = lead ++ stripChars text ++ trail ∧ ∀ c ∈ lead ++ trail, isAsciiSpace c = true := by
  rw [matchesPadded_iff]
  constructor
  · intro h
    obtain ⟨lead, inner, trail, rfl, hinner, hspaces⟩ := h
    obtain ⟨first, last, rest, init, hfirst, hlast, hstart, hend⟩ := hbody inner hinner
    have hblank : ∀ c ∈ lead ++ trail, isSpace c = true := fun c hc => isSpace_of_isAsciiSpace (hspaces c hc)
    obtain ⟨hlead, htrail⟩ := List.forall_mem_append.1 hblank
    rw [stripChars_padded hfirst hlast hstart hend hlead htrail]
    exact ⟨hinner, lead, trail, rfl, hspaces⟩
  · intro h
    obtain ⟨hinner, lead, trail, htext, hspaces⟩ := h
    exact ⟨lead, stripChars text, trail, htext, hinner, hspaces⟩

end Padded

/-! ### The two names -/

theorem isDecimal_of_isDigit {c : Char} (h : c.isDigit = true) : isDecimal c = true := by
  rw [isDecimal, asciiDigit_of_isDigit h]
  exact h

theorem isSpace_of_isDigit {c : Char} (h : c.isDigit = true) : isSpace c = false := by
  have hrange : 48 ≤ c.toNat ∧ c.toNat ≤ 57 := by simpa [Char.isDigit, UInt32.le_iff_toNat_le] using h
  exact isSpace_of_graphic (by omega) (by omega)

theorem isTargetedName_iff {isNumeral : Char → Bool} {text : List Char} : isTargetedName isNumeral text = true ↔
    ∃ digits, text = "Proxbox Sync: Virtual machine ".toList ++ digits ∧ digits ≠ [] ∧ ∀ c ∈ digits, isNumeral c = true := by
  unfold isTargetedName
  simp only [Bool.and_eq_true, List.isPrefixOf_iff_prefix, Bool.not_eq_true', List.isEmpty_eq_false_iff, List.all_eq_true]
  constructor
  · intro h
    obtain ⟨⟨⟨digits, rfl⟩, hnonempty⟩, hnumerals⟩ := h
    rw [List.drop_left] at hnonempty hnumerals
    exact ⟨digits, rfl, hnonempty, hnumerals⟩
  · intro h
    obtain ⟨digits, rfl, hnonempty, hnumerals⟩ := h
    rw [List.drop_left]
    exact ⟨⟨List.prefix_append _ _, hnonempty⟩, hnumerals⟩

theorem not_isDecimal_lead : ∀ c ∈ "Proxbox Sync: Virtual machine ".toList, isDecimal c = false := forall_mem_of_all (by decide)

theorem not_isDecimal_label : ∀ c ∈ proxboxSyncJobName.toList, isDecimal c = false := forall_mem_of_all (by decide)

theorem isTargetedName_isDigit_iff {text : List Char} : isTargetedName Char.isDigit text = true ↔
    isTargetedName isDecimal text = true ∧ ∀ c ∈ text, isDecimal c = true → c.isDigit = true := by
  rw [isTargetedName_iff, isTargetedName_iff]
  constructor
  · intro h
    obtain ⟨digits, rfl, hnonempty, hdigits⟩ := h
    refine ⟨⟨digits, rfl, hnonempty, fun c hc => isDecimal_of_isDigit (hdigits c hc)⟩, ?_⟩
    intro c hc hdecimal
    rcases List.mem_append.1 hc with hlead | hc
    · rw [not_isDecimal_lead c hlead] at hdecimal
      cases hdecimal
    · exact hdigits c hc
  · intro h
    obtain ⟨⟨digits, rfl, hnonempty, hdecimals⟩, hascii⟩ := h
    exact ⟨digits, rfl, hnonempty, fun c hc => hascii c (List.mem_append_right _ hc) (hdecimals c hc)⟩

theorem ends_of_isTargetedName {inner : List Char} (h : isTargetedName Char.isDigit inner = true) :
    ∃ first last rest init, inner = first :: rest ∧ inner = init ++ [last] ∧ isSpace first = false ∧ isSpace last = false := by
  obtain ⟨digits, rfl, hnonempty, hdigits⟩ := isTargetedName_iff.1 h
  refine ⟨'P', digits.getLast hnonempty, _, "Proxbox Sync: Virtual machine ".toList ++ digits.dropLast, rfl, ?_, by decide, ?_⟩
  · rw [List.append_assoc, List.dropLast_append_getLast hnonempty]
  · exact isSpace_of_isDigit (hdigits _ (List.getLast_mem hnonempty))

theorem ends_of_label {inner : List Char} (h : (inner == proxboxSyncJobName.toList) = true) :
    ∃ first last rest init, inner = first :: rest ∧ inner = init ++ [last] ∧ isSpace first = false ∧ isSpace last = false := by
  obtain rfl := beq_iff_eq.1 h
  exact ⟨'P', 'c', _, "Proxbox Syn".toList, rfl, by decide, by decide, by decide⟩

/-! ### Parity -/

namespace CoreJob

variable (job : CoreJob)

theorem hasSyncBlock_eq :
    job.hasSyncBlock = (jsonHasKey "proxbox_sync" job.data && jsonKeyNotNull "proxbox_sync" job.data) := by
  unfold hasSyncBlock
  cases job.data with
  | obj fields => exact (Bool.and_self _).symm
  | null => rfl
  | bool _ => rfl
  | int _ => rfl
  | float _ => rfl
  | str _ => exact (Bool.and_false _).symm
  | arr _ => exact (Bool.and_false _).symm

theorem legacyQueue_eq : (job.queueName.getD "" == legacyProxboxRqQueue) = job.queueIs legacyProxboxRqQueue := by
  unfold queueIs
  cases job.queueName with
  | none => decide
  | some name => rfl

theorem allowedQueue_eq : job.allowedQueue =
    (job.queueName.isNone || job.queueIs "" || job.queueIs "default" || job.queueIs legacyProxboxRqQueue) := by
  unfold allowedQueue queueIs
  cases job.queueName with
  | none => rfl
  | some name =>
    rw [Bool.eq_iff_iff]
    simp [or_assoc]

/-- What the filter selects for its name is what the predicate accepts, if the name is in ASCII. -/
theorem named_iff : (matchesPadded (· == proxboxSyncJobName.toList) job.name.toList && job.allowedQueue ||
      matchesPadded (isTargetedName Char.isDigit) job.name.toList) = true ↔ job.IsNamed ∧ job.AsciiName := by
  have hstrip : stripChars job.name.toList = (strip job.name).toList := by rw [strip, String.toList_ofList]
  rw [Bool.or_eq_true, Bool.and_eq_true, matchesPadded_iff_strip fun _ => ends_of_label, matchesPadded_iff_strip fun _ =>
    ends_of_isTargetedName,
    hstrip, beq_iff_eq, String.toList_inj, isTargetedName_isDigit_iff]
  constructor
  · intro h
    rcases h with ⟨⟨hname, hpadding⟩, hqueue⟩ | ⟨⟨hname, hdigits⟩, hpadding⟩
    · refine ⟨.inl ⟨hname, hqueue⟩, hpadding, ?_⟩
      rw [hname]
      intro c hc hdecimal
      rw [not_isDecimal_label c hc] at hdecimal
      cases hdecimal
    · exact ⟨.inr hname, hpadding, hdigits⟩
  · intro h
    obtain ⟨hnamed, hpadding, hdigits⟩ := h
    rcases hnamed with ⟨hname, hqueue⟩ | hname
    · exact .inl ⟨⟨hname, hpadding⟩, hqueue⟩
    · exact .inr ⟨⟨hname, hdigits⟩, hpadding⟩

end CoreJob

/-- The filter selects what the predicate accepts exactly if the row has the block or the old queue, or no name
of a sync, or one in ASCII. -/
theorem job_filter_parity_iff (job : CoreJob) : job.isProxboxSyncJob = job.isSelected ↔
    (job.hasSyncBlock = true ∨ job.queueName = some legacyProxboxRqQueue) ∨ ¬job.IsNamed ∨ job.AsciiName := by
  have hnamed := job.named_iff
  have hselected : job.isSelected = (job.hasSyncBlock || job.queueIs legacyProxboxRqQueue ||
      (matchesPadded (· == proxboxSyncJobName.toList) job.name.toList && job.allowedQueue ||
        matchesPadded (isTargetedName Char.isDigit) job.name.toList)) := by
    rw [job.hasSyncBlock_eq, job.allowedQueue_eq, ← Bool.or_assoc]
    rfl
  have haccepted : job.isProxboxSyncJob = (job.hasSyncBlock || job.queueIs legacyProxboxRqQueue ||
      (strip job.name == proxboxSyncJobName && job.allowedQueue || isTargetedName isDecimal (strip job.name).toList)) := by
    rw [← job.legacyQueue_eq, ← Bool.or_assoc]
    rfl
  have hIsNamed : (strip job.name == proxboxSyncJobName && job.allowedQueue || isTargetedName isDecimal
    (strip job.name).toList) = true ↔
      job.IsNamed := by
    rw [Bool.or_eq_true, Bool.and_eq_true, beq_iff_eq]
    rfl
  have hqueue : job.queueIs legacyProxboxRqQueue = true ↔ job.queueName = some legacyProxboxRqQueue := beq_iff_eq
  rw [haccepted, hselected, Bool.eq_iff_iff, Bool.or_eq_true, Bool.or_eq_true, hIsNamed, Bool.or_eq_true, hnamed,
    Bool.or_eq_true, hqueue]
  by_cases hother : job.hasSyncBlock = true ∨ job.queueName = some legacyProxboxRqQueue
  · simp only [hother, true_or]
  · by_cases hname : job.IsNamed
    · simp only [hother, hname, true_and, false_or, true_iff, not_true_eq_false]
    · simp only [hother, hname, false_and, false_or, not_false_eq_true, true_or]

/-- An ideographic space in front of the name, and the digit four of another script. -/
theorem unicode_names_are_not_selected :
    let padded : CoreJob := ⟨"\u3000Proxbox Sync", some "default", .null⟩
    let numbered : CoreJob := ⟨"Proxbox Sync: Virtual machine \u0664", none, .null⟩
    (padded.isProxboxSyncJob = true ∧ padded.isSelected = false) ∧ numbered.isProxboxSyncJob = true ∧
      numbered.isSelected = false := by
  decide +kernel

end Proxbox
