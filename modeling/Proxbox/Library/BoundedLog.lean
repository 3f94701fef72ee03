import Mathlib.Data.List.Basic
import Mathlib.Data.List.Range
/-!
# A bounded log read by position

Entries are numbered from one as they are appended, and only the newest `capacity` of them are kept. A reader
passes the position it has read up to, gets a page of what follows and the position to go on from, and is told
of a gap when entries after its position are no longer kept.
-/

structure BoundedLog (α : Type) (capacity : Nat) where
  entries : List (Nat × α)
  last : Nat
  consecutive : entries.map Prod.fst = List.range' (last + 1 - entries.length) entries.length
  length_le_last : entries.length ≤ last
  length_le : entries.length ≤ capacity

namespace BoundedLog

variable {α : Type} {capacity : Nat}

def empty : BoundedLog α capacity := ⟨[], 0, rfl, Nat.le_refl _, Nat.zero_le _⟩

/-- The number of the oldest entry that is kept, or of the next one if none is. -/
def oldest (log : BoundedLog α capacity) : Nat := log.last + 1 - log.entries.length

theorem map_fst_concat (log : BoundedLog α capacity) (a : α) :
    (log.entries ++ [(log.last + 1, a)]).map Prod.fst = List.range' log.oldest (log.entries.length + 1) := by
  have hlast := log.length_le_last
  rw [List.map_append, log.consecutive, List.range'_1_concat, List.map_singleton, oldest]
  congr 2
  omega

def append (log : BoundedLog α capacity) (a : α) : BoundedLog α capacity where
  entries := (log.entries ++ [(log.last + 1, a)]).drop (log.entries.length + 1 - capacity)
  last := log.last + 1
  consecutive := by
    have hlast := log.length_le_last
    rw [List.map_drop, log.map_fst_concat, List.drop_range', List.length_drop, List.length_append,
      List.length_singleton, oldest]
    congr 1
    omega
  length_le_last := by
    have hlast := log.length_le_last
    simp only [List.length_drop, List.length_append, List.length_singleton]
    omega
  length_le := by
    simp only [List.length_drop, List.length_append, List.length_singleton]
    omega

theorem mem_bounds {log : BoundedLog α capacity} {entry : Nat × α} (hentry : entry ∈ log.entries) :
    log.oldest ≤ entry.1 ∧ entry.1 ≤ log.last := by
  have hnumber : entry.1 ∈ log.entries.map Prod.fst := List.mem_map_of_mem hentry
  have hlast := log.length_le_last
  rw [log.consecutive, List.mem_range'_1] at hnumber
  exact ⟨hnumber.1, by omega⟩

theorem number_pos {log : BoundedLog α capacity} {entry : Nat × α} (hentry : entry ∈ log.entries) : 0 < entry.1 := by
  have hlast := log.length_le_last
  have holdest := (mem_bounds hentry).1
  rw [oldest] at holdest
  omega

theorem pairwise_entries (log : BoundedLog α capacity) :
    log.entries.Pairwise fun earlier later => earlier.1 < later.1 := by
  have hnumbers : (log.entries.map Prod.fst).Pairwise (· < ·) := by
    rw [log.consecutive]
    exact List.pairwise_lt_range' 1
  exact List.pairwise_map.1 hnumbers

theorem oldest_of_cons {log : BoundedLog α capacity} {entry : Nat × α} {rest : List (Nat × α)}
    (hentries : log.entries = entry :: rest) : log.oldest = entry.1 := by
  have hnumbers := log.consecutive
  rw [hentries, List.map_cons, List.length_cons, List.range'_succ] at hnumbers
  rw [oldest, hentries, List.length_cons, (List.cons.inj hnumbers).1]

theorem oldest_le_append (log : BoundedLog α capacity) (a : α) : log.oldest ≤ (log.append a).oldest := by
  have hlast := log.length_le_last
  simp only [oldest, append, List.length_drop, List.length_append, List.length_singleton]
  omega

theorem mem_append_or {log : BoundedLog α capacity} {a : α} {entry : Nat × α}
    (hentry : entry ∈ log.entries ++ [(log.last + 1, a)]) :
    entry ∈ (log.append a).entries ∨ entry.1 < (log.append a).oldest := by
  obtain ⟨index, hindex⟩ := List.mem_iff_getElem?.1 hentry
  by_cases hkept : log.entries.length + 1 - capacity ≤ index
  · refine .inl (List.mem_iff_getElem?.2 ⟨index - (log.entries.length + 1 - capacity), ?_⟩)
    rw [append, List.getElem?_drop, Nat.add_sub_cancel' hkept, hindex]
  · -- What is dropped is the front of the numbers, which ends where the kept ones begin.
    have hlast := log.length_le_last
    have hnumber : ((log.entries ++ [(log.last + 1, a)]).map Prod.fst)[index]? = some entry.1 := by
      rw [List.getElem?_map, hindex, Option.map_some]
    rw [log.map_fst_concat, List.getElem?_range' (by omega)] at hnumber
    have hnumber := Option.some.inj hnumber
    refine .inr ?_
    simp only [oldest, append, List.length_drop, List.length_append, List.length_singleton] at hnumber ⊢
    omega

theorem mem_append_self (hcapacity : 0 < capacity) (log : BoundedLog α capacity) (a : α) :
    (log.last + 1, a) ∈ (log.append a).entries := by
  rcases mem_append_or (List.mem_append_right log.entries (List.mem_singleton_self (log.last + 1, a))) with
    hkept | hevicted
  · exact hkept
  · -- The last number would be older than everything kept, but something is kept.
    simp only [oldest, append, List.length_drop, List.length_append, List.length_singleton] at hevicted
    omega

/-! ### Reading -/

/-- The first `limit` of the own entries after a position. -/
def page (log : BoundedLog α capacity) (own : α → Bool) (position : Int) (limit : Nat) : List (Nat × α) :=
  ((log.entries.filter fun entry => own entry.2).filter fun entry => position < entry.1).take limit

/-- Where a reader goes on after a page. -/
def next (position : Int) (page : List (Nat × α)) : Int :=
  match page.getLast? with
  | some entry => entry.1
  | none => max position 0

/-- Entries after the position are no longer kept. -/
def gap (log : BoundedLog α capacity) (position : Int) : Bool := position < (log.oldest : Int) - 1

section Page

variable {log : BoundedLog α capacity} {own : α → Bool} {position : Int} {limit : Nat} {entry : Nat × α}

theorem mem_of_mem_page (hentry : entry ∈ log.page own position limit) :
    entry ∈ log.entries ∧ own entry.2 = true ∧ position < entry.1 := by
  have hfiltered := List.mem_of_mem_take hentry
  simp only [List.mem_filter, decide_eq_true_eq] at hfiltered
  exact ⟨hfiltered.1.1, hfiltered.1.2, hfiltered.2⟩

theorem pairwise_page : (log.page own position limit).Pairwise fun earlier later => earlier.1 < later.1 :=
  ((log.pairwise_entries.filter _).filter _).take

theorem le_next_of_mem (hentry : entry ∈ log.page own position limit) :
    (entry.1 : Int) ≤ next position (log.page own position limit) := by
  have hsorted : (log.page own position limit).Pairwise fun earlier later => earlier.1 < later.1 := pairwise_page
  rcases List.eq_nil_or_concat' (log.page own position limit) with hnil | ⟨init, final, hpage⟩
  · rw [hnil] at hentry
    cases hentry
  · rw [hpage] at hentry hsorted ⊢
    rw [next, List.getLast?_concat]
    rcases List.mem_append.1 hentry with hinit | hfinal
    · have hbefore := (List.pairwise_append.1 hsorted).2.2 entry hinit final List.mem_cons_self
      exact Int.ofNat_le.2 hbefore.le
    · obtain rfl := List.mem_singleton.1 hfinal
      exact Int.le_refl _

theorem position_le_next : position ≤ next position (log.page own position limit) := by
  rw [next]
  split
  · next final hfinal =>
      have hafter := (mem_of_mem_page (List.mem_of_getLast? hfinal)).2.2
      exact Int.le_of_lt hafter
  · exact Int.le_max_left _ _

theorem mem_page_or (hentry : entry ∈ log.entries) (hown : own entry.2 = true) (hafter : position < entry.1) :
    entry ∈ log.page own position limit ∨
      (log.page own position limit).length = limit ∧ next position (log.page own position limit) < entry.1 := by
  let following := (log.entries.filter fun entry => own entry.2).filter fun entry => position < entry.1
  have hsorted : following.Pairwise fun earlier later => earlier.1 < later.1 :=
    (log.pairwise_entries.filter _).filter _
  have hmem : entry ∈ following.take limit ++ following.drop limit := by
    rw [List.take_append_drop, List.mem_filter, List.mem_filter, decide_eq_true_eq]
    exact ⟨⟨hentry, hown⟩, hafter⟩
  rw [← List.take_append_drop limit following, List.pairwise_append] at hsorted
  rcases List.mem_append.1 hmem with hpage | hrest
  · exact .inl hpage
  · refine .inr ⟨?_, ?_⟩
    · have hlong := List.length_pos_of_mem hrest
      rw [List.length_drop] at hlong
      change (following.take limit).length = limit
      rw [List.length_take]
      omega
    · change next position (following.take limit) < entry.1
      rw [next]
      split
      · next final hfinal => exact Int.ofNat_lt.2 (hsorted.2.2 final (List.mem_of_getLast? hfinal) entry hrest)
      · exact Int.max_lt.2 ⟨hafter, Int.natCast_pos.2 (number_pos hentry)⟩

theorem gap_of_lt_oldest (hafter : position < entry.1) (hevicted : entry.1 < log.oldest) :
    log.gap position = true := by
  rw [gap, decide_eq_true_eq]
  omega

theorem next_le : next position (log.page own position limit) ≤ max position log.last := by
  rw [next]
  split
  · next final hfinal =>
      have hlast := (mem_bounds (mem_of_mem_page (List.mem_of_getLast? hfinal)).1).2
      omega
  · omega

end Page

/-! ### A reader that follows its position -/

inductive Event (α : Type) where
  | append (a : α)
  | read (limit : Nat)

structure Read (α : Type) (capacity : Nat) where
  log : BoundedLog α capacity
  position : Int
  limit : Nat

def Read.page (own : α → Bool) (read : Read α capacity) : List (Nat × α) :=
  read.log.page own read.position read.limit

section Follow

variable (own : α → Bool)

def follow : BoundedLog α capacity → Int → List (Event α) → List (Read α capacity)
  | _, _, [] => []
  | log, position, .append a :: events => follow (log.append a) position events
  | log, position, .read limit :: events =>
    ⟨log, position, limit⟩ :: follow log (next position (log.page own position limit)) events

def reached : BoundedLog α capacity → Int → List (Event α) → Int
  | _, position, [] => position
  | log, position, .append a :: events => reached (log.append a) position events
  | log, position, .read limit :: events => reached log (next position (log.page own position limit)) events

def appended : Nat → List (Event α) → List (Nat × α)
  | _, [] => []
  | last, .append a :: events => (last + 1, a) :: appended (last + 1) events
  | last, .read _ :: events => appended last events

/-- Each of `all` is kept, or older than everything kept. -/
def Covers (log : BoundedLog α capacity) (all : List (Nat × α)) : Prop :=
  ∀ entry ∈ all, entry ∈ log.entries ∨ entry.1 < log.oldest

variable {own} {log : BoundedLog α capacity} {position : Int} {events : List (Event α)} {all : List (Nat × α)}
  {read : Read α capacity} {entry : Nat × α}

theorem covers_entries (log : BoundedLog α capacity) : log.Covers log.entries := fun _ hentry => .inl hentry

theorem Covers.append (hcovers : log.Covers all) (a : α) : (log.append a).Covers (all ++ [(log.last + 1, a)]) := by
  intro entry hentry
  rcases List.mem_append.1 hentry with hentry | hentry
  · rcases hcovers entry hentry with hkept | holder
    · exact mem_append_or (List.mem_append_left _ hkept)
    · exact .inr (Nat.lt_of_lt_of_le holder (log.oldest_le_append a))
  · exact mem_append_or (List.mem_append_right _ hentry)

theorem lt_of_mem_appended {last : Nat} (hentry : entry ∈ appended last events) : last < entry.1 := by
  induction events generalizing last with
  | nil => cases hentry
  | cons event events ih =>
    cases event with
    | append a =>
      rcases List.mem_cons.1 hentry with rfl | hentry
      · exact Nat.lt_succ_self last
      · exact Nat.lt_of_succ_lt (ih hentry)
    | read limit => exact ih hentry

theorem position_le_of_mem_follow (hread : read ∈ follow own log position events) : position ≤ read.position := by
  induction events generalizing log position with
  | nil => cases hread
  | cons event events ih =>
    cases event with
    | append a => exact ih hread
    | read limit =>
      rcases List.mem_cons.1 hread with rfl | hread
      · exact Int.le_refl _
      · exact Int.le_trans position_le_next (ih hread)

theorem covers_of_mem_follow (hcovers : log.Covers all) (hread : read ∈ follow own log position events)
    (hentry : entry ∈ all ++ appended log.last events) (hbefore : entry.1 ≤ read.log.last) :
    entry ∈ read.log.entries ∨ entry.1 < read.log.oldest := by
  induction events generalizing log position all with
  | nil => cases hread
  | cons event events ih =>
    cases event with
    | append a =>
      refine ih (hcovers.append a) hread ?_
      rwa [List.append_assoc]
    | read limit =>
      rcases List.mem_cons.1 hread with rfl | hread
      · rcases List.mem_append.1 hentry with hentry | hentry
        · exact hcovers entry hentry
        · exact absurd (lt_of_mem_appended hentry) (Nat.not_lt.2 hbefore)
      · exact ih hcovers hread hentry

theorem mem_of_mem_follow (hread : read ∈ follow own log position events) (hentry : entry ∈ read.log.entries) :
    entry ∈ log.entries ++ appended log.last events := by
  induction events generalizing log position with
  | nil => cases hread
  | cons event events ih =>
    cases event with
    | append a =>
      have hmem := ih hread
      rcases List.mem_append.1 hmem with hkept | hlater
      · rcases List.mem_append.1 (List.mem_of_mem_drop hkept) with hkept | hnew
        · exact List.mem_append_left _ hkept
        · exact List.mem_append_right _ (List.mem_cons.2 (.inl (List.mem_singleton.1 hnew)))
      · exact List.mem_append_right _ (List.mem_cons_of_mem _ hlater)
    | read limit =>
      rcases List.mem_cons.1 hread with rfl | hread
      · exact List.mem_append_left _ hentry
      · exact ih hread

theorem pairwise_follow :
    ((follow own log position events).flatMap (Read.page own)).Pairwise fun earlier later => earlier.1 < later.1 := by
  induction events generalizing log position with
  | nil => exact List.Pairwise.nil
  | cons event events ih =>
    cases event with
    | append a => exact ih
    | read limit =>
      rw [follow, List.flatMap_cons, List.pairwise_append]
      refine ⟨pairwise_page, ih, fun earlier hearlier later hlater => ?_⟩
      obtain ⟨read, hread, hlater⟩ := List.mem_flatMap.1 hlater
      have hend : (earlier.1 : Int) ≤ next position (log.page own position limit) := le_next_of_mem hearlier
      have hstart := position_le_of_mem_follow hread
      have hafter := (mem_of_mem_page hlater).2.2
      omega

theorem mem_read_or (hcovers : log.Covers all) (hread : read ∈ follow own log position events)
    (hentry : entry ∈ all ++ appended log.last events) (hbefore : entry.1 ≤ read.log.last)
    (hown : own entry.2 = true) (hafter : read.position < entry.1) :
    entry ∈ read.page own ∨
      (read.page own).length = read.limit ∧ next read.position (read.page own) < entry.1 ∨
      entry.1 < read.log.oldest ∧ read.log.gap read.position = true := by
  rcases covers_of_mem_follow hcovers hread hentry hbefore with hkept | holder
  · rcases mem_page_or hkept hown hafter with hpage | hfull
    · exact .inl hpage
    · exact .inr (.inl hfull)
  · exact .inr (.inr ⟨holder, gap_of_lt_oldest hafter holder⟩)

/-- Every own entry the reader has passed was on one of its pages, or was lost to a read that reported a gap. -/
theorem follow_complete (hcovers : log.Covers all) (hentry : entry ∈ all ++ appended log.last events)
    (hown : own entry.2 = true) (hafter : position < entry.1) (hpassed : entry.1 ≤ reached own log position events) :
    (∃ read ∈ follow own log position events, entry ∈ read.page own) ∨
      ∃ read ∈ follow own log position events,
        entry.1 < read.log.oldest ∧ read.log.gap read.position = true := by
  induction events generalizing log position all with
  | nil => exact absurd hafter (Int.not_lt.2 hpassed)
  | cons event events ih =>
    cases event with
    | append a => exact ih (hcovers.append a) (by rwa [List.append_assoc]) hafter hpassed
    | read limit =>
      by_cases hnext : next position (log.page own position limit) < entry.1
      · -- The entry lies ahead of this page: one of the later reads accounts for it.
        rcases ih hcovers hentry hnext hpassed with ⟨read, hread, hpage⟩ | ⟨read, hread, hlost⟩
        · exact .inl ⟨read, List.mem_cons_of_mem _ hread, hpage⟩
        · exact .inr ⟨read, List.mem_cons_of_mem _ hread, hlost⟩
      · have hhead : (⟨log, position, limit⟩ : Read α capacity) ∈ follow own log position (.read limit :: events) :=
          List.mem_cons_self
        have hend : next position (log.page own position limit) ≤ max position log.last := next_le
        have hbefore : entry.1 ≤ log.last := by omega
        rcases mem_read_or hcovers hhead hentry hbefore hown hafter with hpage | ⟨-, hahead⟩ | hlost
        · exact .inl ⟨_, hhead, hpage⟩
        · exact absurd hahead hnext
        · exact .inr ⟨_, hhead, hlost⟩

end Follow

end BoundedLog
