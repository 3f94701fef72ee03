import Mathlib.Data.String.Basic
import Proxbox.Library.Calendar
import Proxbox.Library.Grouping
/-!
# The calendar of data protection

The events of a month or of a week are laid out in cells, one for each day. A cell shows a few events, holds
some more behind an expander and counts the rest. What the layout keeps is every event: in the cell of its day,
and nowhere else.
-/

namespace Proxbox

open Python Calendar

abbrev Date := Fin calendarDays

/-- The date with a number; the source raises past the last one. -/
def dateOf (day : Nat) : Option Date := if h : day < calendarDays then some ⟨day, h⟩ else none

def Date.add (date : Date) (days : Nat) : Option Date := dateOf (date.val + days)

/-- An event; `shown` stands for the fields that are only displayed. -/
structure CalendarEvent (π : Type) where
  day : Date
  sortKey : String
  shown : π

structure CalendarDayCell (π : Type) where
  date : Date
  inMonth : Bool
  isToday : Bool
  events : List (CalendarEvent π)
  overflow : List (CalendarEvent π)
  hiddenCount : Nat

/-- The view; every name but `week` is the month's. -/
inductive CalendarView
  | week
  | month

variable {π : Type}

/-! ### The days of a view -/

/-- `Calendar(firstweekday=MONDAY).monthdatescalendar`: the days of the month, and those of its first and last
week. -/
def monthGridDates (anchor : Date) : Option (List (List Date)) := do
  let first := monthStart anchor
  let length := monthLength anchor
  let daysBefore := weekday first
  let daysAfter := (7 - (weekday first + length) % 7) % 7
  let dates ← (List.range' (first - daysBefore) (daysBefore + length + daysAfter)).mapM dateOf
  return chunks 7 dates

def visibleRange (anchor : Date) : CalendarView → Option (Date × Date)
  | .week => do
      let start ← dateOf (anchor.val - weekday anchor)
      return (start, ← start.add 7)
  | .month => do
      let rows ← monthGridDates anchor
      let first ← rows.head?.bind List.head?
      let last ← rows.getLast?.bind List.getLast?
      return (first, ← last.add 1)

/-! ### The cells -/

def calendarEventLimit : Int := 4

def calendarOverflowLimit : Int := 40

def capDayEvents (events : List (CalendarEvent π)) (limit overflowLimit : Int) :
    List (CalendarEvent π) × List (CalendarEvent π) × Nat :=
  let ordered := sortedBy (·.sortKey) events
  let cap := (max 0 limit).toNat
  let overflowCap := (max 0 overflowLimit).toNat
  let overflowEnd := cap + overflowCap
  (ordered.take cap, (ordered.take overflowEnd).drop cap, ordered.length - overflowEnd)

def eventsByDay (events : List (CalendarEvent π)) : Dict Date (List (CalendarEvent π)) :=
  Dict.accumulate (·.day) (fun found event => found.getD [] ++ [event]) Dict.empty events

def dayCell (day anchor : Date) (grouped : Dict Date (List (CalendarEvent π))) (today : Date) : CalendarDayCell π :=
  let (visible, overflow, hiddenCount) :=
    capDayEvents ((grouped.get? day).getD []) calendarEventLimit calendarOverflowLimit
  { date := day
    inMonth := monthOf day = monthOf anchor
    isToday := day = today
    events := visible
    overflow := overflow
    hiddenCount := hiddenCount }

section Grids

variable (anchor : Date) (events : List (CalendarEvent π)) (today : Option Date) (clock : Date)

def buildMonthGrid : Option (List (List (CalendarDayCell π))) := do
  let grouped := eventsByDay events
  let current := today.getD clock
  let rows ← monthGridDates anchor
  return rows.map fun week => week.map fun day => dayCell day anchor grouped current

def buildWeekGrid : Option (List (List (CalendarDayCell π))) := do
  let (start, _) ← visibleRange anchor .week
  let grouped := eventsByDay events
  let current := today.getD clock
  let days ← (List.range 7).mapM start.add
  return [days.map fun day => dayCell day anchor grouped current]

def buildGrid : CalendarView → Option (List (List (CalendarDayCell π)))
  | .week => buildWeekGrid anchor events today clock
  | .month => buildMonthGrid anchor events today clock

end Grids

/-! ### What a grid keeps -/

def weekEnd (day : Nat) : Nat := day - weekday day + 7

/-- The weeks that the view shows are inside the calendar. -/
def CalendarView.Within (anchor : Date) : CalendarView → Prop
  | .week => weekEnd anchor ≤ calendarDays
  | .month => weekEnd (nextMonth anchor - 1) ≤ calendarDays

instance (anchor : Date) (view : CalendarView) : Decidable (view.Within anchor) := by
  cases view <;> exact inferInstanceAs (Decidable (_ ≤ _))

def CalendarDayCell.Accounts (cell : CalendarDayCell π) (events : List (CalendarEvent π)) : Prop :=
  ∃ hidden : List (CalendarEvent π),
    hidden.length = cell.hiddenCount ∧
      StablySorted (·.sortKey) (events.filter (·.day = cell.date)) (cell.events ++ cell.overflow ++ hidden)

structure Conserves (events : List (CalendarEvent π)) (start stop : Date) (cells : List (CalendarDayCell π)) : Prop where
  one_cell : ∀ day : Date, (cells.filter (·.date = day)).length = if start ≤ day ∧ day < stop then 1 else 0
  accounted : ∀ cell ∈ cells, cell.Accounts events
  adds_up : ∀ cell ∈ cells,
    cell.events.length + cell.overflow.length + cell.hiddenCount = (events.filter (·.day = cell.date)).length
  in_one_cell : ∀ event ∈ events, start ≤ event.day → event.day < stop →
    ∃ before cell after, cells = before ++ cell :: after ∧ cell.date = event.day ∧
      ∀ other ∈ before ++ after, other.date ≠ event.day ∧ event ∉ other.events ++ other.overflow
  outside : ∀ event : CalendarEvent π, ¬ (start ≤ event.day ∧ event.day < stop) →
    ∀ cell ∈ cells, cell.date ≠ event.day ∧ event ∉ cell.events ++ cell.overflow
  in_order : ∀ cell ∈ cells, ∃ ordered,
    StablySorted (·.sortKey) (events.filter (·.day = cell.date)) ordered ∧ cell.events ++ cell.overflow <+: ordered

section Cells

variable {events : List (CalendarEvent π)} {anchor today : Date}

theorem dayCell_accounts (day : Date) : (dayCell day anchor (eventsByDay events) today).Accounts events := by
  have hevents : ((eventsByDay events).get? day).getD [] = events.filter (·.day = day) :=
    Dict.getD_accumulate_append events day
  have hsorted := stablySorted_sortedBy (·.sortKey) (events.filter (·.day = day))
  refine ⟨(sortedBy (·.sortKey) (events.filter (·.day = day))).drop 44, ?_, ?_⟩
  · rw [List.length_drop]
    change _ = (sortedBy (·.sortKey) (((eventsByDay events).get? day).getD [])).length - 44
    rw [hevents]
  · have htake (ordered : List (CalendarEvent π)) : ordered.take 4 ++ (ordered.take 44).drop 4 ++
      ordered.drop 44 = ordered := by
      have hfour : ordered.take 4 = (ordered.take 44).take 4 := by rw [List.take_take]; rfl
      rw [hfour, List.take_append_drop, List.take_append_drop]
    change StablySorted _ _ ((sortedBy (·.sortKey) (((eventsByDay events).get? day).getD [])).take 4 ++
      ((sortedBy (·.sortKey) (((eventsByDay events).get? day).getD [])).take 44).drop 4 ++ _)
    rw [hevents, htake]
    exact hsorted

variable {cell : CalendarDayCell π}

theorem CalendarDayCell.Accounts.adds_up (h : cell.Accounts events) :
    cell.events.length + cell.overflow.length + cell.hiddenCount = (events.filter (·.day = cell.date)).length := by
  obtain ⟨hidden, hlength, hsorted⟩ := h
  rw [← hsorted.perm.length_eq, List.length_append, List.length_append, hlength]

theorem CalendarDayCell.Accounts.in_order (h : cell.Accounts events) :
    ∃ ordered, StablySorted (·.sortKey) (events.filter (·.day = cell.date)) ordered ∧
      cell.events ++ cell.overflow <+: ordered := by
  obtain ⟨hidden, -, hsorted⟩ := h
  exact ⟨_, hsorted, List.prefix_append _ _⟩

theorem CalendarDayCell.Accounts.day_eq (h : cell.Accounts events) {event : CalendarEvent π}
    (hmem : event ∈ cell.events ++ cell.overflow) : event.day = cell.date := by
  obtain ⟨hidden, -, hsorted⟩ := h
  have hday := (hsorted.perm.mem_iff).1 (List.mem_append_left hidden hmem)
  simpa using (List.mem_filter.1 hday).2

theorem conserves_of_dates {cells : List (CalendarDayCell π)} {start stop : Date}
    (hdates : (cells.map (·.date.val)) = List.range' start (stop.val - start.val))
      (hcells : ∀ cell ∈ cells, cell.Accounts events) :
    Conserves events start stop cells := by
  have hmem (day : Date) : (∃ cell ∈ cells, cell.date = day) ↔ start ≤ day ∧ day < stop := by
    have hval : (∃ cell ∈ cells, cell.date = day) ↔ day.val ∈ cells.map (·.date.val) := by
      simp [Fin.ext_iff]
    rw [hval, hdates, List.mem_range'_1, Fin.le_def, Fin.lt_def]
    omega
  have hnodup : (cells.map (·.date)).Nodup := by
    have hvals : (cells.map (·.date.val)).Nodup := hdates ▸ List.nodup_range' 1
    rw [show cells.map (·.date.val) = (cells.map (·.date)).map Fin.val by rw [List.map_map]; rfl] at hvals
    exact hvals.of_map _
  have hout {event : CalendarEvent π} {cell : CalendarDayCell π} (hcell : cell ∈ cells) (hday : cell.date ≠ event.day) :
      event ∉ cell.events ++ cell.overflow := fun hevent => hday ((hcells cell hcell).day_eq hevent).symm
  refine ⟨fun day => ?_, hcells, fun cell hcell => (hcells cell hcell).adds_up, ?_, ?_,
    fun cell hcell => (hcells cell hcell).in_order⟩
  · have hcount : (cells.filter (·.date = day)).length = (cells.map (·.date)).count day := by
      rw [List.count_eq_countP, List.countP_map, List.countP_eq_length_filter]
      rfl
    rw [hcount]
    split_ifs with hin
    · obtain ⟨cell, hcell, hday⟩ := (hmem day).2 hin
      exact List.count_eq_one_of_mem hnodup (List.mem_map.2 ⟨cell, hcell, hday⟩)
    · refine List.count_eq_zero.2 fun hday => hin ((hmem day).1 ?_)
      obtain ⟨cell, hcell, hday⟩ := List.mem_map.1 hday
      exact ⟨cell, hcell, hday⟩
  · intro event _ hstart hstop
    obtain ⟨cell, hcell, hday⟩ := (hmem event.day).2 ⟨hstart, hstop⟩
    obtain ⟨before, after, rfl⟩ := List.append_of_mem hcell
    refine ⟨before, cell, after, rfl, hday, fun other hother => ?_⟩
    rw [List.map_append, List.map_cons, List.nodup_middle, List.nodup_cons, ← List.map_append] at hnodup
    have hne : other.date ≠ event.day := fun heq => hnodup.1 (List.mem_map.2 ⟨other, hother, heq.trans hday.symm⟩)
    exact ⟨hne, hout (by rw [List.mem_append] at hother; simp; tauto) hne⟩
  · intro event houtside cell hcell
    have hne : cell.date ≠ event.day := fun heq => houtside ((hmem event.day).1 ⟨cell, hcell, heq⟩)
    exact ⟨hne, hout hcell hne⟩

end Cells

section Days

theorem dateOf_eq {day : Nat} (h : day < calendarDays) : dateOf day = some ⟨day, h⟩ := dif_pos h

theorem mapM_dateOf (start count : Nat) (h : start + count ≤ calendarDays) :
    ∃ dates : List Date, (List.range' start count).mapM dateOf = some dates ∧ dates.map Fin.val = List.range' start count := by
  induction count generalizing start with
  | zero => exact ⟨[], rfl, rfl⟩
  | succ count ih =>
    obtain ⟨dates, hdates, hvals⟩ := ih (start + 1) (by omega)
    refine ⟨⟨start, by omega⟩ :: dates, ?_, ?_⟩
    · rw [List.range'_succ, List.mapM_cons, dateOf_eq (by omega), hdates]
      rfl
    · rw [List.map_cons, hvals, List.range'_succ]

theorem weekEnd_lt {day : Nat} (h : weekEnd day ≤ calendarDays) : weekEnd day < calendarDays := by
  -- The last day of the calendar is a Friday, so no week ends with it.
  unfold weekEnd weekday calendarDays at *
  omega

theorem monthGridDates_spec {anchor : Date} (h : CalendarView.month.Within anchor) :
    ∃ rows start stop, monthGridDates anchor = some rows ∧ (∀ row ∈ rows, row ≠ []) ∧ start.val < stop.val ∧
      rows.flatten.map Fin.val = List.range' (start : Date).val ((stop : Date).val - start.val) := by
  have hlength : 28 ≤ monthLength anchor := daysInMonth_pos _ _
  have hstop := weekEnd_lt h
  have hnext : nextMonth anchor = monthStart anchor + monthLength anchor := rfl
  have hsum : monthStart anchor - weekday (monthStart anchor) +
      (weekday (monthStart anchor) + monthLength anchor + (7 - (weekday (monthStart anchor) + monthLength anchor) % 7) % 7) =
        weekEnd (nextMonth anchor - 1) := by
    unfold weekEnd weekday
    omega
  obtain ⟨dates, hdates, hvals⟩ := mapM_dateOf (monthStart anchor - weekday (monthStart anchor)) _ (hsum.trans_le h)
  refine ⟨chunks 7 dates, ⟨monthStart anchor - weekday (monthStart anchor), by omega⟩, ⟨_, hstop⟩, ?_,
    fun row hrow => ne_nil_of_mem_chunks (by decide) hrow, by dsimp only; omega, ?_⟩
  · unfold monthGridDates
    dsimp only
    rw [hdates]
    rfl
  · rw [flatten_chunks (by decide), hvals]
    dsimp only
    rw [← hsum, Nat.add_sub_cancel_left]

theorem ends_of_range' {dates : List Date} {start stop : Date} (hlt : start.val < stop.val)
    (hdates : dates.map Fin.val = List.range' start (stop.val - start.val)) :
    dates.head? = some start ∧ ∃ last, dates.getLast? = some last ∧ last.add 1 = some stop := by
  obtain ⟨count, hcount⟩ : ∃ count, stop.val - start.val = count + 1 := ⟨stop.val - start.val - 1, by omega⟩
  have hhead : (dates.map Fin.val).head? = some start.val := by rw [hdates, hcount, List.range'_succ]; rfl
  have hlast : (dates.map Fin.val).getLast? = some (start.val + count) := by
    rw [hdates, hcount, List.range'_concat, Nat.one_mul, List.getLast?_concat]
  rw [List.head?_map, Option.map_eq_some_iff] at hhead
  rw [List.getLast?_map, Option.map_eq_some_iff] at hlast
  obtain ⟨first, hfirst, hval⟩ := hhead
  obtain ⟨last, hlast, hend⟩ := hlast
  refine ⟨hfirst.trans (congrArg some (Fin.ext hval)), last, hlast, ?_⟩
  have hstop : last.val + 1 = stop.val := by omega
  unfold Date.add
  rw [hstop, dateOf_eq stop.isLt]

end Days

variable (anchor : Date) (events : List (CalendarEvent π)) (today : Option Date) (clock : Date)

theorem map_date_cells (current : Date) (days : List Date) :
    (days.map fun day => dayCell day anchor (eventsByDay events) current).map (·.date.val) = days.map Fin.val := by
  rw [List.map_map]
  rfl

theorem month_conserves (h : CalendarView.month.Within anchor) :
    ∃ start stop grid, visibleRange anchor .month = some (start, stop) ∧
      buildGrid anchor events today clock .month = some grid ∧ Conserves events start stop grid.flatten := by
  obtain ⟨rows, start, stop, hrows, hne, hlt, hdays⟩ := monthGridDates_spec h
  obtain ⟨hfirst, last, hlast, hstop⟩ := ends_of_range' hlt hdays
  refine ⟨start, stop, rows.map fun week => week.map fun day => dayCell day anchor (eventsByDay events) (today.getD clock),
    ?_, ?_, ?_⟩
  · unfold visibleRange
    rw [hrows]
    simp only [Option.bind_eq_bind, Option.bind_some, head?_flatten_of_ne_nil hne, getLast?_flatten_of_ne_nil hne,
      hfirst, hlast, hstop]
    rfl
  · unfold buildGrid buildMonthGrid
    rw [hrows]
    rfl
  · rw [← List.map_flatten]
    refine conserves_of_dates ((map_date_cells anchor events _ _).trans hdays) fun cell hcell => ?_
    obtain ⟨day, -, rfl⟩ := List.mem_map.1 hcell
    exact dayCell_accounts day

theorem week_conserves (h : CalendarView.week.Within anchor) :
    ∃ start stop grid, visibleRange anchor .week = some (start, stop) ∧
      buildGrid anchor events today clock .week = some grid ∧ Conserves events start stop grid.flatten := by
  have hstop : weekEnd anchor < calendarDays := weekEnd_lt h
  have hstart : anchor.val - weekday anchor < calendarDays := by omega
  have hrange : visibleRange anchor .week = some (⟨_, hstart⟩, ⟨weekEnd anchor, hstop⟩) := by
    unfold visibleRange Date.add
    dsimp only
    rw [dateOf_eq hstart]
    simp only [Option.bind_eq_bind, Option.bind_some]
    rw [show dateOf (anchor.val - weekday anchor + 7) = some ⟨weekEnd anchor, hstop⟩ from dateOf_eq hstop]
    rfl
  obtain ⟨dates, hdates, hvals⟩ := mapM_dateOf (anchor.val - weekday anchor) 7 hstop.le
  have hdays : (List.range 7).mapM (Date.add ⟨_, hstart⟩) = some dates := by
    rw [← hdates, List.range'_eq_map_range, List.mapM_map]
    rfl
  refine ⟨_, _, [dates.map fun day => dayCell day anchor (eventsByDay events) (today.getD clock)], hrange, ?_, ?_⟩
  · unfold buildGrid buildWeekGrid
    dsimp only
    rw [hrange]
    simp only [Option.bind_eq_bind, Option.bind_some, hdays]
    rfl
  · rw [List.flatten_singleton]
    have hseven : weekEnd anchor - (anchor.val - weekday anchor) = 7 := by
      unfold weekEnd
      omega
    refine conserves_of_dates ((map_date_cells anchor events _ _).trans ?_) fun cell hcell => ?_
    · rw [hvals, hseven]
    · obtain ⟨day, -, rfl⟩ := List.mem_map.1 hcell
      exact dayCell_accounts day

/-- The grid of a view has one cell for each day that the view shows, and every event of these days is accounted
for in the cell of its day. -/
theorem grid_conserves (view : CalendarView) (h : view.Within anchor) :
    ∃ start stop grid, visibleRange anchor view = some (start, stop) ∧
      buildGrid anchor events today clock view = some grid ∧ Conserves events start stop grid.flatten := by
  cases view with
  | week => exact week_conserves anchor events today clock h
  | month => exact month_conserves anchor events today clock h

/-- Fifty backups of one night, every other one of them at midnight, and one of the next day. -/
def busyNight : List (CalendarEvent Nat) :=
  ⟨⟨739936, by decide⟩, "00:00", 50⟩ ::
    (List.range 50).map fun n => ⟨⟨739935, by decide⟩, if n % 2 = 0 then "23:30" else "00:00", n⟩

def busyDay : Date := ⟨739935, by decide⟩

/-- Four events are shown, in the order of their keys, forty are in the overflow and six are hidden. -/
theorem grid_conserves_month :
    CalendarView.month.Within busyDay ∧
      ((buildGrid busyDay busyNight none busyDay .month).map fun grid => (grid.flatten.filter (·.date = busyDay)).map
        fun cell => (cell.events.map (·.shown), cell.overflow.length, cell.hiddenCount)) = some [([1, 3, 5, 7], 40, 6)] ∧
      ∃ start stop grid, visibleRange busyDay .month = some (start, stop) ∧
        buildGrid busyDay busyNight none busyDay .month = some grid ∧ Conserves busyNight start stop grid.flatten :=
  ⟨by decide +kernel, by decide +kernel, grid_conserves _ _ _ _ .month (by decide +kernel)⟩

end Proxbox
