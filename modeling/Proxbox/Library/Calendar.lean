import Mathlib.Tactic.SplitIfs
/-!
# The Gregorian calendar

Days are numbered from the first of January of the year one, which is a Monday.
-/

namespace Calendar

def isLeap (year : Nat) : Prop := year % 4 = 0 ∧ (year % 100 ≠ 0 ∨ year % 400 = 0)

instance (year : Nat) : Decidable (isLeap year) := inferInstanceAs (Decidable (_ ∧ _))

def daysInMonth (year : Nat) : Nat → Nat
  | 2 => if isLeap year then 29 else 28
  | 4 | 6 | 9 | 11 => 30
  | _ => 31

def yearStart (year : Nat) : Nat := (year - 1) * 365 + (year - 1) / 4 - (year - 1) / 100 + (year - 1) / 400

def weekday (day : Nat) : Nat := day % 7

/-- The year of a day: the mean length of a year gives it up to one. -/
def yearOf (day : Nat) : Nat :=
  let guess := day * 400 / 146097 + 1
  if yearStart (guess + 1) ≤ day then guess + 1 else if day < yearStart guess then guess - 1 else guess

def monthFrom (year : Nat) : Nat → Nat → Nat → Nat × Nat
  | 0, month, rest => (month, rest)
  | left + 1, month, rest =>
    if rest < daysInMonth year month then (month, rest)
    else monthFrom year left (month + 1) (rest - daysInMonth year month)

def monthAndRest (day : Nat) : Nat × Nat := monthFrom (yearOf day) 11 1 (day - yearStart (yearOf day))

def monthOf (day : Nat) : Nat := (monthAndRest day).1

def dayOf (day : Nat) : Nat := (monthAndRest day).2 + 1

def monthLength (day : Nat) : Nat := daysInMonth (yearOf day) (monthOf day)

def monthStart (day : Nat) : Nat := day - (dayOf day - 1)

def nextMonth (day : Nat) : Nat := monthStart day + monthLength day

/-- The days until the end of the year 9999, the last that a `date` can name. -/
def calendarDays : Nat := 3652059

theorem daysInMonth_pos (year month : Nat) : 28 ≤ daysInMonth year month := by
  unfold daysInMonth
  split
  · split_ifs <;> omega
  all_goals omega

end Calendar
