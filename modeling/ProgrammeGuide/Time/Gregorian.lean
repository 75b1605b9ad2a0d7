import ProgrammeGuide.Time.Duration
import ProgrammeGuide.Time.StartTime

/-!
The Gregorian calendar, by its successor: which dates exist, and which date follows which.
-/

namespace ProgrammeGuide.Gregorian

def isLeap (year : Nat) : Bool :=
  year % 4 = 0 && (year % 100 ≠ 0 || year % 400 = 0)

def daysInMonth (year month : Nat) : Nat :=
  match month with
  | 2 => if isLeap year then 29 else 28
  | 4 | 6 | 9 | 11 => 30
  | _ => 31

theorem daysInMonth_pos (year month : Nat) : 0 < daysInMonth year month := by
  by_cases february : month = 2
  · subst february
    cases leap : isLeap year <;> simp [daysInMonth, leap]
  · simp only [daysInMonth]
    split
    · contradiction
    all_goals decide

structure Date where
  year : Nat
  month : Nat
  day : Nat
  deriving DecidableEq, Repr

namespace Date

def Valid (date : Date) : Prop :=
  1 ≤ date.month ∧ date.month ≤ 12 ∧ 1 ≤ date.day ∧ date.day ≤ daysInMonth date.year date.month

instance (date : Date) : Decidable date.Valid := by
  unfold Valid
  infer_instance

def next (date : Date) : Date :=
  if date.day < daysInMonth date.year date.month then { date with day := date.day + 1 }
  else if date.month < 12 then { date with month := date.month + 1, day := 1 }
  else ⟨date.year + 1, 1, 1⟩

def after : Nat → Date → Date
  | 0, date => date
  | days + 1, date => after days date.next

def text (date : Date) : String :=
  Numeral.decimal 4 date.year ++ "-" ++ Numeral.decimal 2 date.month ++ "-" ++
    Numeral.decimal 2 date.day

theorem next_valid {date : Date} (valid : date.Valid) : date.next.Valid := by
  obtain ⟨lower, upper, first, last⟩ := valid
  simp only [next]
  by_cases inMonth : date.day < daysInMonth date.year date.month
  · rw [if_pos inMonth]
    exact ⟨lower, upper, Nat.le_add_left 1 _, inMonth⟩
  · rw [if_neg inMonth]
    by_cases inYear : date.month < 12
    · rw [if_pos inYear]
      exact ⟨Nat.le_add_left 1 _, inYear, Nat.le_refl 1, daysInMonth_pos _ _⟩
    · rw [if_neg inYear]
      exact ⟨Nat.le_refl 1, Nat.le_add_left 1 11, Nat.le_refl 1, daysInMonth_pos _ _⟩

end Date

/-- A clock reading on a date, in seconds since midnight. -/
structure Moment where
  date : Date
  second : Nat
  deriving DecidableEq, Repr

namespace Moment

/-- None for a date that the calendar does not have or a clock reading past 23:59:59. -/
def ofDateTime? (time : DateTime) : Option Moment :=
  let date : Date := ⟨time.date.year.toNat, time.date.month.toNat, time.date.day.toNat⟩
  if date.Valid ∧ time.hour < 24 ∧ time.minute < 60 ∧ time.second < 60 then
    some ⟨date, time.hour * 3600 + time.minute * 60 + time.second⟩
  else none

def add (moment : Moment) (seconds : Nat) : Moment :=
  let total := moment.second + seconds
  ⟨moment.date.after (total / 86400), total % 86400⟩

def text (moment : Moment) : String :=
  moment.date.text ++ " " ++ Numeral.decimal 2 (moment.second / 3600) ++ ":" ++
    Numeral.decimal 2 (moment.second / 60 % 60) ++ ":" ++ Numeral.decimal 2 (moment.second % 60)

end Moment

end ProgrammeGuide.Gregorian
