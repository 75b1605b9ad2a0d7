import ProgrammeGuide.Time.Gregorian

/-!
Days counted through the Gregorian calendar. The next date is one day further on, so the date so
many days after another one is known by its number, and dates are in the order of their numbers.
-/

namespace ProgrammeGuide.Gregorian

def daysBeforeMonth (year : Nat) : Nat → Nat
  | 0 | 1 => 0
  | month + 2 => daysBeforeMonth year (month + 1) + daysInMonth year (month + 1)

def daysBeforeYear : Nat → Nat
  | 0 => 0
  -- The days of a year are those before a thirteenth month.
  | year + 1 => daysBeforeYear year + daysBeforeMonth year 13

theorem daysBeforeMonth_succ (year : Nat) {month : Nat} (positive : 1 ≤ month) :
    daysBeforeMonth year (month + 1) = daysBeforeMonth year month + daysInMonth year month := by
  obtain ⟨earlier, rfl⟩ := Nat.exists_eq_add_of_le' positive
  rfl

theorem daysBeforeMonth_mono (year : Nat) {month later : Nat} (positive : 1 ≤ month)
    (earlier : month ≤ later) : daysBeforeMonth year month ≤ daysBeforeMonth year later := by
  induction earlier with
  | refl => exact Nat.le_refl _
  | @step between reached ih =>
      rw [daysBeforeMonth_succ year (Nat.le_trans positive reached)]
      omega

theorem daysBeforeYear_mono {year later : Nat} (earlier : year ≤ later) :
    daysBeforeYear year ≤ daysBeforeYear later := by
  induction earlier with
  | refl => exact Nat.le_refl _
  | step _ ih => exact Nat.le_trans ih (Nat.le_add_right _ _)

theorem daysInFebruary (year : Nat) :
    daysInMonth year 2 + (if year % 100 = 0 then 1 else 0) =
      28 + (if year % 4 = 0 then 1 else 0) + (if year % 400 = 0 then 1 else 0) := by
  simp only [daysInMonth, isLeap]
  grind

theorem daysInYear (year : Nat) : daysBeforeMonth year 13 = 337 + daysInMonth year 2 := by
  simp only [daysBeforeMonth]
  change 0 + 31 + daysInMonth year 2 + 31 + 30 + 31 + 30 + 31 + 31 + 30 + 31 + 30 + 31 = _
  omega

theorem daysBeforeYear_eq (year : Nat) :
    daysBeforeYear year + (year + 99) / 100 =
      365 * year + (year + 3) / 4 + (year + 399) / 400 := by
  induction year with
  | zero => rfl
  | succ year ih =>
      have february := daysInFebruary year
      have fourth : (year + 1 + 3) / 4 = (year + 3) / 4 + (if year % 4 = 0 then 1 else 0) := by
        split <;> omega
      have century : (year + 1 + 99) / 100 =
          (year + 99) / 100 + (if year % 100 = 0 then 1 else 0) := by
        split <;> omega
      have fourthCentury : (year + 1 + 399) / 400 =
          (year + 399) / 400 + (if year % 400 = 0 then 1 else 0) := by
        split <;> omega
      rw [daysBeforeYear, daysInYear, fourth, century, fourthCentury]
      omega

namespace Date

/-- The days from 1 January of the year 0 up to this one, both included. -/
def ordinal (date : Date) : Nat :=
  daysBeforeYear date.year + daysBeforeMonth date.year date.month + date.day

theorem ordinal_mk (year month day : Nat) :
    (⟨year, month, day⟩ : Date).ordinal =
      daysBeforeYear year + daysBeforeMonth year month + day := rfl

/-- Monday is 1 and Sunday 7. The year 0 begins on a Saturday. -/
def weekday (date : Date) : Nat := (date.ordinal + 4) % 7 + 1

theorem ordinal_next {date : Date} (valid : date.Valid) : date.next.ordinal = date.ordinal + 1 := by
  obtain ⟨lower, upper, first, last⟩ := valid
  have more := daysBeforeMonth_succ date.year lower
  simp only [next]
  by_cases inMonth : date.day < daysInMonth date.year date.month
  · rw [if_pos inMonth]
    rfl
  · rw [if_neg inMonth]
    by_cases inYear : date.month < 12
    · rw [if_pos inYear]
      simp only [ordinal]
      omega
    · have december : date.month = 12 := by omega
      have newYear : daysBeforeMonth (date.year + 1) 1 = 0 := rfl
      rw [december] at more last inMonth
      rw [if_neg inYear]
      simp only [ordinal, december, daysBeforeYear, newYear, more]
      omega

theorem weekday_next {date : Date} (valid : date.Valid) :
    date.next.weekday = date.weekday % 7 + 1 := by
  simp only [weekday, ordinal_next valid]
  omega

theorem after_valid {date : Date} (valid : date.Valid) (days : Nat) : (after days date).Valid := by
  induction days generalizing date with
  | zero => exact valid
  | succ days ih => exact ih (next_valid valid)

theorem ordinal_after {date : Date} (valid : date.Valid) (days : Nat) :
    (after days date).ordinal = date.ordinal + days := by
  induction days generalizing date with
  | zero => rfl
  | succ days ih =>
      rw [after, ih (next_valid valid), ordinal_next valid]
      omega

theorem weekday_after {date : Date} (valid : date.Valid) (days : Nat) :
    (after days date).weekday = (date.weekday - 1 + days) % 7 + 1 := by
  induction days generalizing date with
  | zero =>
      simp only [after, weekday]
      omega
  | succ days ih =>
      rw [after, ih (next_valid valid), weekday_next valid]
      simp only [weekday]
      omega

variable {first second : Date}

theorem ordinal_lt_of_year_lt (firstValid : first.Valid) (secondValid : second.Valid)
    (earlier : first.year < second.year) : first.ordinal < second.ordinal := by
  obtain ⟨lower, upper, _, last⟩ := firstValid
  obtain ⟨_, _, positive, _⟩ := secondValid
  have years := daysBeforeYear_mono earlier
  have months : daysBeforeMonth first.year (first.month + 1) ≤ daysBeforeMonth first.year 13 :=
    daysBeforeMonth_mono first.year (Nat.le_add_left 1 _) (Nat.succ_le_succ upper)
  rw [daysBeforeYear] at years
  rw [daysBeforeMonth_succ first.year lower] at months
  simp only [ordinal]
  omega

theorem ordinal_lt_of_month_lt (firstValid : first.Valid) (secondValid : second.Valid)
    (sameYear : first.year = second.year) (earlier : first.month < second.month) :
    first.ordinal < second.ordinal := by
  obtain ⟨lower, _, _, last⟩ := firstValid
  obtain ⟨_, _, positive, _⟩ := secondValid
  have months := daysBeforeMonth_mono first.year (Nat.le_add_left 1 _) earlier
  rw [daysBeforeMonth_succ first.year lower] at months
  simp only [ordinal, ← sameYear]
  omega

def fields (date : Date) : List Nat := [date.year, date.month, date.day]

theorem compare_fields (firstValid : first.Valid) (secondValid : second.Valid) :
    compare first.fields second.fields = compare first.ordinal second.ordinal := by
  simp only [fields, List.compare_cons_cons, List.compare_nil_nil, Ordering.then_eq]
  rcases Nat.lt_trichotomy first.year second.year with earlier | sameYear | later
  · have ordered := ordinal_lt_of_year_lt firstValid secondValid earlier
    rw [Nat.compare_eq_lt.mpr earlier, Nat.compare_eq_lt.mpr ordered]
    rfl
  · rw [Nat.compare_eq_eq.mpr sameYear]
    rcases Nat.lt_trichotomy first.month second.month with earlier | sameMonth | later
    · have ordered := ordinal_lt_of_month_lt firstValid secondValid sameYear earlier
      rw [Nat.compare_eq_lt.mpr earlier, Nat.compare_eq_lt.mpr ordered]
      rfl
    · simp only [ordinal, sameYear, sameMonth, Nat.compare_eq_ite_lt, Nat.add_lt_add_iff_left,
        Nat.lt_irrefl, if_false, Ordering.eq_then]
    · have ordered := ordinal_lt_of_month_lt secondValid firstValid sameYear.symm later
      rw [Nat.compare_eq_gt.mpr later, Nat.compare_eq_gt.mpr ordered]
      rfl
  · have ordered := ordinal_lt_of_year_lt secondValid firstValid later
    rw [Nat.compare_eq_gt.mpr later, Nat.compare_eq_gt.mpr ordered]
    rfl

theorem eq_of_ordinal_eq (firstValid : first.Valid) (secondValid : second.Valid)
    (same : first.ordinal = second.ordinal) : first = second := by
  have compared := compare_fields firstValid secondValid
  rw [Nat.compare_eq_eq.mpr same, Std.LawfulEqOrd.compare_eq_iff_eq] at compared
  cases first
  cases second
  simpa [fields] using compared

end Date

end ProgrammeGuide.Gregorian
