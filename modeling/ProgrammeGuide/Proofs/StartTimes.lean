import Mathlib.Tactic.SplitIfs
import ProgrammeGuide.Guide.Listing
import ProgrammeGuide.Proofs.DayNumbers
import ProgrammeGuide.Proofs.ReadBack

/-!
The order of start times. A guide is printed in the order of the octets that were sent, which is
that of the dates and clock readings: a later day has the greater number, and two decimal digits
are in the order of their octet.
-/

namespace ProgrammeGuide

theorem compare_octet (first second : UInt8) :
    compare first second = compare first.toNat second.toNat := by
  change compareOfLessAndEq _ _ = compareOfLessAndEq _ _
  simp only [compareOfLessAndEq, UInt8.lt_iff_toNat_lt, ← UInt8.toNat_inj]

theorem compare_octets16 (first second : UInt16) (firstRest secondRest : Octets) :
    compare (octets16 first ++ firstRest) (octets16 second ++ secondRest) =
      (compare first.toNat second.toNat).then (compare firstRest secondRest) := by
  have firstBound := first.toNat_lt
  have secondBound := second.toNat_lt
  simp only [octets16, List.cons_append, List.nil_append, List.compare_cons_cons,
    ← Ordering.then_assoc, compare_octet, UInt8.toNat_ofNat']
  congr 1
  simp only [Nat.compare_eq_ite_lt]
  split_ifs <;> first | rfl | omega

theorem octets_lt_iff (first second : Octets) : first < second ↔ compare first second = .lt := by
  induction first generalizing second with
  | nil => cases second <;> simp
  | cons octet rest ih =>
      cases second with
      | nil => simp
      | cons other others =>
          rw [List.cons_lt_cons_iff, List.compare_cons_cons, Ordering.then_eq_lt,
            Std.compare_eq_iff_eq, ← ih]
          exact or_congr_left Std.compare_eq_lt.symm

namespace StartTime

variable {first second : StartTime}

theorem le_iff : first.le second ↔ (compare first.octets second.octets).isLE := by
  rw [StartTime.le, decide_eq_true_iff, ← List.not_lt, octets_lt_iff, ← Std.OrientedCmp.gt_iff_lt]
  cases compare first.octets second.octets <;> simp

theorem octets_inj : first.octets = second.octets ↔ first = second := by
  constructor
  · intro same
    have read := reads_octets first []
    rw [same, reads_octets second []] at read
    cases read
    rfl
  · exact congrArg octets

/-- From 1 March 1900 on, and with decimal digits in the clock reading. -/
structure Regular (start : StartTime) : Prop where
  late : 15079 ≤ start.dayNumber.toNat
  hour : BinaryDecimal.Proper start.hour
  minute : BinaryDecimal.Proper start.minute
  second : BinaryDecimal.Proper start.second

theorem compare_clock (firstRegular : first.Regular) (secondRegular : second.Regular) :
    compare [first.dateTime.hour, first.dateTime.minute, first.dateTime.second]
        [second.dateTime.hour, second.dateTime.minute, second.dateTime.second] =
      compare [first.hour, first.minute, first.second]
        [second.hour, second.minute, second.second] := by
  simp only [dateTime, List.compare_cons_cons,
    BinaryDecimal.compare_value firstRegular.hour secondRegular.hour,
    BinaryDecimal.compare_value firstRegular.minute secondRegular.minute,
    BinaryDecimal.compare_value firstRegular.second secondRegular.second]
  rfl

theorem compare_dateTime (firstRegular : first.Regular) (secondRegular : second.Regular) :
    compare first.dateTime second.dateTime = compare first.octets second.octets := by
  have dates := CalendarDate.compare_fields_ofDayNumber firstRegular.late secondRegular.late
  have clocks := compare_clock firstRegular secondRegular
  have fields : compare first.dateTime second.dateTime =
      (compare first.dateTime.date.fields second.dateTime.date.fields).then
        (compare [first.dateTime.hour, first.dateTime.minute, first.dateTime.second]
          [second.dateTime.hour, second.dateTime.minute, second.dateTime.second]) := by
    change compare first.dateTime.fields second.dateTime.fields = _
    simp only [DateTime.fields, CalendarDate.fields, List.cons_append, List.nil_append,
      List.compare_cons_cons, List.compare_nil_nil, Ordering.then_eq, Ordering.then_assoc]
  rw [fields, clocks, octets, octets, compare_octets16]
  exact congrArg (Ordering.then · _) dates

/-- A regular start time is on the date that comes so many days after 17 November 1858, with the day
of the week that this date has. Comparing octets, as for the printed guide, is comparing dates and
clock readings field by field, and only the same octets are the same time. -/
theorem octets_chronological (firstRegular : first.Regular) (secondRegular : second.Regular) :
    first.dateTime.date.toGregorian = CalendarDate.epoch.after first.dayNumber.toNat ∧
    first.dateTime.date.weekday.toNat =
      (CalendarDate.epoch.after first.dayNumber.toNat).weekday ∧
    compare first.octets second.octets = compare first.dateTime second.dateTime ∧
    (compare first.dateTime second.dateTime = .eq ↔ first.octets = second.octets) ∧
    (first.dateTime = second.dateTime ↔ first.octets = second.octets) ∧
    (first.le second ↔ (compare first.dateTime second.dateTime).isLE) := by
  have compared := compare_dateTime firstRegular secondRegular
  have level : compare first.dateTime second.dateTime = .eq ↔ first.octets = second.octets := by
    rw [compared, Std.compare_eq_iff_eq]
  refine ⟨CalendarDate.toGregorian_ofDayNumber firstRegular.late,
    CalendarDate.weekday_ofDayNumber first.dayNumber, compared.symm, level, ?_, ?_⟩
  · constructor
    · intro same
      apply level.mp
      change compare first.dateTime.fields second.dateTime.fields = .eq
      rw [same]
      exact Std.ReflCmp.compare_self
    · intro same
      rw [octets_inj.mp same]
  · rw [compared]
    exact le_iff

def yearsEnd : StartTime := ⟨51543, 0x23, 0x59, 0x59⟩

def newYear : StartTime := ⟨51544, 0x00, 0x00, 0x00⟩

theorem octets_chronological_newYear :
    yearsEnd.Regular ∧ newYear.Regular ∧
    CalendarDate.epoch.after 51543 = ⟨1999, 12, 31⟩ ∧
    compare yearsEnd.dateTime newYear.dateTime = .lt ∧ yearsEnd.le newYear ∧
    yearsEnd.dateTime ≠ newYear.dateTime := by
  have ended : yearsEnd.Regular := ⟨by decide, by decide, by decide, by decide⟩
  have begun : newYear.Regular := ⟨by decide, by decide, by decide, by decide⟩
  obtain ⟨dated, _, compared, _, same, ordered⟩ := octets_chronological ended begun
  have earlier : compare yearsEnd.dateTime newYear.dateTime = .lt := by
    rw [← compared]
    decide
  refine ⟨ended, begun, dated.symm.trans (by decide), earlier, ordered.mpr ?_, ?_⟩
  · rw [earlier]
    rfl
  · exact mt same.mp (by decide)

end StartTime

end ProgrammeGuide
