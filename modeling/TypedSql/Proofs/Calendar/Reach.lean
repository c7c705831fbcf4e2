import TypedSql.Proofs.Calendar.Instant

namespace TypedSql

/-! How far the calendar reaches, and which moments have a universal time within it. -/

namespace Date

def first : Date := ⟨-9999, 1, 1, by decide, epoch.month_range, by decide⟩

def last : Date := ⟨9999, 12, 31, by decide, by decide, by decide⟩

theorem day_le (d : Date) : d.day ≤ 31 := by
  have hbound : daysInMonth d.year d.month ≤ 31 := by
    unfold daysInMonth
    split <;> split <;> decide
  exact d.day_range.2.trans hbound

/-- The first day is in the year that began with the March before it. -/
theorem first_dayNumber_le (d : Date) : first.dayNumber ≤ d.dayNumber := by
  have hyear := d.year_range.1
  have hmonth := d.month_range
  have hleast := d.day_range.1
  have hstart : first.dayNumber = daysBeforeYear (-10000) + daysBeforeMonth 10 := rfl
  rw [hstart, dayNumber_eq]
  by_cases hearly : d.month ≤ 2
  · have hbefore : d.yearFromMarch = d.year - 1 := if_pos hearly
    have hlater : 10 ≤ d.monthFromMarch := by
      unfold monthFromMarch
      omega
    have hyears := daysBeforeYear_le (show -10000 ≤ d.yearFromMarch by omega)
    have hmonths := daysBeforeMonth_le hlater
    omega
  · have hsame : d.yearFromMarch = d.year := if_neg hearly
    have hyears := daysBeforeYear_le (show -9999 ≤ d.yearFromMarch by omega)
    have hwholeYear : daysBeforeYear (-10000) + 365 ≤ daysBeforeYear (-9999) := by decide
    have hmonths : daysBeforeMonth 10 = 306 := rfl
    omega

theorem dayNumber_le_last (d : Date) : d.dayNumber ≤ last.dayNumber := by
  have hyear := d.year_range.2
  have hmonth := d.month_range
  have hmost := d.day_le
  have hfinish : last.dayNumber = daysBeforeYear 9999 + daysBeforeMonth 9 + 30 := rfl
  by_cases hearly : d.month ≤ 2
  · have hbefore : d.yearFromMarch = d.year - 1 := if_pos hearly
    have hwithin := d.daysBeforeYear_add_day_le
    have hyears := daysBeforeYear_le (show d.yearFromMarch + 1 ≤ 9999 by omega)
    rw [hfinish, dayNumber_eq]
    omega
  · have hsame : d.yearFromMarch = d.year := if_neg hearly
    have hsooner : d.monthFromMarch ≤ 9 := by
      unfold monthFromMarch
      omega
    have hyears := daysBeforeYear_le (show d.yearFromMarch ≤ 9999 by omega)
    have hmonths := daysBeforeMonth_le hsooner
    rw [hfinish, dayNumber_eq]
    omega

theorem daysInMonth_pos (year : Int) (month : Nat) : 1 ≤ daysInMonth year month := by
  unfold daysInMonth
  split <;> split <;> decide

variable {d e : Date}

theorem eq_last_of_next? (hnone : d.next? = none) : d = last := by
  have hyear := d.year_range
  have hmonth := d.month_range
  have hday := d.day_range
  simp only [next?, Option.orElse_eq_or, Option.or_eq_none_iff] at hnone
  obtain ⟨htomorrow, hnextMonth, hnextYear⟩ := hnone
  have htomorrow := ofParts?_eq_none htomorrow
  have hnextMonth := ofParts?_eq_none hnextMonth
  have hnextYear := ofParts?_eq_none hnextYear
  have hroom := daysInMonth_pos d.year (d.month + 1)
  have hroomLater := daysInMonth_pos (d.year + 1) 1
  have hdecember : d.month = 12 := by omega
  have hlong : daysInMonth d.year 12 = 31 := rfl
  rw [hdecember, hlong] at htomorrow hday
  have hlastYear : last.year = 9999 := rfl
  have hlastDay : last.day = 31 := rfl
  exact eq_of_parts (by omega) hdecember (by omega)

theorem eq_first_of_previous? (hnone : d.previous? = none) : d = first := by
  have hyear := d.year_range
  have hmonth := d.month_range
  have hday := d.day_range
  simp only [previous?, Option.orElse_eq_or, Option.or_eq_none_iff] at hnone
  obtain ⟨hyesterday, hlastMonth, hlastYear⟩ := hnone
  have hyesterday := ofParts?_eq_none hyesterday
  have hlastMonth := ofParts?_eq_none hlastMonth
  have hlastYear := ofParts?_eq_none hlastYear
  have hroom := daysInMonth_pos d.year (d.month - 1)
  have hdecember : daysInMonth (d.year - 1) 12 = 31 := rfl
  have hfirstYear : first.year = -9999 := rfl
  have hjanuary : first.month = 1 := rfl
  have hfirstDay : first.day = 1 := rfl
  exact eq_of_parts (by omega) (by omega) (by omega)

/-- Days can be counted up and down as far as there are numbers of days. -/
theorem exists_addDays?_iff {n : Int} :
    (∃ e, d.addDays? n = some e) ↔
      first.dayNumber ≤ d.dayNumber + n ∧ d.dayNumber + n ≤ last.dayNumber := by
  constructor
  · rintro ⟨e, hfound⟩
    rw [← dayNumber_of_addDays? hfound]
    exact ⟨e.first_dayNumber_le, e.dayNumber_le_last⟩
  · intro hwithin
    cases n with
    | ofNat n =>
        induction n with
        | zero => exact ⟨d, rfl⟩
        | succ n ih =>
            have hleast := d.first_dayNumber_le
            rw [Int.ofNat_eq_natCast] at hwithin ih
            obtain ⟨f, hreached⟩ := ih (by omega)
            have hnumber := dayNumber_of_addDays? hreached
            cases hnext : f.next? with
            | some e => exact ⟨e, Option.bind_eq_some_iff.mpr ⟨f, hreached, hnext⟩⟩
            | none =>
                rw [eq_last_of_next? hnext] at hnumber
                omega
    | negSucc n =>
        induction n with
        | zero =>
            cases hprevious : d.previous? with
            | some e => exact ⟨e, hprevious⟩
            | none =>
                rw [eq_first_of_previous? hprevious] at hwithin
                omega
        | succ n ih =>
            have hmost := d.dayNumber_le_last
            obtain ⟨f, hreached⟩ := ih (by omega)
            have hnumber := dayNumber_of_addDays? hreached
            cases hprevious : f.previous? with
            | some e => exact ⟨e, Option.bind_eq_some_iff.mpr ⟨f, hreached, hprevious⟩⟩
            | none =>
                rw [eq_first_of_previous? hprevious] at hnumber
                omega

end Date

def TimeOfDay.last : TimeOfDay :=
  ⟨23, 59, 59, 999999999, by decide, by decide, by decide, by decide⟩

namespace Timestamp

def first : Timestamp := ⟨.first, .midnight⟩

def last : Timestamp := ⟨.last, .last⟩

end Timestamp

namespace ZonedTimestamp

/-- Whether the clocks of universal time show a year of the calendar at the moment. -/
def IsInReach (t : ZonedTimestamp) : Prop :=
  Timestamp.first.instant ≤ t.instant ∧ t.instant ≤ Timestamp.last.instant

instance (t : ZonedTimestamp) : Decidable t.IsInReach :=
  inferInstanceAs (Decidable (_ ∧ _))

theorem isInReach_iff_days {t : ZonedTimestamp} :
    t.IsInReach ↔
      Date.first.dayNumber ≤ t.wall.date.dayNumber + (t.wall.time.seconds - t.offset) / 86400 ∧
      t.wall.date.dayNumber + (t.wall.time.seconds - t.offset) / 86400 ≤ Date.last.dayNumber := by
  have hnanosecond := t.wall.time.nanosecond_lt
  have hfirstInstant : Timestamp.first.instant = Date.first.dayNumber * 86400 * 1000000000 := rfl
  have hlastInstant : Timestamp.last.instant =
      (Date.last.dayNumber * 86400 + 86399) * 1000000000 + 999999999 := rfl
  rw [IsInReach, hfirstInstant, hlastInstant, instant, Timestamp.instant]
  omega

theorem toUtc?_eq_none_iff {t : ZonedTimestamp} : t.toUtc? = none ↔ ¬t.IsInReach := by
  rw [isInReach_iff_days, ← Date.exists_addDays?_iff, toUtc?, Option.map_eq_none_iff,
    Option.eq_none_iff_forall_ne_some, not_exists]

end ZonedTimestamp

end TypedSql
