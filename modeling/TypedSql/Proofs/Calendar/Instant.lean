import Mathlib.Tactic.IntervalCases
import TypedSql.Calendar.Timestamp

namespace TypedSql

/-! Dates and timestamps on one line of time: a day has its number, and a timestamp its instant. -/

theorem isLeapYear_cases (year : Int) :
    (isLeapYear year = true ∧ year % 4 = 0 ∧ (year % 100 ≠ 0 ∨ year % 400 = 0)) ∨
    (isLeapYear year = false ∧ (year % 4 ≠ 0 ∨ (year % 100 = 0 ∧ year % 400 ≠ 0))) := by
  cases hleap : isLeapYear year with
  | true => simpa [isLeapYear] using hleap
  | false =>
      simp only [isLeapYear, Bool.and_eq_false_iff, Bool.or_eq_false_iff, decide_eq_false_iff_not,
        not_not] at hleap
      exact .inr ⟨rfl, hleap⟩

namespace Date

theorem eq_of_parts {d e : Date} (hyear : d.year = e.year) (hmonth : d.month = e.month)
    (hday : d.day = e.day) : d = e := by
  cases d
  cases e
  cases hyear
  cases hmonth
  cases hday
  rfl

/-! A year is counted from its March, so that a leap day ends it. -/

def yearFromMarch (d : Date) : Int :=
  if d.month ≤ 2 then d.year - 1 else d.year

def monthFromMarch (d : Date) : Nat :=
  (d.month + 9) % 12

def daysBeforeYear (year : Int) : Int :=
  365 * year + year / 4 - year / 100 + year / 400

def daysBeforeMonth (month : Nat) : Nat :=
  (153 * month + 2) / 5

theorem dayNumber_eq (d : Date) :
    d.dayNumber = daysBeforeYear d.yearFromMarch + daysBeforeMonth d.monthFromMarch + d.day - 1 :=
  rfl

/-- The February of a year counted from March is that of the next calendar year. -/
theorem daysBeforeYear_succ (year : Int) :
    daysBeforeYear (year + 1) =
      daysBeforeYear year + (if isLeapYear (year + 1) then 366 else 365) := by
  unfold daysBeforeYear
  rcases isLeapYear_cases (year + 1) with ⟨hleap, hrule⟩ | ⟨hcommon, hrule⟩
  · rw [hleap, if_pos rfl]
    omega
  · rw [hcommon, if_neg Bool.false_ne_true]
    omega

theorem daysBeforeYear_le {first second : Int} (hbefore : first ≤ second) :
    daysBeforeYear first ≤ daysBeforeYear second := by
  unfold daysBeforeYear
  omega

/-- Every month but February reaches up to the next one. -/
theorem daysBeforeMonth_add_daysInMonth {d : Date} (hother : d.month ≠ 2) :
    daysBeforeMonth d.monthFromMarch + daysInMonth d.year d.month =
      daysBeforeMonth (d.monthFromMarch + 1) := by
  obtain ⟨hleast, hgreatest⟩ := d.month_range
  unfold monthFromMarch daysBeforeMonth daysInMonth
  generalize d.month = month at *
  interval_cases month <;> first | rfl | exact absurd rfl hother

theorem daysBeforeMonth_le {first second : Nat} (hbefore : first ≤ second) :
    daysBeforeMonth first ≤ daysBeforeMonth second := by
  unfold daysBeforeMonth
  omega

theorem monthFromMarch_of_february {d : Date} (hfebruary : d.month = 2) :
    d.yearFromMarch = d.year - 1 ∧ d.monthFromMarch = 11 := by
  unfold yearFromMarch monthFromMarch
  rw [hfebruary]
  exact ⟨rfl, rfl⟩

theorem monthFromMarch_lt {d : Date} (hother : d.month ≠ 2) : d.monthFromMarch < 11 := by
  have hrange := d.month_range
  unfold monthFromMarch
  omega

/-- February reaches up to the next year. -/
theorem daysBeforeYear_add_february {d : Date} (hfebruary : d.month = 2) :
    daysBeforeYear d.yearFromMarch +
      (daysBeforeMonth d.monthFromMarch + daysInMonth d.year d.month : Nat) =
      daysBeforeYear (d.yearFromMarch + 1) := by
  obtain ⟨hbefore, hmonth⟩ := monthFromMarch_of_february hfebruary
  have hyear := daysBeforeYear_succ d.yearFromMarch
  have hsame : d.yearFromMarch + 1 = d.year := by omega
  have hdays : daysBeforeMonth 11 = 337 := rfl
  rw [hsame] at hyear ⊢
  rw [hyear, hmonth, hdays, daysInMonth, if_pos hfebruary]
  split <;> omega

/-- The days of a year lie before the next year. -/
theorem daysBeforeYear_add_day_le (d : Date) :
    daysBeforeYear d.yearFromMarch + (daysBeforeMonth d.monthFromMarch + d.day : Nat) ≤
      daysBeforeYear (d.yearFromMarch + 1) := by
  have hday := d.day_range.2
  by_cases hfebruary : d.month = 2
  · have hreaches := daysBeforeYear_add_february hfebruary
    omega
  · have hreaches := daysBeforeMonth_add_daysInMonth hfebruary
    have hlast : daysBeforeMonth (d.monthFromMarch + 1) ≤ daysBeforeMonth 11 :=
      daysBeforeMonth_le (monthFromMarch_lt hfebruary)
    have hdays : daysBeforeMonth 11 = 337 := rfl
    have hyear := daysBeforeYear_succ d.yearFromMarch
    split at hyear <;> omega

theorem yearFromMarch_eq {d e : Date} (hsame : d.dayNumber = e.dayNumber) :
    d.yearFromMarch = e.yearFromMarch := by
  have hbound {d e : Date} (hsame : d.dayNumber = e.dayNumber) :
      ¬d.yearFromMarch < e.yearFromMarch := by
    intro hbefore
    have hwithin := d.daysBeforeYear_add_day_le
    have hlater := daysBeforeYear_le (Int.add_one_le_iff.mpr hbefore)
    have hfirst := e.day_range.1
    rw [dayNumber_eq, dayNumber_eq] at hsame
    omega
  have hleft := hbound hsame
  have hright := hbound hsame.symm
  omega

theorem monthFromMarch_eq {d e : Date} (hsame : d.dayNumber = e.dayNumber) :
    d.monthFromMarch = e.monthFromMarch := by
  have hbound {d e : Date} (hsame : d.dayNumber = e.dayNumber) :
      ¬d.monthFromMarch < e.monthFromMarch := by
    intro hbefore
    have hbelow : e.monthFromMarch < 12 := Nat.mod_lt _ (by decide)
    have hother : d.month ≠ 2 := by
      intro hfebruary
      have hlast := (monthFromMarch_of_february hfebruary).2
      omega
    have hwithin := daysBeforeMonth_add_daysInMonth hother
    have hlater := daysBeforeMonth_le (Nat.add_one_le_iff.mpr hbefore)
    have hyear := yearFromMarch_eq hsame
    have hday := d.day_range.2
    have hfirst := e.day_range.1
    rw [dayNumber_eq, dayNumber_eq, hyear] at hsame
    omega
  have hleft := hbound hsame
  have hright := hbound hsame.symm
  omega

/-- No two days have one number. -/
theorem dayNumber_injective : Function.Injective dayNumber := by
  intro d e hsame
  have hyear := yearFromMarch_eq hsame
  have hmonth := monthFromMarch_eq hsame
  rw [dayNumber_eq, dayNumber_eq, hyear, hmonth] at hsame
  have hleft := d.month_range
  have hright := e.month_range
  have hcalendarMonth : d.month = e.month := by
    unfold monthFromMarch at hmonth
    omega
  have hcalendarYear : d.year = e.year := by
    unfold yearFromMarch at hyear
    rw [hcalendarMonth] at hyear
    split at hyear <;> omega
  exact eq_of_parts hcalendarYear hcalendarMonth (by omega)

theorem ofParts?_eq_some {year : Int} {month day : Nat} {e : Date}
    (hmade : ofParts? year month day = some e) : e.year = year ∧ e.month = month ∧ e.day = day := by
  unfold ofParts? at hmade
  split at hmade
  · cases hmade
    exact ⟨rfl, rfl, rfl⟩
  · cases hmade

theorem ofParts?_eq_none {year : Int} {month day : Nat} (hnone : ofParts? year month day = none) :
    ¬((-9999 ≤ year ∧ year ≤ 9999) ∧ (1 ≤ month ∧ month ≤ 12) ∧
      (1 ≤ day ∧ day ≤ daysInMonth year month)) := by
  unfold ofParts? at hnone
  split at hnone
  · cases hnone
  · assumption

/-- One day is the next one after another. -/
inductive IsNext (d e : Date) : Prop
  | inMonth (hyear : e.year = d.year) (hmonth : e.month = d.month) (hday : e.day = d.day + 1)
  | inYear (hlast : d.day = daysInMonth d.year d.month) (hyear : e.year = d.year)
      (hmonth : e.month = d.month + 1) (hfirst : e.day = 1)
  | newYear (hdecember : d.month = 12) (hlast : d.day = 31) (hyear : e.year = d.year + 1)
      (hjanuary : e.month = 1) (hfirst : e.day = 1)

variable {d e : Date}

theorem dayNumber_of_isNext (hnext : d.IsNext e) : e.dayNumber = d.dayNumber + 1 := by
  rw [dayNumber_eq, dayNumber_eq]
  cases hnext with
  | inMonth hyear hmonth hday =>
      have hsameYear : e.yearFromMarch = d.yearFromMarch := by
        rw [yearFromMarch, yearFromMarch, hyear, hmonth]
      have hsameMonth : e.monthFromMarch = d.monthFromMarch := by
        rw [monthFromMarch, monthFromMarch, hmonth]
      rw [hsameYear, hsameMonth]
      omega
  | inYear hlast hyear hmonth hfirst =>
      by_cases hfebruary : d.month = 2
      · obtain ⟨hbefore, -⟩ := monthFromMarch_of_february hfebruary
        have hreaches := daysBeforeYear_add_february hfebruary
        have hmarch : e.month = 3 := by omega
        have hnextYear : e.yearFromMarch = d.yearFromMarch + 1 := by
          rw [hbefore, yearFromMarch, hmarch, hyear]
          omega
        have hfirstMonth : e.monthFromMarch = 0 := by rw [monthFromMarch, hmarch]
        have hnoDays : daysBeforeMonth 0 = 0 := rfl
        rw [hnextYear, hfirstMonth, hnoDays]
        omega
      · have hsameYear : e.yearFromMarch = d.yearFromMarch := by
          rw [yearFromMarch, yearFromMarch, hyear, hmonth]
          split <;> split <;> omega
        have hnextMonth : e.monthFromMarch = d.monthFromMarch + 1 := by
          have hrange := e.month_range
          unfold monthFromMarch
          omega
        have hreaches := daysBeforeMonth_add_daysInMonth hfebruary
        rw [hsameYear, hnextMonth]
        omega
  | newYear hdecember hlast hyear hjanuary hfirst =>
      have hsameYear : e.yearFromMarch = d.yearFromMarch := by
        rw [yearFromMarch, yearFromMarch, hyear, hdecember, hjanuary]
        omega
      have hfromMonth : d.monthFromMarch = 9 := by rw [monthFromMarch, hdecember]
      have htoMonth : e.monthFromMarch = 10 := by rw [monthFromMarch, hjanuary]
      have hdays : daysBeforeMonth 10 = daysBeforeMonth 9 + 31 := rfl
      rw [hsameYear, hfromMonth, htoMonth, hdays]
      omega

theorem isNext_of_next? (hfound : d.next? = some e) : d.IsNext e := by
  have hyear := d.year_range
  have hmonth := d.month_range
  have hday := d.day_range
  unfold next? at hfound
  cases htomorrow : ofParts? d.year d.month (d.day + 1) with
  | some f =>
      rw [htomorrow, Option.orElse_some] at hfound
      obtain rfl := Option.some.inj hfound
      obtain ⟨hsameYear, hsameMonth, hnext⟩ := ofParts?_eq_some htomorrow
      exact .inMonth hsameYear hsameMonth hnext
  | none =>
      have hlast : d.day = daysInMonth d.year d.month := by
        have houtside := ofParts?_eq_none htomorrow
        omega
      rw [htomorrow, Option.orElse_none] at hfound
      cases hfirst : ofParts? d.year (d.month + 1) 1 with
      | some f =>
          rw [hfirst, Option.orElse_some] at hfound
          obtain rfl := Option.some.inj hfound
          obtain ⟨hsameYear, hnext, hone⟩ := ofParts?_eq_some hfirst
          exact .inYear hlast hsameYear hnext hone
      | none =>
          rw [hfirst, Option.orElse_none] at hfound
          obtain ⟨hnext, hjanuary, hone⟩ := ofParts?_eq_some hfound
          have hdecember : d.month = 12 := by
            have houtside := ofParts?_eq_none hfirst
            have hroom : 1 ≤ daysInMonth d.year (d.month + 1) := by
              unfold daysInMonth
              split <;> split <;> decide
            omega
          have hlong : daysInMonth d.year 12 = 31 := rfl
          rw [hdecember, hlong] at hlast
          exact .newYear hdecember hlast hnext hjanuary hone

theorem isNext_of_previous? (hfound : d.previous? = some e) : e.IsNext d := by
  have hyear := d.year_range
  have hmonth := d.month_range
  have hday := d.day_range
  unfold previous? at hfound
  cases hyesterday : ofParts? d.year d.month (d.day - 1) with
  | some f =>
      rw [hyesterday, Option.orElse_some] at hfound
      obtain rfl := Option.some.inj hfound
      obtain ⟨hsameYear, hsameMonth, hprevious⟩ := ofParts?_eq_some hyesterday
      have hfirst := f.day_range.1
      exact .inMonth hsameYear.symm hsameMonth.symm (by omega)
  | none =>
      have hfirst : d.day = 1 := by
        have houtside := ofParts?_eq_none hyesterday
        omega
      rw [hyesterday, Option.orElse_none] at hfound
      cases hlast : ofParts? d.year (d.month - 1) (daysInMonth d.year (d.month - 1)) with
      | some f =>
          rw [hlast, Option.orElse_some] at hfound
          obtain rfl := Option.some.inj hfound
          obtain ⟨hsameYear, hprevious, hends⟩ := ofParts?_eq_some hlast
          have hleast := f.month_range.1
          rw [← hsameYear, ← hprevious] at hends
          exact .inYear hends hsameYear.symm (by omega) hfirst
      | none =>
          rw [hlast, Option.orElse_none] at hfound
          obtain ⟨hprevious, hdecember, hends⟩ := ofParts?_eq_some hfound
          have hjanuary : d.month = 1 := by
            have houtside := ofParts?_eq_none hlast
            have hroom : 1 ≤ daysInMonth d.year (d.month - 1) := by
              unfold daysInMonth
              split <;> split <;> decide
            omega
          exact .newYear hdecember hends (by omega) hjanuary hfirst

/-- Counting days up or down, as far as the calendar reaches, counts their numbers. -/
theorem dayNumber_of_addDays? {n : Int} (hfound : d.addDays? n = some e) :
    e.dayNumber = d.dayNumber + n := by
  cases n with
  | ofNat n =>
      induction n generalizing e with
      | zero =>
          obtain rfl := Option.some.inj hfound
          exact (Int.add_zero _).symm
      | succ n ih =>
          obtain ⟨f, hreached, hnext⟩ := Option.bind_eq_some_iff.mp hfound
          have hstep := dayNumber_of_isNext (isNext_of_next? hnext)
          have hbefore := ih hreached
          rw [Int.ofNat_eq_natCast] at hbefore ⊢
          omega
  | negSucc n =>
      induction n generalizing e with
      | zero =>
          have hstep := dayNumber_of_isNext (isNext_of_previous? hfound)
          omega
      | succ n ih =>
          obtain ⟨f, hreached, hprevious⟩ := Option.bind_eq_some_iff.mp hfound
          have hstep := dayNumber_of_isNext (isNext_of_previous? hprevious)
          have hbefore := ih hreached
          omega

end Date

namespace TimeOfDay

theorem seconds_lt (t : TimeOfDay) : t.seconds < 86400 := by
  have hhour := t.hour_lt
  have hminute := t.minute_lt
  have hsecond := t.second_lt
  unfold seconds
  omega

theorem seconds_ofSeconds {n : Nat} (hday : n < 86400) (nanosecond : Nat)
    (hfraction : nanosecond < 1000000000) : (ofSeconds n nanosecond hfraction).seconds = n := by
  simp only [seconds, ofSeconds]
  omega

theorem eq_of_seconds {t u : TimeOfDay} (hseconds : t.seconds = u.seconds)
    (hnanosecond : t.nanosecond = u.nanosecond) : t = u := by
  have htm := t.minute_lt
  have hts := t.second_lt
  have hum := u.minute_lt
  have hus := u.second_lt
  unfold TimeOfDay.seconds at hseconds
  cases t
  cases u
  simp only [mk.injEq] at *
  omega

end TimeOfDay

namespace Timestamp

theorem instant_injective : Function.Injective instant := by
  intro t u hsame
  have hfirst := t.time.seconds_lt
  have hsecond := u.time.seconds_lt
  have htn := t.time.nanosecond_lt
  have hun := u.time.nanosecond_lt
  unfold instant at hsame
  have hdate : t.date = u.date := Date.dayNumber_injective (by omega)
  have htime : t.time = u.time := TimeOfDay.eq_of_seconds (by omega) (by omega)
  cases t
  cases u
  cases hdate
  cases htime
  rfl

end Timestamp

namespace ZonedTimestamp

theorem instant_ofUtc (wall : Timestamp) : (ofUtc wall).instant = wall.instant := by
  simp [instant, ofUtc]

/-- The timestamp in universal time is of the same instant. -/
theorem instant_of_toUtc? {t : ZonedTimestamp} {utc : Timestamp} (hfound : t.toUtc? = some utc) :
    utc.instant = t.instant := by
  unfold toUtc? at hfound
  obtain ⟨date, hreached, rfl⟩ := Option.map_eq_some_iff.mp hfound
  have hdays := Date.dayNumber_of_addDays? hreached
  have hrest : ((t.wall.time.seconds - t.offset) % 86400).toNat < 86400 := by omega
  have hseconds :=
    TimeOfDay.seconds_ofSeconds hrest t.wall.time.nanosecond t.wall.time.nanosecond_lt
  simp only [instant, Timestamp.instant, hdays, hseconds]
  have hnanosecond : (TimeOfDay.ofSeconds ((t.wall.time.seconds - t.offset) % 86400).toNat
    t.wall.time.nanosecond t.wall.time.nanosecond_lt).nanosecond = t.wall.time.nanosecond := rfl
  rw [hnanosecond]
  omega

end ZonedTimestamp

end TypedSql
