namespace TypedSql

def isLeapYear (year : Int) : Bool :=
  year % 4 = 0 && (year % 100 ≠ 0 || year % 400 = 0)

def daysInMonth (year : Int) (month : Nat) : Nat :=
  if month = 2 then (if isLeapYear year then 29 else 28)
  else if month = 4 ∨ month = 6 ∨ month = 9 ∨ month = 11 then 30
  else 31

structure Date where
  year : Int
  month : Nat
  day : Nat
  year_range : -9999 ≤ year ∧ year ≤ 9999
  month_range : 1 ≤ month ∧ month ≤ 12
  day_range : 1 ≤ day ∧ day ≤ daysInMonth year month
deriving DecidableEq

namespace Date

def ofParts? (year : Int) (month day : Nat) : Option Date :=
  if h : (-9999 ≤ year ∧ year ≤ 9999) ∧ (1 ≤ month ∧ month ≤ 12) ∧
      (1 ≤ day ∧ day ≤ daysInMonth year month) then
    some ⟨year, month, day, h.1, h.2.1, h.2.2⟩
  else none

def epoch : Date := ⟨1970, 1, 1, by decide, by decide, by decide⟩

def next? (d : Date) : Option Date :=
  (ofParts? d.year d.month (d.day + 1)).orElse fun _ =>
    (ofParts? d.year (d.month + 1) 1).orElse fun _ => ofParts? (d.year + 1) 1 1

def previous? (d : Date) : Option Date :=
  (ofParts? d.year d.month (d.day - 1)).orElse fun _ =>
    (ofParts? d.year (d.month - 1) (daysInMonth d.year (d.month - 1))).orElse fun _ =>
      ofParts? (d.year - 1) 12 31

def addDays? (d : Date) : Int → Option Date
  | .ofNat n => Nat.repeat (fun o => o.bind next?) n (some d)
  | .negSucc n => Nat.repeat (fun o => o.bind previous?) (n + 1) (some d)

/-- Number of the day, counted in a year that starts in March so that a leap day ends it. -/
def dayNumber (d : Date) : Int :=
  let y := if d.month ≤ 2 then d.year - 1 else d.year
  let m := (d.month + 9) % 12
  365 * y + y / 4 - y / 100 + y / 400 + ((153 * m + 2) / 5 : Nat) + d.day - 1

def isMonthEnd (d : Date) : Bool :=
  d.day = daysInMonth d.year d.month

end Date

end TypedSql
