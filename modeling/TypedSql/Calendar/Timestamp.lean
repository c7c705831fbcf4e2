import TypedSql.Calendar.Date

namespace TypedSql

structure TimeOfDay where
  hour : Nat
  minute : Nat
  second : Nat
  nanosecond : Nat
  hour_lt : hour < 24
  minute_lt : minute < 60
  second_lt : second < 60
  nanosecond_lt : nanosecond < 1000000000
deriving DecidableEq

namespace TimeOfDay

def ofParts? (hour minute second nanosecond : Nat) : Option TimeOfDay :=
  if h : hour < 24 ∧ minute < 60 ∧ second < 60 ∧ nanosecond < 1000000000 then
    some ⟨hour, minute, second, nanosecond, h.1, h.2.1, h.2.2.1, h.2.2.2⟩
  else none

def midnight : TimeOfDay := ⟨0, 0, 0, 0, by decide, by decide, by decide, by decide⟩

def seconds (t : TimeOfDay) : Nat :=
  t.hour * 3600 + t.minute * 60 + t.second

def ofSeconds (n nanosecond : Nat) (h : nanosecond < 1000000000) : TimeOfDay where
  hour := n / 3600 % 24
  minute := n / 60 % 60
  second := n % 60
  nanosecond := nanosecond
  hour_lt := Nat.mod_lt _ (by decide)
  minute_lt := Nat.mod_lt _ (by decide)
  second_lt := Nat.mod_lt _ (by decide)
  nanosecond_lt := h

end TimeOfDay

structure Timestamp where
  date : Date
  time : TimeOfDay
deriving DecidableEq

namespace Timestamp

def epoch : Timestamp := ⟨.epoch, .midnight⟩

def instant (t : Timestamp) : Int :=
  (t.date.dayNumber * 86400 + t.time.seconds) * 1000000000 + t.time.nanosecond

end Timestamp

structure ZonedTimestamp where
  wall : Timestamp
  offset : Int
  offset_range : -93599 ≤ offset ∧ offset ≤ 93599
deriving DecidableEq

namespace ZonedTimestamp

def ofParts? (wall : Timestamp) (offset : Int) : Option ZonedTimestamp :=
  if h : -93599 ≤ offset ∧ offset ≤ 93599 then some ⟨wall, offset, h⟩ else none

def ofUtc (wall : Timestamp) : ZonedTimestamp := ⟨wall, 0, by decide⟩

def instant (t : ZonedTimestamp) : Int :=
  t.wall.instant - t.offset * 1000000000

def sameInstant (a b : ZonedTimestamp) : Bool :=
  a.instant == b.instant

/-- The timestamp in universal time; none when it leaves the years of the calendar. -/
def toUtc? (t : ZonedTimestamp) : Option Timestamp :=
  let seconds : Int := t.wall.time.seconds - t.offset
  (t.wall.date.addDays? (seconds / 86400)).map fun date =>
    ⟨date, .ofSeconds (seconds % 86400).toNat t.wall.time.nanosecond t.wall.time.nanosecond_lt⟩

end ZonedTimestamp

end TypedSql
