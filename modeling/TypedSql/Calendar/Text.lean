import TypedSql.Calendar.Timestamp
import TypedSql.Text.Digits

namespace TypedSql

open Text

/-! Written forms of dates and times: the form shown to a reader, the form inside a literal, and
reading of both. -/

namespace Date

/-- Form shown to a reader: four digits of the year at least, the sign apart. -/
def write (d : Date) : List Char :=
  (if d.year < 0 then ['-'] else []) ++ padded 4 d.year.natAbs ++
    '-' :: padded 2 d.month ++ '-' :: padded 2 d.day

/-- Form inside a literal: the sign counts towards the four places of the year. -/
def writeLiteral (d : Date) : List Char :=
  paddedSigned 4 d.year ++ '-' :: padded 2 d.month ++ '-' :: padded 2 d.day

def take? (text : List Char) : Option (Date × List Char) := do
  let (negative, body) :=
    match text with
    | '-' :: rest => (true, rest)
    | '+' :: rest => (false, rest)
    | rest => (false, rest)
  let (year, rest) ← takeExactly? 4 0 body
  let rest ← expect? '-' rest
  let (month, rest) ← takeExactly? 2 0 rest
  let rest ← expect? '-' rest
  let (day, rest) ← takeExactly? 2 0 rest
  let date ← ofParts? (if negative then -(year : Int) else year) month day
  return (date, rest)

def read? (text : List Char) : Option Date :=
  match take? text with
  | some (date, []) => some date
  | _ => none

end Date

namespace TimeOfDay

def write (t : TimeOfDay) : List Char :=
  Nat.toDigits 10 t.hour ++ ':' :: padded 2 t.minute ++ ':' :: padded 2 t.second ++
    '.' :: fractionDigits t.nanosecond

/-- Form inside a literal: two digits of the hour, too. -/
def writeLiteral (t : TimeOfDay) : List Char :=
  padded 2 t.hour ++ ':' :: padded 2 t.minute ++ ':' :: padded 2 t.second ++
    '.' :: shortened 9 t.nanosecond

def take? (text : List Char) : Option (TimeOfDay × List Char) := do
  let (hour, rest) ← takeExactly? 2 0 text
  let rest ← expect? ':' rest
  let (minute, rest) ← takeExactly? 2 0 rest
  let rest ← expect? ':' rest
  let (second, rest) ← takeExactly? 2 0 rest
  let (nanosecond, rest) :=
    match rest with
    | '.' :: digits => (takeFraction? digits).getD (0, rest)
    | _ => (0, rest)
  let time ← ofParts? hour minute second nanosecond
  return (time, rest)

def read? (text : List Char) : Option TimeOfDay :=
  match take? text with
  | some (time, []) => some time
  | _ => none

end TimeOfDay

namespace Timestamp

def write (t : Timestamp) : List Char :=
  t.date.write ++ ' ' :: t.time.write

def writeLiteral (t : Timestamp) : List Char :=
  t.date.writeLiteral ++ ' ' :: t.time.writeLiteral

def read? (text : List Char) : Option Timestamp := do
  let (date, rest) ← Date.take? text
  let rest ← expect? ' ' rest
  let time ← TimeOfDay.read? rest
  return ⟨date, time⟩

def spaceForMark : List Char → List Char
  | [] => []
  | c :: cs => if c = 'T' then ' ' :: cs else c :: spaceForMark cs

end Timestamp

namespace ZonedTimestamp

def writeOffset (offset : Int) : List Char :=
  let n := offset.natAbs
  (if offset < 0 then '-' else '+') :: padded 2 (n / 3600) ++ ':' :: padded 2 (n / 60 % 60) ++
    ':' :: padded 2 (n % 60)

def write (t : ZonedTimestamp) : List Char :=
  t.wall.write ++ ' ' :: writeOffset t.offset

end ZonedTimestamp

end TypedSql
