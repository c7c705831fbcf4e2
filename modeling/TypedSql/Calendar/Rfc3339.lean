import TypedSql.Calendar.Text

namespace TypedSql

inductive Rfc3339Part where
  | year | offsetHour | offsetSecond
deriving DecidableEq, Repr

namespace Rfc3339Part

def name : Rfc3339Part → String
  | year => "year"
  | offsetHour => "offset_hour"
  | offsetSecond => "offset_second"

def message (part : Rfc3339Part) : String :=
  s!"The {part.name} component cannot be formatted into the requested format."

end Rfc3339Part

namespace ZonedTimestamp

open Text

/-! The internet form of a timestamp with its zone (RFC 3339): a year from 0 to 9999, and an
offset of whole minutes below a day. -/

def writeRfc3339 (t : ZonedTimestamp) : Except Rfc3339Part (List Char) :=
  let n := t.offset.natAbs
  if t.wall.date.year < 0 then .error .year
  else if 23 < n / 3600 then .error .offsetHour
  else if n % 60 ≠ 0 then .error .offsetSecond
  else
    let fraction :=
      if t.wall.time.nanosecond = 0 then []
      else '.' :: fractionDigits t.wall.time.nanosecond
    let zone :=
      if n = 0 then ['Z']
      else
        (if t.offset < 0 then '-' else '+') :: padded 2 (n / 3600) ++ ':' :: padded 2 (n / 60 % 60)
    .ok (padded 4 t.wall.date.year.natAbs ++ '-' :: padded 2 t.wall.date.month ++
      '-' :: padded 2 t.wall.date.day ++ 'T' :: padded 2 t.wall.time.hour ++
      ':' :: padded 2 t.wall.time.minute ++ ':' :: padded 2 t.wall.time.second ++ fraction ++ zone)

def readZone? : List Char → Option Int
  | ['Z'] | ['z'] => some 0
  | c :: cs => do
      let negative ← if c = '-' then some true else if c = '+' then some false else none
      let (hours, rest) ← takeExactly? 2 0 cs
      let rest ← expect? ':' rest
      let (minutes, rest) ← takeExactly? 2 0 rest
      if hours ≤ 23 ∧ minutes ≤ 59 ∧ rest = [] then
        let seconds : Int := hours * 3600 + minutes * 60
        some (if negative then -seconds else seconds)
      else none
  | [] => none

/-- Whether the timestamp is the last instant before midnight of universal time at the end of a
month, which is where a leap second may be inserted. -/
def endsMonth (t : ZonedTimestamp) : Bool :=
  match t.toUtc? with
  | some utc => utc.date.isMonthEnd && utc.time.seconds = 86399
  | none => false

/-- Reads the internet form, with any one ASCII character between date and time.  A leap second
is read as the last nanosecond before it. -/
def readRfc3339? (text : List Char) : Option ZonedTimestamp := do
  let (year, rest) ← takeExactly? 4 0 text
  let rest ← expect? '-' rest
  let (month, rest) ← takeExactly? 2 0 rest
  let rest ← expect? '-' rest
  let (day, rest) ← takeExactly? 2 0 rest
  let rest ←
    match rest with
    | c :: cs => if c.toNat < 128 then some cs else none
    | [] => none
  let (hour, rest) ← takeExactly? 2 0 rest
  let rest ← expect? ':' rest
  let (minute, rest) ← takeExactly? 2 0 rest
  let rest ← expect? ':' rest
  let (second, rest) ← takeExactly? 2 0 rest
  let (nanosecond, rest) ←
    match rest with
    | '.' :: digits => takeFraction? digits
    | _ => some (0, rest)
  let offset ← readZone? rest
  let date ← Date.ofParts? year month day
  if second = 60 then
    let time ← TimeOfDay.ofParts? hour minute 59 999999999
    let t ← ofParts? ⟨date, time⟩ offset
    if t.endsMonth then some t else none
  else
    let time ← TimeOfDay.ofParts? hour minute second nanosecond
    ofParts? ⟨date, time⟩ offset

end ZonedTimestamp

end TypedSql
