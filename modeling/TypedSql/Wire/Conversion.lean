import TypedSql.Calendar.Rfc3339
import TypedSql.Number.BinaryReader
import TypedSql.Number.DecimalReader
import TypedSql.Text.Blank
import TypedSql.Text.Lowercase
import TypedSql.Text.Utf8
import TypedSql.Wire.Text

namespace TypedSql

open Text

/-! Reading a wire value as a native value of a given type.  The wire type itself is always
accepted; a neighbouring type is accepted when the value can be carried over, since a store may
return a wider type, or text, for a field. -/

inductive ConversionFault where
  | unexpectedNull (target : WireType)
  | mismatch (value : Value) (target : WireType) (cause : Option NumberFault)
  | outOfRange (content : Content) (target : WireType)
  | notText (fault : Utf8Fault)
  /-- The timestamp has no form in universal time within the years of the calendar. -/
  | leavesCalendar
deriving DecidableEq

namespace ConversionFault

def plainNumber : Content → String
  | .float32 x => String.ofList (BinaryLayout.plain.write x)
  | .float64 x => String.ofList (BinaryLayout.plain.write x)
  | c => c.display

def message : ConversionFault → String
  | unexpectedNull t => "Cannot convert NULL into the non nullable " ++ t.nativeName
  | mismatch v t _ => "Cannot convert " ++ v.debug ++ " into " ++ t.nativeName
  | outOfRange c t => "Value " ++ plainNumber c ++ " is out of range for " ++ t.nativeName
  | notText fault => fault.message
  | leavesCalendar => "local datetime out of valid range"

def cause? : ConversionFault → Option NumberFault
  | mismatch _ _ cause => cause
  | _ => none

end ConversionFault

namespace Content

private def mismatched (c : Content) (t : WireType) : ConversionFault :=
  .mismatch (.some c) t none

private def trimmed (s : String) : List Char := (trim s).toList

/-- Truth values; any number but zero is true, and the usual words are read. -/
def toBoolean (c : Content) : Except ConversionFault Bool :=
  match c with
  | boolean b => .ok b
  | integer _ n => .ok (n.val ≠ 0)
  | varchar s =>
      let word := asciiLowercase (trim s)
      if word = "true" ∨ word = "t" ∨ word = "1" then .ok true
      else if word = "false" ∨ word = "f" ∨ word = "0" then .ok false
      else .error (c.mismatched .boolean)
  | _ => .error (c.mismatched .boolean)

def inRange (c : Content) (kind : IntegerKind) (n : Int) :
    Except ConversionFault (Integer kind) :=
  match Integer.ofInt? kind n with
  | some i => .ok i
  | none => .error (.outOfRange c (.integer kind))

/-- Whole numbers; a decimal must have no fraction, and text must be a whole number. -/
def toInteger (kind : IntegerKind) (c : Content) : Except ConversionFault (Integer kind) :=
  match c with
  | boolean b => .ok (.ofBool kind b)
  | integer _ n => c.inRange kind n.val
  | decimal d =>
      if d.isWhole then c.inRange kind d.whole else .error (c.mismatched (.integer kind))
  | varchar s =>
      match Integer.read kind (trimmed s) with
      | .ok n => c.inRange kind n
      | .error fault => .error (.mismatch (.some c) (.integer kind) (some fault))
  | _ => .error (c.mismatched (.integer kind))

def toBinary32 (c : Content) : Except ConversionFault Binary32 :=
  match c with
  | float32 x => .ok x
  | float64 x => .ok (x.convert .single)
  | integer _ n => .ok (.ofInt .single n.val)
  | decimal d => .ok d.toBinary32
  | varchar s =>
      (Binary.read .single (trimmed s)).mapError fun fault =>
        .mismatch (.some c) .float32 (some fault)
  | _ => .error (c.mismatched .float32)

def toBinary64 (c : Content) : Except ConversionFault Binary64 :=
  match c with
  | float32 x => .ok (x.convert .double)
  | float64 x => .ok x
  | integer _ n => .ok (.ofInt .double n.val)
  | decimal d => .ok d.toBinary64
  | varchar s =>
      (Binary.read .double (trimmed s)).mapError fun fault =>
        .mismatch (.some c) .float64 (some fault)
  | _ => .error (c.mismatched .float64)

private def orMismatch {α : Type} (c : Content) (t : WireType) :
    Option α → Except ConversionFault α
  | some a => .ok a
  | none => .error (c.mismatched t)

def toDecimal (c : Content) : Except ConversionFault Decimal :=
  match c with
  | decimal d => .ok d
  | integer _ n => .ok (.ofInteger n)
  | float32 x =>
      match Decimal.ofBinary? x with
      | some d => .ok d
      | none => .error (.outOfRange c .decimal)
  | float64 x =>
      match Decimal.ofBinary? x with
      | some d => .ok d
      | none => .error (.outOfRange c .decimal)
  | varchar s => c.orMismatch .decimal (Decimal.read? (trimmed s))
  | _ => .error (c.mismatched .decimal)

def toText (c : Content) : Except ConversionFault String :=
  match c with
  | varchar s => .ok s
  | blob bytes =>
      match ofUtf8? bytes with
      | some s => .ok s
      | none => .error (.notText ((utf8Fault? bytes).getD ⟨0, none⟩))
  | _ => .error (c.mismatched .varchar)

def toBytes (c : Content) : Except ConversionFault (List UInt8) :=
  match c with
  | blob bytes => .ok bytes
  | varchar s => .ok (utf8Bytes s)
  | _ => .error (c.mismatched .blob)

def toDate (c : Content) : Except ConversionFault Date :=
  match c with
  | date d => .ok d
  | timestamp t => .ok t.date
  | varchar s => c.orMismatch .date (Date.read? (trimmed s))
  | _ => .error (c.mismatched .date)

def toTime (c : Content) : Except ConversionFault TimeOfDay :=
  match c with
  | time t => .ok t
  | varchar s => c.orMismatch .time (TimeOfDay.read? (trimmed s))
  | _ => .error (c.mismatched .time)

/-- Timestamps; one with a zone is taken to universal time. -/
def toTimestamp (c : Content) : Except ConversionFault Timestamp :=
  match c with
  | timestamp t => .ok t
  | timestampWithTimezone t =>
      match t.toUtc? with
      | some utc => .ok utc
      | none => .error .leavesCalendar
  | varchar s => c.orMismatch .timestamp (Timestamp.read? (Timestamp.spaceForMark (trimmed s)))
  | _ => .error (c.mismatched .timestamp)

/-- Timestamps with a zone; one without is taken to be of universal time. -/
def toZoned (c : Content) : Except ConversionFault ZonedTimestamp :=
  match c with
  | timestampWithTimezone t => .ok t
  | timestamp t => .ok (.ofUtc t)
  | varchar s => c.orMismatch .timestampWithTimezone (ZonedTimestamp.readRfc3339? (trimmed s))
  | _ => .error (c.mismatched .timestampWithTimezone)

def toUuid (c : Content) : Except ConversionFault Uuid :=
  match c with
  | uuid u => .ok u
  | varchar s => c.orMismatch .uuid (Uuid.read? (trimmed s))
  | blob bytes => c.orMismatch .uuid (Uuid.ofBytes? bytes)
  | _ => .error (c.mismatched .uuid)

section Varchar

variable {text : List Char}

theorem toDecimal_varchar {d : Decimal} (hkept : trim (String.ofList text) = String.ofList text)
    (hreads : Decimal.read? text = some d) : (varchar (String.ofList text)).toDecimal = .ok d := by
  rw [toDecimal, trimmed, hkept, String.toList_ofList, hreads]
  rfl

theorem toDate_varchar {d : Date} (hkept : trim (String.ofList text) = String.ofList text)
    (hreads : Date.read? text = some d) : (varchar (String.ofList text)).toDate = .ok d := by
  rw [toDate, trimmed, hkept, String.toList_ofList, hreads]
  rfl

theorem toDate_varchar_of_none (hkept : trim (String.ofList text) = String.ofList text)
    (hunread : Date.read? text = none) :
    (varchar (String.ofList text)).toDate =
      .error (.mismatch (.some (.varchar (String.ofList text))) .date none) := by
  rw [toDate, trimmed, hkept, String.toList_ofList, hunread]
  rfl

theorem toTime_varchar {t : TimeOfDay} (hkept : trim (String.ofList text) = String.ofList text)
    (hreads : TimeOfDay.read? text = some t) : (varchar (String.ofList text)).toTime = .ok t := by
  rw [toTime, trimmed, hkept, String.toList_ofList, hreads]
  rfl

theorem toTimestamp_varchar {t : Timestamp}
    (hkept : trim (String.ofList text) = String.ofList text)
    (hreads : Timestamp.read? (Timestamp.spaceForMark text) = some t) :
    (varchar (String.ofList text)).toTimestamp = .ok t := by
  rw [toTimestamp, trimmed, hkept, String.toList_ofList, hreads]
  rfl

theorem toTimestamp_varchar_of_none (hkept : trim (String.ofList text) = String.ofList text)
    (hunread : Timestamp.read? (Timestamp.spaceForMark text) = none) :
    (varchar (String.ofList text)).toTimestamp =
      .error (.mismatch (.some (.varchar (String.ofList text))) .timestamp none) := by
  rw [toTimestamp, trimmed, hkept, String.toList_ofList, hunread]
  rfl

theorem toZoned_varchar {t : ZonedTimestamp}
    (hkept : trim (String.ofList text) = String.ofList text)
    (hreads : ZonedTimestamp.readRfc3339? text = some t) :
    (varchar (String.ofList text)).toZoned = .ok t := by
  rw [toZoned, trimmed, hkept, String.toList_ofList, hreads]
  rfl

theorem toUuid_varchar {u : Uuid} (hkept : trim (String.ofList text) = String.ofList text)
    (hreads : Uuid.read? text = some u) : (varchar (String.ofList text)).toUuid = .ok u := by
  rw [toUuid, trimmed, hkept, String.toList_ofList, hreads]
  rfl

end Varchar

def convert (t : WireType) (c : Content) : Except ConversionFault (Native t) :=
  match t with
  | .boolean => c.toBoolean.map fun x => ⟨.boolean x, rfl⟩
  | .integer kind => (c.toInteger kind).map fun x => ⟨.integer kind x, rfl⟩
  | .float32 => c.toBinary32.map fun x => ⟨.float32 x, rfl⟩
  | .float64 => c.toBinary64.map fun x => ⟨.float64 x, rfl⟩
  | .decimal => c.toDecimal.map fun x => ⟨.decimal x, rfl⟩
  | .varchar => c.toText.map fun x => ⟨.varchar x, rfl⟩
  | .blob => c.toBytes.map fun x => ⟨.blob x, rfl⟩
  | .date => c.toDate.map fun x => ⟨.date x, rfl⟩
  | .time => c.toTime.map fun x => ⟨.time x, rfl⟩
  | .timestamp => c.toTimestamp.map fun x => ⟨.timestamp x, rfl⟩
  | .timestampWithTimezone => c.toZoned.map fun x => ⟨.timestampWithTimezone x, rfl⟩
  | .uuid => c.toUuid.map fun x => ⟨.uuid x, rfl⟩

end Content

namespace Value

def convert (t : WireType) : Value → Except ConversionFault (Native t)
  | null | nullOf _ => .error (.unexpectedNull t)
  | some c => c.convert t

end Value

namespace Native

def zero : (t : WireType) → Native t
  | .boolean => ⟨.boolean false, rfl⟩
  | .integer kind => ⟨.integer kind (.zero kind), rfl⟩
  | .float32 => ⟨.float32 (.zero .single), rfl⟩
  | .float64 => ⟨.float64 (.zero .double), rfl⟩
  | .decimal => ⟨.decimal .zero, rfl⟩
  | .varchar => ⟨.varchar "", rfl⟩
  | .blob => ⟨.blob [], rfl⟩
  | .date => ⟨.date .epoch, rfl⟩
  | .time => ⟨.time .midnight, rfl⟩
  | .timestamp => ⟨.timestamp .epoch, rfl⟩
  | .timestampWithTimezone => ⟨.timestampWithTimezone (.ofUtc .epoch), rfl⟩
  | .uuid => ⟨.uuid .nil, rfl⟩

end Native

end TypedSql
