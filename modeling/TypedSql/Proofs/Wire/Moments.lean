import TypedSql.Error
import TypedSql.Proofs.Calendar.Reach
import TypedSql.Writer.Literal

namespace TypedSql

/-! What a conversion tells its caller where it has no native value, and the moments that neither a
conversion nor a literal is made of: those that no clock of universal time shows. -/

namespace ConversionFault

/-- The faults that tell why a value is none of a type. -/
inductive Concerns (v : Value) (t : WireType) : ConversionFault → Prop
  | unexpectedNull (hnull : v.isNull) : Concerns v t (.unexpectedNull t)
  | mismatch (cause : Option NumberFault) : Concerns v t (.mismatch v t cause)
  | outOfRange {c : Content} (hcontent : v = .some c) : Concerns v t (.outOfRange c t)
  | notText {bytes : List UInt8} (hblob : v = .some (.blob bytes)) (htext : t = .varchar)
      (fault : Text.Utf8Fault) : Concerns v t (.notText fault)

/-- A value, or a fault that tells why there is none. -/
inductive Answers {α : Type} (v : Value) (t : WireType) : Except ConversionFault α → Prop
  | ok (a : α) : Answers v t (.ok a)
  | error {fault : ConversionFault} (hconcerns : fault.Concerns v t) : Answers v t (.error fault)

variable {α β : Type} {v : Value} {t : WireType} {r : Except ConversionFault α}

theorem Answers.map (hanswers : Answers v t r) (f : α → β) : Answers v t (r.map f) := by
  cases hanswers with
  | ok a => exact .ok (f a)
  | error hconcerns => exact .error hconcerns

theorem answers_mapError {ε : Type} {r : Except ε α} {f : ε → ConversionFault}
    (hconcerns : ∀ e, (f e).Concerns v t) : Answers v t (r.mapError f) := by
  cases r with
  | ok a => exact .ok a
  | error e => exact .error (hconcerns e)

theorem Concerns.isPanic {fault : ConversionFault} (hconcerns : fault.Concerns v t) :
    (Error.conversion fault).isPanic = false := by
  cases hconcerns <;> rfl

end ConversionFault

namespace ZonedTimestamp

variable {z : ZonedTimestamp}

theorem toUtc?_of_not_isInReach (hbeyond : ¬z.IsInReach) : z.toUtc? = none :=
  toUtc?_eq_none_iff.mpr hbeyond

theorem exists_toUtc?_of_isInReach (hreach : z.IsInReach) : ∃ utc, z.toUtc? = some utc :=
  Option.ne_none_iff_exists'.mp fun hnone => toUtc?_eq_none_iff.mp hnone hreach

end ZonedTimestamp

/-- A moment that no clock of universal time shows within the years of the calendar. -/
def Value.IsBeyondCalendar (v : Value) : Prop :=
  ∃ z, v = .some (.timestampWithTimezone z) ∧ ¬z.IsInReach

namespace Content

open ConversionFault

theorem answers_toBoolean (c : Content) : Answers (.some c) .boolean c.toBoolean := by
  cases c with
  | boolean | integer => exact .ok _
  | varchar s =>
      simp only [toBoolean]
      split
      · exact .ok _
      · split
        · exact .ok _
        · exact .error (.mismatch none)
  | _ => exact .error (.mismatch none)

theorem answers_inRange (c : Content) (kind : IntegerKind) (n : Int) :
    Answers (.some c) (.integer kind) (c.inRange kind n) := by
  unfold inRange
  split
  · exact .ok _
  · exact .error (.outOfRange rfl)

theorem answers_toInteger (kind : IntegerKind) (c : Content) :
    Answers (.some c) (.integer kind) (c.toInteger kind) := by
  cases c with
  | boolean => exact .ok _
  | integer _ n => exact answers_inRange _ kind n.val
  | decimal d =>
      simp only [toInteger]
      split
      · exact answers_inRange _ kind d.whole
      · exact .error (.mismatch none)
  | varchar s =>
      simp only [toInteger]
      split
      · exact answers_inRange _ kind _
      · exact .error (.mismatch _)
  | _ => exact .error (.mismatch none)

theorem answers_toBinary32 (c : Content) : Answers (.some c) .float32 c.toBinary32 := by
  cases c with
  | float32 | float64 | integer | decimal => exact .ok _
  | varchar s => exact answers_mapError fun fault => .mismatch (some fault)
  | _ => exact .error (.mismatch none)

theorem answers_toBinary64 (c : Content) : Answers (.some c) .float64 c.toBinary64 := by
  cases c with
  | float32 | float64 | integer | decimal => exact .ok _
  | varchar s => exact answers_mapError fun fault => .mismatch (some fault)
  | _ => exact .error (.mismatch none)

theorem answers_toDecimal (c : Content) : Answers (.some c) .decimal c.toDecimal := by
  cases c with
  | decimal | integer => exact .ok _
  | float32 x | float64 x =>
      simp only [toDecimal]
      split
      · exact .ok _
      · exact .error (.outOfRange rfl)
  | varchar s =>
      simp only [toDecimal]
      generalize Decimal.read? _ = read
      cases read with
      | some d => exact .ok _
      | none => exact .error (.mismatch none)
  | _ => exact .error (.mismatch none)

theorem answers_toText (c : Content) : Answers (.some c) .varchar c.toText := by
  cases c with
  | varchar => exact .ok _
  | blob bytes =>
      simp only [toText]
      split
      · exact .ok _
      · exact .error (.notText rfl rfl _)
  | _ => exact .error (.mismatch none)

theorem answers_toBytes (c : Content) : Answers (.some c) .blob c.toBytes := by
  cases c with
  | blob | varchar => exact .ok _
  | _ => exact .error (.mismatch none)

theorem answers_toDate (c : Content) : Answers (.some c) .date c.toDate := by
  cases c with
  | date | timestamp => exact .ok _
  | varchar s =>
      simp only [toDate]
      generalize Date.read? _ = read
      cases read with
      | some d => exact .ok _
      | none => exact .error (.mismatch none)
  | _ => exact .error (.mismatch none)

theorem answers_toTime (c : Content) : Answers (.some c) .time c.toTime := by
  cases c with
  | time => exact .ok _
  | varchar s =>
      simp only [toTime]
      generalize TimeOfDay.read? _ = read
      cases read with
      | some t => exact .ok _
      | none => exact .error (.mismatch none)
  | _ => exact .error (.mismatch none)

/-- A moment is read as a timestamp by its universal time, if it has one. -/
theorem answers_toTimestamp {c : Content} (hwithin : ¬(Value.some c).IsBeyondCalendar) :
    Answers (.some c) .timestamp c.toTimestamp := by
  cases c with
  | timestamp => exact .ok _
  | timestampWithTimezone z =>
      have hreach : z.IsInReach := not_not.mp fun hbeyond => hwithin ⟨z, rfl, hbeyond⟩
      obtain ⟨utc, hfound⟩ := ZonedTimestamp.exists_toUtc?_of_isInReach hreach
      simp only [toTimestamp, hfound]
      exact .ok _
  | varchar s =>
      simp only [toTimestamp]
      generalize Timestamp.read? _ = read
      cases read with
      | some t => exact .ok _
      | none => exact .error (.mismatch none)
  | _ => exact .error (.mismatch none)

theorem answers_toZoned (c : Content) :
    Answers (.some c) .timestampWithTimezone c.toZoned := by
  cases c with
  | timestampWithTimezone | timestamp => exact .ok _
  | varchar s =>
      simp only [toZoned]
      generalize ZonedTimestamp.readRfc3339? _ = read
      cases read with
      | some t => exact .ok _
      | none => exact .error (.mismatch none)
  | _ => exact .error (.mismatch none)

theorem answers_toUuid (c : Content) : Answers (.some c) .uuid c.toUuid := by
  cases c with
  | uuid => exact .ok _
  | varchar s =>
      simp only [toUuid]
      generalize Uuid.read? _ = read
      cases read with
      | some u => exact .ok _
      | none => exact .error (.mismatch none)
  | blob bytes =>
      simp only [toUuid]
      generalize Uuid.ofBytes? _ = read
      cases read with
      | some u => exact .ok _
      | none => exact .error (.mismatch none)
  | _ => exact .error (.mismatch none)

theorem answers_convert {t : WireType} {c : Content}
    (hwithin : t = .timestamp → ¬(Value.some c).IsBeyondCalendar) :
    Answers (.some c) t (c.convert t) := by
  cases t with
  | boolean => exact c.answers_toBoolean.map _
  | integer kind => exact (c.answers_toInteger kind).map _
  | float32 => exact c.answers_toBinary32.map _
  | float64 => exact c.answers_toBinary64.map _
  | decimal => exact c.answers_toDecimal.map _
  | varchar => exact c.answers_toText.map _
  | blob => exact c.answers_toBytes.map _
  | date => exact c.answers_toDate.map _
  | time => exact c.answers_toTime.map _
  | timestamp => exact (answers_toTimestamp (hwithin rfl)).map _
  | timestampWithTimezone => exact c.answers_toZoned.map _
  | uuid => exact c.answers_toUuid.map _

theorem failure_literal {c : Content} (d : Dialect) (hwithin : ¬(Value.some c).IsBeyondCalendar) :
    (c.literal d).failure = none := by
  cases c with
  | timestampWithTimezone z =>
      have hreach : z.IsInReach := not_not.mp fun hbeyond => hwithin ⟨z, rfl, hbeyond⟩
      obtain ⟨utc, hfound⟩ := ZonedTimestamp.exists_toUtc?_of_isInReach hreach
      simp only [literal, hfound]
      rfl
  | _ => rfl

end Content

namespace Value

variable {v : Value}

theorem answers_convert {t : WireType} (hwithin : t = .timestamp → ¬v.IsBeyondCalendar) :
    ConversionFault.Answers v t (v.convert t) := by
  cases v with
  | null => exact .error (.unexpectedNull rfl)
  | nullOf => exact .error (.unexpectedNull rfl)
  | some c => exact Content.answers_convert hwithin

theorem convert_of_isBeyondCalendar (hbeyond : v.IsBeyondCalendar) :
    v.convert .timestamp = .error .leavesCalendar := by
  obtain ⟨z, rfl, hbeyond⟩ := hbeyond
  have hnone := ZonedTimestamp.toUtc?_of_not_isInReach hbeyond
  simp only [convert, Content.convert, Content.toTimestamp, hnone]
  rfl

theorem failure_literal_of_isBeyondCalendar (hbeyond : v.IsBeyondCalendar) (d : Dialect) :
    (v.literal d).failure = Option.some (.panic ConversionFault.leavesCalendar.message) := by
  obtain ⟨z, rfl, hbeyond⟩ := hbeyond
  have hnone := ZonedTimestamp.toUtc?_of_not_isInReach hbeyond
  simp only [literal, Content.literal, hnone]
  rfl

theorem failure_literal (d : Dialect) (hwithin : ¬v.IsBeyondCalendar) :
    (v.literal d).failure = none := by
  cases v with
  | null | nullOf => rfl
  | some c => exact Content.failure_literal d hwithin

/-- Reading a value as a native one and writing it as a literal end with an answer, whatever the
value, but for a moment that no clock of universal time shows: reading it as a timestamp and
writing it in any dialect are abandoned. -/
theorem abandoned_iff_isBeyondCalendar (v : Value) :
    (∀ t, (∃ fault, v.convert t = .error fault ∧ (Error.conversion fault).isPanic) ↔
      t = .timestamp ∧ v.IsBeyondCalendar) ∧
    (∀ t, ¬(t = .timestamp ∧ v.IsBeyondCalendar) →
      (∃ n, v.convert t = .ok n) ∨ ∃ fault, v.convert t = .error fault ∧ fault.Concerns v t) ∧
    ∀ d, ((∃ e, (v.literal d).failure = Option.some e ∧ e.isPanic) ↔ v.IsBeyondCalendar) ∧
      (¬v.IsBeyondCalendar → (v.literal d).failure = none) := by
  have hanswers {t : WireType} (hwithin : ¬(t = .timestamp ∧ v.IsBeyondCalendar)) :
      ConversionFault.Answers v t (v.convert t) :=
    answers_convert fun htimestamp hbeyond => hwithin ⟨htimestamp, hbeyond⟩
  refine ⟨fun t => ⟨?_, ?_⟩, ?_, fun d => ⟨⟨?_, ?_⟩, failure_literal d⟩⟩
  · rintro ⟨fault, hfailed, hpanic⟩
    refine by_contra fun hwithin => ?_
    have htold := hanswers hwithin
    rw [hfailed] at htold
    cases htold with
    | error hconcerns => exact Bool.eq_false_iff.mp hconcerns.isPanic hpanic
  · rintro ⟨rfl, hbeyond⟩
    exact ⟨.leavesCalendar, convert_of_isBeyondCalendar hbeyond, rfl⟩
  · intro t hwithin
    have htold := hanswers hwithin
    generalize v.convert t = r at htold ⊢
    cases htold with
    | ok n => exact .inl ⟨n, rfl⟩
    | error hconcerns => exact .inr ⟨_, rfl, hconcerns⟩
  · rintro ⟨e, hfailed, -⟩
    refine by_contra fun hwithin => ?_
    rw [failure_literal d hwithin] at hfailed
    cases hfailed
  · intro hbeyond
    exact ⟨_, failure_literal_of_isBeyondCalendar hbeyond d, rfl⟩

/-- The last second of the calendar, in a zone that is an hour behind universal time. -/
def lastSecond : Value :=
  .some (.timestampWithTimezone
    ⟨⟨.last, ⟨23, 59, 59, 0, TimeOfDay.last.hour_lt, TimeOfDay.last.minute_lt,
      TimeOfDay.last.second_lt, TimeOfDay.midnight.nanosecond_lt⟩⟩, -3600, by decide⟩)

theorem lastSecond_abandoned :
    (∃ fault, lastSecond.convert .timestamp = .error fault ∧
      (Error.conversion fault).isPanic) ∧
    ∃ e, (lastSecond.literal .sqlite).failure = Option.some e ∧ e.isPanic :=
  ⟨⟨_, rfl, rfl⟩, ⟨_, rfl, rfl⟩⟩

end Value

end TypedSql
