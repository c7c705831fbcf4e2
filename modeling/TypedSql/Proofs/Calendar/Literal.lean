import TypedSql.Proofs.Calendar.ReadBack
import TypedSql.Proofs.Sql.Token
import TypedSql.Writer.Literal

namespace TypedSql

/-! Dates and times that are written into the text of a statement, and what is read from between
the quotes there. -/

open Text

namespace Writer

variable {w : Writer} {v : Value} {body : List Char}

/-- What the writer puts between single quotes for a value. -/
structure Quotes (w : Writer) (v : Value) (body : List Char) : Prop where
  done : (v.literal w.dialect).failure = none
  text : ∀ count, w.print count (v.literal w.dialect).pieces = '\'' :: body ++ ['\'']

theorem quotedText_ofList (hunquoted : '\'' ∉ body) :
    quotedText (String.ofList body) = '\'' :: body ++ ['\''] := by
  rw [quotedText, String.toList_ofList, Sql.replace_eq_doubled, Sql.doubled_of_not_mem hunquoted]

theorem quotes_of_literal
    (hwritten : v.literal w.dialect = .ofPieces [.quoted (String.ofList body)])
    (hunquoted : ∀ c ∈ body, c ≠ '\'') : w.Quotes v body where
  done := by
    rw [hwritten]
    rfl
  text count := by
    have hprinted : w.print count [.quoted (String.ofList body)] =
        quotedText (String.ofList body) ++ [] := rfl
    rw [hwritten, Rendering.ofPieces, hprinted, List.append_nil,
      quotedText_ofList (List.forall_mem_ne'.mp hunquoted)]

end Writer

/-- What a text is read as, when a native value of a type is asked for. -/
def Value.readText (t : WireType) (text : List Char) : Except ConversionFault (Native t) :=
  (Value.some (.varchar (String.ofList text))).convert t

namespace Date

theorem quotes_writeLiteral (w : Writer) (d : Date) :
    w.Quotes (.some (.date d)) d.writeLiteral :=
  Writer.quotes_of_literal rfl
    (d.forall_mem_writeLiteral (fun _ hdigit => ne_of_isDigit hdigit rfl) (by decide))

theorem readText_writeLiteral (d : Date) :
    Value.readText .date d.writeLiteral =
      if d.LosesPlace then
        .error (.mismatch (.some (.varchar (String.ofList d.writeLiteral))) .date none)
      else .ok ⟨.date d, rfl⟩ := by
  have hkept := d.isVisible_writeLiteral.trim
  rw [Value.readText, Value.convert, Content.convert]
  split
  next hloses =>
    rw [Content.toDate_varchar_of_none hkept (read?_writeLiteral_of_losesPlace hloses)]
    rfl
  next hkeeps =>
    rw [Content.toDate_varchar hkept (read?_writeLiteral hkeeps)]
    rfl

end Date

namespace TimeOfDay

theorem quotes_writeLiteral (w : Writer) (t : TimeOfDay) :
    w.Quotes (.some (.time t)) t.writeLiteral :=
  Writer.quotes_of_literal rfl
    (t.forall_mem_writeLiteral (fun _ hdigit => ne_of_isDigit hdigit rfl) (by decide) (by decide))

theorem readText_writeLiteral (t : TimeOfDay) :
    Value.readText .time t.writeLiteral = .ok ⟨.time t, rfl⟩ := by
  rw [Value.readText, Value.convert, Content.convert,
    Content.toTime_varchar t.isVisible_writeLiteral.trim t.read?_writeLiteral]
  rfl

/-- Hour, minute and second, as a literal begins with them. -/
def clock (t : TimeOfDay) : List Char :=
  padded 2 t.hour ++ ':' :: padded 2 t.minute ++ ':' :: padded 2 t.second

theorem not_mem_clock (t : TimeOfDay) : '.' ∉ t.clock := by
  have hfield : ∀ {width n}, '.' ∉ padded width n := fun hmem =>
    ne_of_isDigit (isDigit_of_mem_padded hmem) rfl rfl
  simp [clock, hfield]

end TimeOfDay

namespace Timestamp

theorem quotes_writeLiteral (w : Writer) (t : Timestamp) :
    w.Quotes (.some (.timestamp t)) t.writeLiteral :=
  Writer.quotes_of_literal rfl
    (t.forall_mem_writeLiteral (fun _ hdigit => ne_of_isDigit hdigit rfl) (by decide) (by decide)
      (by decide) (by decide))

theorem readText_writeLiteral (t : Timestamp) :
    Value.readText .timestamp t.writeLiteral =
      if t.date.LosesPlace then
        .error (.mismatch (.some (.varchar (String.ofList t.writeLiteral))) .timestamp none)
      else .ok ⟨.timestamp t, rfl⟩ := by
  have hkept := t.trim_writeLiteral
  have hspaced := spaceForMark_of_not_mem t.unmarked_writeLiteral
  rw [Value.readText, Value.convert, Content.convert]
  split
  next hloses =>
    have hunread : read? (spaceForMark t.writeLiteral) = none := by
      rw [hspaced, read?_writeLiteral_of_losesPlace hloses]
    rw [Content.toTimestamp_varchar_of_none hkept hunread]
    rfl
  next hkeeps =>
    have hreads : read? (spaceForMark t.writeLiteral) = some t := by
      rw [hspaced, read?_writeLiteral hkeeps]
    rw [Content.toTimestamp_varchar hkept hreads]
    rfl

end Timestamp

def Date.idesOfMarch : Date := ⟨-44, 3, 15, by decide, by decide, by decide⟩

namespace Value

/-- A date, and likewise a timestamp, is read back from its literal, but for the years from -999
to -1: there the sign has taken the place of a digit, and what is left is refused. -/
theorem dateLiteral_readBack (w : Writer) :
    (∀ d : Date, ∃ body, w.Quotes (.some (.date d)) body ∧
      readText .date body =
        if -999 ≤ d.year ∧ d.year < 0 then
          .error (.mismatch (.some (.varchar (String.ofList body))) .date none)
        else .ok ⟨.date d, rfl⟩) ∧
    (∀ t : Timestamp, ∃ body, w.Quotes (.some (.timestamp t)) body ∧
      readText .timestamp body =
        if -999 ≤ t.date.year ∧ t.date.year < 0 then
          .error (.mismatch (.some (.varchar (String.ofList body))) .timestamp none)
        else .ok ⟨.timestamp t, rfl⟩) :=
  ⟨fun d => ⟨_, d.quotes_writeLiteral w, d.readText_writeLiteral⟩,
    fun t => ⟨_, t.quotes_writeLiteral w, t.readText_writeLiteral⟩⟩

/-- The form shown to a reader has all four digits of the year, and is read. -/
theorem idesOfMarch_refused :
    (Writer.of .generic {}).Quotes (.some (.date .idesOfMarch)) "-044-03-15".toList ∧
    (some (.varchar "-044-03-15")).convert .date =
      .error (.mismatch (.some (.varchar "-044-03-15")) .date none) ∧
    (some (.varchar "-0044-03-15")).convert .date = .ok ⟨.date .idesOfMarch, rfl⟩ := by
  have hwritten : Date.idesOfMarch.writeLiteral = "-044-03-15".toList := by decide +kernel
  have hquoted := Date.idesOfMarch.quotes_writeLiteral (Writer.of .generic {})
  rw [hwritten] at hquoted
  refine ⟨hquoted, ?_, ?_⟩
  · decide +kernel
  · decide +kernel

/-- Every time of day is read back from its literal.  Its fraction is what stands behind the one
point, and is no longer than it needs to be. -/
theorem timeLiteral_readBack (w : Writer) (t : TimeOfDay) :
    ∃ clock fraction,
      w.Quotes (.some (.time t)) (clock ++ '.' :: fraction) ∧
      readText .time (clock ++ '.' :: fraction) = .ok ⟨.time t, rfl⟩ ∧
      '.' ∉ clock ∧ (∀ c ∈ fraction, c.isDigit) ∧
      1 ≤ fraction.length ∧ fraction.length ≤ 9 ∧
      (fraction = ['0'] ∨ fraction.getLast? ≠ Option.some '0') := by
  have hpositive : 0 < 9 := by decide
  obtain ⟨hleast, hmost⟩ := length_shortened hpositive t.nanosecond_lt
  exact ⟨t.clock, shortened 9 t.nanosecond, t.quotes_writeLiteral w, t.readText_writeLiteral,
    t.not_mem_clock, fun _ => isDigit_of_mem_shortened, hleast, hmost,
    shortened_ended hpositive t.nanosecond_lt⟩

end Value

end TypedSql
