import TypedSql.Proofs.Calendar.ReadBack
import TypedSql.Proofs.Number.ReadBack
import TypedSql.Proofs.Text.Hex
import TypedSql.Sqlite.Storage

namespace TypedSql

open Text

/-! What SQLite stores for a value is read back as that value: exactly, but for the sign of a
decimal zero. -/

theorem Decimal.sameNumber_self (d : Decimal) : d.sameNumber d := beq_self_eq_true _

/-- Numbers of floating point are the only contents that need not equal themselves. -/
theorem Content.same_self {c : Content} (hsingle : c.type ≠ .float32)
    (hdouble : c.type ≠ .float64) : c.same c := by
  cases c with
  | float32 => exact absurd rfl hsingle
  | float64 => exact absurd rfl hdouble
  | decimal d => exact d.sameNumber_self
  | timestampWithTimezone t => exact beq_self_eq_true t.instant
  | _ => exact beq_self_eq_true _

namespace Sqlite

/-- What SQLite has no class of values for: whole numbers past 64 bits with a sign, and zoned
timestamps that have no internet form. -/
inductive Exceeds : Content → Prop
  | integer (n : Integer .uint64) (hwide : IntegerKind.int64.greatest < n.val) :
      Exceeds (.integer .uint64 n)
  | year (t : ZonedTimestamp) (houtside : t.wall.date.year < 0 ∨ 9999 < t.wall.date.year) :
      Exceeds (.timestampWithTimezone t)
  | offsetHours (t : ZonedTimestamp) (hbeyond : 23 < t.offset.natAbs / 3600) :
      Exceeds (.timestampWithTimezone t)
  | offsetSeconds (t : ZonedTimestamp) (huneven : t.offset.natAbs % 60 ≠ 0) :
      Exceeds (.timestampWithTimezone t)

theorem exceeds_zoned_iff (t : ZonedTimestamp) :
    Exceeds (.timestampWithTimezone t) ↔ ¬t.HasRfc3339 := by
  constructor
  · rintro hexceeds ⟨hyear, hhours, hminutes⟩
    cases hexceeds with
    | year _ houtside =>
        have hrange := t.wall.date.year_range
        omega
    | offsetHours _ hbeyond => omega
    | offsetSeconds _ huneven => exact huneven hminutes
  · intro hlacks
    by_cases hyear : t.wall.date.year < 0
    · exact .year t (.inl hyear)
    by_cases hhours : 23 < t.offset.natAbs / 3600
    · exact .offsetHours t hhours
    by_cases hminutes : t.offset.natAbs % 60 = 0
    · exact absurd ⟨Int.not_lt.mp hyear, Nat.not_lt.mp hhours, hminutes⟩ hlacks
    · exact .offsetSeconds t hminutes

theorem ofInt?_eq_none_iff {kind : IntegerKind} {n : Int} :
    Integer.ofInt? kind n = none ↔ ¬(kind.least ≤ n ∧ n ≤ kind.greatest) := by
  unfold Integer.ofInt?
  split
  next hwithin => simp [hwithin]
  next houtside => simp only [houtside, not_false_eq_true]

theorem exceeds_integer_iff {kind : IntegerKind} (n : Integer kind) :
    Exceeds (.integer kind n) ↔ Integer.ofInt? .int64 n.val = none := by
  rw [ofInt?_eq_none_iff]
  constructor
  · rintro ⟨_, hwide⟩ ⟨-, hfits⟩
    exact absurd hfits (Int.not_le.mpr hwide)
  · intro houtside
    have hlow := n.least_le
    have hhigh := n.le_greatest
    by_cases hunsigned : kind = .uint64
    · subst hunsigned
      have hzero : IntegerKind.int64.least ≤ IntegerKind.uint64.least := by decide
      exact .integer n (by omega)
    · have hwithin : IntegerKind.int64.least ≤ kind.least ∧
          kind.greatest ≤ IntegerKind.int64.greatest := by
        cases kind <;> first | decide | exact absurd rfl hunsigned
      omega

theorem storeContent_fails_iff (c : Content) :
    (∃ e, storeContent c = .error e) ↔ Exceeds c := by
  cases c with
  | integer kind n =>
      rw [exceeds_integer_iff]
      cases hfits : Integer.ofInt? .int64 n.val with
      | none => simp [storeContent, hfits]
      | some m => simp [storeContent, hfits]
  | timestampWithTimezone t =>
      rw [exceeds_zoned_iff]
      constructor
      · rintro ⟨e, hfailed⟩ hhas
        rw [storeContent, ZonedTimestamp.writeRfc3339_of_hasRfc3339 hhas] at hfailed
        cases hfailed
      · intro hlacks
        obtain ⟨part, hfailed⟩ := ZonedTimestamp.writeRfc3339_of_not_hasRfc3339 hlacks
        exact ⟨_, by rw [storeContent, hfailed]⟩
  | _ =>
      constructor
      · rintro ⟨e, hfailed⟩
        cases hfailed
      · rintro ⟨⟩

/-- The stored value is read back as a value of the type `t` with the content `c`. -/
def ReadsBack (s : Storage) (t : WireType) (c : Content) : Prop :=
  ∃ back : Native t, s.toValue.convert t = .ok back ∧ back.content = c

namespace ReadsBack

variable {text : String} {t : WireType} {c : Content} {htype : c.type = t}

theorem of_varchar (hreads : (Content.varchar text).convert t = .ok ⟨c, htype⟩) :
    ReadsBack (.text text) t c :=
  ⟨_, hreads, rfl⟩

theorem boolean (b : Bool) : ReadsBack (.integer (.ofBool .int64 b)) .boolean (.boolean b) := by
  cases b <;> exact ⟨⟨.boolean _, rfl⟩, rfl, rfl⟩

theorem integer {kind : IntegerKind} {n : Integer kind} {m : Integer .int64}
    (hcarried : m.val = n.val) : ReadsBack (.integer m) (.integer kind) (.integer kind n) := by
  have hfits : Integer.ofInt? kind m.val = some n := Integer.ofInt?_eq_some_iff.mpr hcarried.symm
  refine ⟨⟨.integer kind n, rfl⟩, ?_, rfl⟩
  simp only [Storage.toValue, Value.convert, Content.convert, Content.toInteger, Content.inRange,
    hfits]
  rfl

theorem decimal (d : Decimal) :
    ReadsBack (.text (String.ofList d.write)) .decimal (.decimal d.withoutZeroSign) := by
  have hreads := Content.toDecimal_varchar d.isVisible_write.trim d.read?_write
  exact of_varchar (by rw [Content.convert, hreads]; rfl)

theorem date (d : Date) : ReadsBack (.text (String.ofList d.write)) .date (.date d) := by
  have hreads := Content.toDate_varchar d.isVisible_write.trim d.read?_write
  exact of_varchar (by rw [Content.convert, hreads]; rfl)

theorem time (t : TimeOfDay) :
    ReadsBack (.text (String.ofList t.writeLiteral)) .time (.time t) := by
  have hreads := Content.toTime_varchar t.isVisible_writeLiteral.trim t.read?_writeLiteral
  exact of_varchar (by rw [Content.convert, hreads]; rfl)

theorem timestamp (t : Timestamp) :
    ReadsBack (.text (String.ofList t.writeStored)) .timestamp (.timestamp t) := by
  have hmarked : Timestamp.read? (Timestamp.spaceForMark t.writeStored) = some t := by
    rw [t.spaceForMark_writeStored, t.read?_writeStored]
  have hreads := Content.toTimestamp_varchar t.trim_writeStored hmarked
  exact of_varchar (by rw [Content.convert, hreads]; rfl)

theorem zoned {t : ZonedTimestamp} {text : List Char} (hwritten : t.writeRfc3339 = .ok text) :
    ReadsBack (.text (String.ofList text)) .timestampWithTimezone (.timestampWithTimezone t) := by
  have hvisible := ZonedTimestamp.isVisible_of_writeRfc3339 hwritten
  have hreads := Content.toZoned_varchar hvisible.trim
    (ZonedTimestamp.readRfc3339?_of_writeRfc3339 hwritten)
  exact of_varchar (by rw [Content.convert, hreads]; rfl)

theorem uuid (u : Uuid) : ReadsBack (.text (String.ofList u.write)) .uuid (.uuid u) := by
  have hreads := Content.toUuid_varchar u.isVisible_write.trim u.read?_write
  exact of_varchar (by rw [Content.convert, hreads]; rfl)

end ReadsBack

/-- The content as it comes back from SQLite. -/
def returned : Content → Content
  | .decimal d => .decimal d.withoutZeroSign
  | c => c

theorem same_returned {c : Content} (hsingle : c.type ≠ .float32) (hdouble : c.type ≠ .float64) :
    (returned c).same c := by
  cases c with
  | decimal d => exact d.sameNumber_withoutZeroSign
  | _ => exact Content.same_self hsingle hdouble

theorem returned_of_not_decimal {c : Content} (hother : c.type ≠ .decimal) : returned c = c := by
  cases c with
  | decimal d => exact absurd rfl hother
  | _ => rfl

theorem readsBack_of_storeContent {c : Content} {s : Storage} (hsingle : c.type ≠ .float32)
    (hdouble : c.type ≠ .float64) (hstored : storeContent c = .ok s) :
    ReadsBack s c.type (returned c) := by
  cases c with
  | float32 => exact absurd rfl hsingle
  | float64 => exact absurd rfl hdouble
  | boolean b =>
      obtain rfl := Except.ok.inj hstored
      exact .boolean b
  | integer kind n =>
      rw [storeContent] at hstored
      cases hfits : Integer.ofInt? .int64 n.val with
      | none =>
          rw [hfits] at hstored
          cases hstored
      | some m =>
          rw [hfits] at hstored
          obtain rfl := Except.ok.inj hstored
          exact .integer (Integer.ofInt?_eq_some_iff.mp hfits)
  | decimal d =>
      obtain rfl := Except.ok.inj hstored
      exact .decimal d
  | varchar | blob =>
      obtain rfl := Except.ok.inj hstored
      exact ⟨.of _, rfl, rfl⟩
  | date d =>
      obtain rfl := Except.ok.inj hstored
      exact .date d
  | time t =>
      obtain rfl := Except.ok.inj hstored
      exact .time t
  | timestamp t =>
      obtain rfl := Except.ok.inj hstored
      exact .timestamp t
  | timestampWithTimezone t =>
      rw [storeContent] at hstored
      cases hwritten : t.writeRfc3339 with
      | error part =>
          rw [hwritten] at hstored
          cases hstored
      | ok text =>
          rw [hwritten] at hstored
          obtain rfl := Except.ok.inj hstored
          exact .zoned hwritten
  | uuid u =>
      obtain rfl := Except.ok.inj hstored
      exact .uuid u

/-- A native value that SQLite takes is read back as an equal value, the very same one unless it
is a decimal; and the values it does not take are those that exceed it. -/
theorem convert_of_store {t : WireType} (hsingle : t ≠ .float32) (hdouble : t ≠ .float64)
    (n : Native t) :
    (∀ s, store n.toValue = .ok s → ∃ back, s.toValue.convert t = .ok back ∧
      back.content.same n.content ∧ (t ≠ .decimal → back = n)) ∧
    ((∃ e, store n.toValue = .error e) ↔ Exceeds n.content) := by
  obtain ⟨c, rfl⟩ := n
  refine ⟨fun s hstored => ?_, storeContent_fails_iff c⟩
  obtain ⟨back, hreads, hcontent⟩ := readsBack_of_storeContent hsingle hdouble hstored
  refine ⟨back, hreads, ?_, fun hother => ?_⟩
  · rw [hcontent]
    exact same_returned hsingle hdouble
  · rw [returned_of_not_decimal hother] at hcontent
    obtain ⟨content', htype⟩ := back
    obtain rfl : content' = c := hcontent
    rfl

/-- The last half second but one of a leap day, west of Greenwich. -/
def leapNight : ZonedTimestamp :=
  let date := (Date.ofParts? 2024 2 29).get rfl
  let time := (TimeOfDay.ofParts? 23 59 58 500000000).get rfl
  (ZonedTimestamp.ofParts? ⟨date, time⟩ (-19800)).get rfl

theorem convert_of_store_leapNight :
    ∃ back, (Storage.text "2024-02-29T23:59:58.5-05:30").toValue.convert .timestampWithTimezone =
      .ok back ∧ back.content = .timestampWithTimezone leapNight := by
  have hread := (convert_of_store (by decide) (by decide)
    (.of (.timestampWithTimezone leapNight))).1 (.text "2024-02-29T23:59:58.5-05:30") rfl
  obtain ⟨back, hreads, -, hsame⟩ := hread
  exact ⟨back, hreads, by rw [hsame (by decide)]; rfl⟩

end Sqlite

end TypedSql
