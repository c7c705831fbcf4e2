import TypedSql.Proofs.Calendar.Instant
import TypedSql.Proofs.Wire.Integers

namespace TypedSql

/-! What a value of a foreign type keeps when it is read as a native value: values of one type
that are read as equal natives are equal themselves, but for two ways of reading that give
something up. -/

open Text

theorem Decimal.signedMantissa_ofInteger {kind : IntegerKind} (n : Integer kind) :
    (ofInteger n).signedMantissa = n.val := by
  show (if decide (n.val < 0) = true then -(n.val.natAbs : Int) else n.val.natAbs) = n.val
  split
  next hnegative =>
    have hnegative := of_decide_eq_true hnegative
    omega
  next hpositive =>
    have hpositive := of_decide_eq_false (Bool.eq_false_of_not_eq_true hpositive)
    omega

theorem Text.utf8Bytes_of_ofUtf8? {bytes : List UInt8} {s : String}
    (hfound : ofUtf8? bytes = some s) : utf8Bytes s = bytes := by
  unfold ofUtf8? String.fromUTF8? at hfound
  split at hfound
  · cases hfound
    rfl
  · cases hfound

theorem Uuid.bytes_of_ofBytes? {bytes : List UInt8} {u : Uuid} (hmade : ofBytes? bytes = some u) :
    u.bytes = bytes := by
  unfold ofBytes? at hmade
  split at hmade
  · cases hmade
    rfl
  · cases hmade

namespace Content

/-- Two contents of one type, which is neither text nor a type of floating point numbers. -/
inductive Beside : Content → Content → Prop
  | boolean (x y : Bool) : Beside (.boolean x) (.boolean y)
  | integer {kind : IntegerKind} (m n : Integer kind) :
      Beside (.integer kind m) (.integer kind n)
  | decimal (d e : Decimal) : Beside (.decimal d) (.decimal e)
  | blob (bs cs : List UInt8) : Beside (.blob bs) (.blob cs)
  | date (d e : Date) : Beside (.date d) (.date e)
  | time (t u : TimeOfDay) : Beside (.time t) (.time u)
  | timestamp (t u : Timestamp) : Beside (.timestamp t) (.timestamp u)
  | zoned (t u : ZonedTimestamp) : Beside (.timestampWithTimezone t) (.timestampWithTimezone u)
  | uuid (u v : Uuid) : Beside (.uuid u) (.uuid v)

variable {a b : Content} {kind : IntegerKind}

theorem beside_of_type_eq (htypes : a.type = b.type) (htext : a.type ≠ .varchar)
    (hsingle : a.type ≠ .float32) (hdouble : a.type ≠ .float64) : Beside a b := by
  cases a with
  | varchar => exact absurd rfl htext
  | float32 => exact absurd rfl hsingle
  | float64 => exact absurd rfl hdouble
  | _ =>
      cases b <;> cases htypes
      constructor

theorem eq_of_same_integer {m n : Integer kind} (hequal : (integer kind m).same (integer kind n)) :
    m = n := by
  have hequal : integer kind m = integer kind n := eq_of_beq hequal
  cases hequal
  rfl

theorem same_of_denotes {signed : Bool} {n : Int} (hbeside : Beside a b)
    (hfirst : a.Denotes signed n) (hsecond : b.Denotes signed n) : a.same b := by
  cases hbeside with
  | boolean x y =>
      rw [denotes_boolean_iff] at hfirst hsecond
      cases x <;> cases y <;> simp_all [same]
  | integer l m =>
      rw [denotes_integer_iff] at hfirst hsecond
      obtain rfl := Integer.val_inj.mp (hfirst.symm.trans hsecond)
      exact beq_self_eq_true _
  | decimal d e =>
      rw [denotes_decimal_iff] at hfirst hsecond
      have hvalue :
          d.signedMantissa * Int.pow 10 e.scale = e.signedMantissa * Int.pow 10 d.scale := by
        rw [hfirst, hsecond]
        show n * 10 ^ d.scale * 10 ^ e.scale = n * 10 ^ e.scale * 10 ^ d.scale
        ring
      exact beq_iff_eq.mpr hvalue
  | _ => cases hfirst

theorem same_of_toInteger {m n : Integer kind} (hbeside : Beside a b)
    (hfirst : a.toInteger kind = .ok m) (hsecond : b.toInteger kind = .ok n)
    (hequal : (integer kind m).same (integer kind n)) : a.same b := by
  cases eq_of_same_integer hequal
  exact same_of_denotes hbeside (toInteger_eq_ok_iff.mp hfirst) (toInteger_eq_ok_iff.mp hsecond)

theorem same_of_toDecimal {d e : Decimal} (hbeside : Beside a b) (hfirst : a.toDecimal = .ok d)
    (hsecond : b.toDecimal = .ok e) (hequal : (decimal d).same (decimal e)) : a.same b := by
  cases hbeside with
  | decimal =>
      cases hfirst
      cases hsecond
      exact hequal
  | @integer kind m n =>
      cases hfirst
      cases hsecond
      have hunit (n : Integer kind) : Int.pow 10 (Decimal.ofInteger n).scale = 1 := rfl
      have hmantissas := eq_of_beq hequal
      rw [Decimal.signedMantissa_ofInteger, Decimal.signedMantissa_ofInteger, hunit, hunit,
        Int.mul_one, Int.mul_one] at hmantissas
      obtain rfl := Integer.val_inj.mp hmantissas
      exact beq_self_eq_true _
  | _ => cases hfirst

theorem same_of_toText {r s : String} (hbeside : Beside a b) (hfirst : a.toText = .ok r)
    (hsecond : b.toText = .ok s) (hequal : (varchar r).same (varchar s)) : a.same b := by
  cases hbeside with
  | blob =>
      have hequal : varchar r = varchar s := eq_of_beq hequal
      have hbytes {bs : List UInt8} {s : String} (hread : (blob bs).toText = .ok s) :
          utf8Bytes s = bs := by
        rw [toText] at hread
        split at hread
        next hfound =>
          cases hread
          exact utf8Bytes_of_ofUtf8? hfound
        next => cases hread
      rw [← hbytes hfirst, ← hbytes hsecond, varchar.inj hequal]
      exact beq_self_eq_true _
  | _ => cases hfirst

theorem same_of_toBytes {bs cs : List UInt8} (hbeside : Beside a b) (hfirst : a.toBytes = .ok bs)
    (hsecond : b.toBytes = .ok cs) (hequal : (blob bs).same (blob cs)) : a.same b := by
  cases hbeside with
  | blob =>
      cases hfirst
      cases hsecond
      exact hequal
  | _ => cases hfirst

theorem same_of_toTime {t u : TimeOfDay} (hbeside : Beside a b) (hfirst : a.toTime = .ok t)
    (hsecond : b.toTime = .ok u) (hequal : (time t).same (time u)) : a.same b := by
  cases hbeside with
  | time =>
      cases hfirst
      cases hsecond
      exact hequal
  | _ => cases hfirst

theorem same_of_toUuid {u v : Uuid} (hbeside : Beside a b) (hfirst : a.toUuid = .ok u)
    (hsecond : b.toUuid = .ok v) (hequal : (uuid u).same (uuid v)) : a.same b := by
  cases hbeside with
  | uuid =>
      cases hfirst
      cases hsecond
      exact hequal
  | blob =>
      have hequal : uuid u = uuid v := eq_of_beq hequal
      have hbytes {bs : List UInt8} {u : Uuid} (hread : (blob bs).toUuid = .ok u) :
          u.bytes = bs := by
        rw [toUuid] at hread
        cases hmade : Uuid.ofBytes? bs with
        | none =>
            rw [hmade] at hread
            cases hread
        | some v =>
            rw [hmade] at hread
            cases hread
            exact Uuid.bytes_of_ofBytes? hmade
      rw [← hbytes hfirst, ← hbytes hsecond, uuid.inj hequal]
      exact beq_self_eq_true _
  | _ => cases hfirst

/-- A zone is left by going to universal time, which keeps the instant. -/
theorem same_of_toTimestamp {t u : Timestamp} (hbeside : Beside a b)
    (hfirst : a.toTimestamp = .ok t) (hsecond : b.toTimestamp = .ok u)
    (hequal : (timestamp t).same (timestamp u)) : a.same b := by
  cases hbeside with
  | timestamp =>
      cases hfirst
      cases hsecond
      exact hequal
  | zoned =>
      have hequal : timestamp t = timestamp u := eq_of_beq hequal
      have hinstant {z : ZonedTimestamp} {t : Timestamp}
          (hread : (timestampWithTimezone z).toTimestamp = .ok t) : z.instant = t.instant := by
        rw [toTimestamp] at hread
        split at hread
        next hfound =>
          cases hread
          exact (ZonedTimestamp.instant_of_toUtc? hfound).symm
        next => cases hread
      apply beq_iff_eq.mpr
      rw [hinstant hfirst, hinstant hsecond, timestamp.inj hequal]
  | _ => cases hfirst

theorem same_of_toZoned {t u : ZonedTimestamp} (hbeside : Beside a b) (hfirst : a.toZoned = .ok t)
    (hsecond : b.toZoned = .ok u)
    (hequal : (timestampWithTimezone t).same (timestampWithTimezone u)) : a.same b := by
  cases hbeside with
  | zoned =>
      cases hfirst
      cases hsecond
      exact hequal
  | timestamp =>
      cases hfirst
      cases hsecond
      have hinstants := eq_of_beq hequal
      rw [ZonedTimestamp.instant_ofUtc, ZonedTimestamp.instant_ofUtc] at hinstants
      cases Timestamp.instant_injective hinstants
      exact beq_self_eq_true _
  | _ => cases hfirst

end Content

/-- Different values of one type that may be read as one native value: as a truth value any
numbers but zero, and as a date the timestamps of one day. -/
inductive Value.Merged : WireType → Value → Value → Prop
  | truth {kind : IntegerKind} {m n : Integer kind} (hfirst : m.val ≠ 0) (hsecond : n.val ≠ 0) :
      Merged .boolean (.some (.integer kind m)) (.some (.integer kind n))
  | day {t u : Timestamp} (hdate : t.date = u.date) :
      Merged .date (.some (.timestamp t)) (.some (.timestamp u))

namespace Content

variable {a b : Content}

theorem same_or_merged_of_toBoolean {x y : Bool} (hbeside : Beside a b)
    (hfirst : a.toBoolean = .ok x) (hsecond : b.toBoolean = .ok y)
    (hequal : (boolean x).same (boolean y)) :
    a.same b ∨ Value.Merged .boolean (.some a) (.some b) := by
  cases hbeside with
  | boolean =>
      cases hfirst
      cases hsecond
      exact .inl hequal
  | integer m n =>
      cases hfirst
      cases hsecond
      have hequal : boolean (m.val ≠ 0) = boolean (n.val ≠ 0) := eq_of_beq hequal
      have hzero : m.val ≠ 0 ↔ n.val ≠ 0 := decide_eq_decide.mp (boolean.inj hequal)
      by_cases hnull : m.val = 0
      · have hboth : m.val = n.val := by omega
        cases Integer.val_inj.mp hboth
        exact .inl (beq_self_eq_true _)
      · exact .inr (.truth hnull (hzero.mp hnull))
  | _ => cases hfirst

theorem same_or_merged_of_toDate {d e : Date} (hbeside : Beside a b) (hfirst : a.toDate = .ok d)
    (hsecond : b.toDate = .ok e) (hequal : (date d).same (date e)) :
    a.same b ∨ Value.Merged .date (.some a) (.some b) := by
  cases hbeside with
  | date =>
      cases hfirst
      cases hsecond
      exact .inl hequal
  | timestamp t u =>
      cases hfirst
      cases hsecond
      have hequal : date t.date = date u.date := eq_of_beq hequal
      exact .inr (.day (date.inj hequal))
  | _ => cases hfirst

/-- What is read as a native value is read by the reader of its type, which the value only
carries. -/
theorem reflected {α : Type} {t : WireType} {x y : Native t} {p : Prop} {f : α → Native t}
    {r s : Except ConversionFault α} (hfirst : r.map f = .ok x) (hsecond : s.map f = .ok y)
    (hequal : x.content.same y.content)
    (hreflects : ∀ {m n : α}, r = .ok m → s = .ok n → (f m).content.same (f n).content → p) :
    p := by
  cases r with
  | error e => cases hfirst
  | ok m =>
      cases s with
      | error e => cases hsecond
      | ok n =>
          cases hfirst
          cases hsecond
          exact hreflects rfl rfl hequal

theorem same_or_merged_of_convert {t : WireType} {x y : Native t} (hsingle : t ≠ .float32)
    (hdouble : t ≠ .float64) (hbeside : Beside a b) (hfirst : a.convert t = .ok x)
    (hsecond : b.convert t = .ok y) (hequal : x.content.same y.content) :
    a.same b ∨ Value.Merged t (.some a) (.some b) := by
  cases t with
  | float32 => exact absurd rfl hsingle
  | float64 => exact absurd rfl hdouble
  | boolean => exact reflected hfirst hsecond hequal (same_or_merged_of_toBoolean hbeside)
  | date => exact reflected hfirst hsecond hequal (same_or_merged_of_toDate hbeside)
  | integer => exact .inl (reflected hfirst hsecond hequal (same_of_toInteger hbeside))
  | decimal => exact .inl (reflected hfirst hsecond hequal (same_of_toDecimal hbeside))
  | varchar => exact .inl (reflected hfirst hsecond hequal (same_of_toText hbeside))
  | blob => exact .inl (reflected hfirst hsecond hequal (same_of_toBytes hbeside))
  | time => exact .inl (reflected hfirst hsecond hequal (same_of_toTime hbeside))
  | timestamp => exact .inl (reflected hfirst hsecond hequal (same_of_toTimestamp hbeside))
  | timestampWithTimezone => exact .inl (reflected hfirst hsecond hequal (same_of_toZoned hbeside))
  | uuid => exact .inl (reflected hfirst hsecond hequal (same_of_toUuid hbeside))

end Content

namespace Value

theorem Merged.convert_same {t : WireType} {a b : Value} (hmerged : Merged t a b) :
    ∃ x y, a.convert t = .ok x ∧ b.convert t = .ok y ∧ x.toValue.same y.toValue := by
  cases hmerged with
  | truth hfirst hsecond =>
      refine ⟨⟨.boolean true, rfl⟩, ⟨.boolean true, rfl⟩, ?_, ?_, rfl⟩
      · rw [convert, Content.convert, Content.toBoolean, decide_eq_true hfirst]
        rfl
      · rw [convert, Content.convert, Content.toBoolean, decide_eq_true hsecond]
        rfl
  | @day t u hdate =>
      refine ⟨⟨.date t.date, rfl⟩, ⟨.date u.date, rfl⟩, rfl, rfl, ?_⟩
      rw [hdate]
      exact beq_self_eq_true (Content.date u.date)

/-- Two values of one type that are read as equal natives are equal, unless reading merges
them. -/
theorem same_or_merged_of_native_same {t : WireType} {a b : Value} {x y : Native t}
    (hsingle : t ≠ .float32) (hdouble : t ≠ .float64) (htypes : a.sameType b)
    (hnoText : a.type? ≠ Option.some .varchar) (hnoSingle : a.type? ≠ Option.some .float32)
    (hnoDouble : a.type? ≠ Option.some .float64) (hfirst : a.convert t = .ok x)
    (hsecond : b.convert t = .ok y) (hequal : x.toValue.same y.toValue) :
    a.same b ∨ Merged t a b := by
  cases a with
  | null | nullOf => cases hfirst
  | some c =>
      cases b with
      | null | nullOf => cases hsecond
      | some d =>
          have htypes : c.type = d.type := Option.some.inj (eq_of_beq htypes)
          have hbeside : Content.Beside c d :=
            Content.beside_of_type_eq htypes (fun htext => hnoText (congrArg Option.some htext))
              (fun hbinary => hnoSingle (congrArg Option.some hbinary))
              (fun hbinary => hnoDouble (congrArg Option.some hbinary))
          exact Content.same_or_merged_of_convert hsingle hdouble hbeside hfirst hsecond hequal

/-- One moment of the night after a leap day, on the clocks of two zones. -/
theorem leapNight_same_of_native_same :
    let east := (⟨(Date.ofParts? 2024 3 1).get rfl, (TimeOfDay.ofParts? 1 30 0 0).get rfl⟩ :
      Timestamp)
    let west := (⟨(Date.ofParts? 2024 2 29).get rfl, (TimeOfDay.ofParts? 17 30 0 0).get rfl⟩ :
      Timestamp)
    let a := Value.some (.timestampWithTimezone ⟨east, 10800, by decide⟩)
    let b := Value.some (.timestampWithTimezone ⟨west, -18000, by decide⟩)
    (∃ x y : Native .timestamp,
      a.convert .timestamp = .ok x ∧ b.convert .timestamp = .ok y ∧ x.toValue.same y.toValue) ∧
    a ≠ b ∧ a.same b := by
  intro east west a b
  let utc : Timestamp :=
    ⟨(Date.ofParts? 2024 2 29).get rfl, (TimeOfDay.ofParts? 22 30 0 0).get rfl⟩
  have hfirst : a.convert .timestamp = .ok ⟨.timestamp utc, rfl⟩ := by decide +kernel
  have hsecond : b.convert .timestamp = .ok ⟨.timestamp utc, rfl⟩ := by decide +kernel
  have hequal : (Value.some (.timestamp utc)).same (.some (.timestamp utc)) :=
    beq_self_eq_true (Content.timestamp utc)
  refine ⟨⟨_, _, hfirst, hsecond, hequal⟩, by decide, ?_⟩
  have hsame := same_or_merged_of_native_same (by decide) (by decide) rfl (by decide) (by decide)
    (by decide) hfirst hsecond hequal
  rcases hsame with hsame | hmerged
  · exact hsame
  · cases hmerged

/-- Two hours of a leap day are read as one date, and one and two as one truth value. -/
theorem leapDay_and_truth_merged :
    let night := Value.some (.timestamp ⟨(Date.ofParts? 2024 2 29).get rfl, .midnight⟩)
    let afternoon := Value.some
      (.timestamp ⟨(Date.ofParts? 2024 2 29).get rfl,
        (TimeOfDay.ofParts? 13 45 7 250000000).get rfl⟩)
    let one := Value.some (.integer .int32 ⟨1, by decide, by decide⟩)
    let two := Value.some (.integer .int32 ⟨2, by decide, by decide⟩)
    (night.sameType afternoon ∧ ¬night.same afternoon ∧
      ∃ x y : Native .date,
        night.convert .date = .ok x ∧ afternoon.convert .date = .ok y ∧ x.toValue.same y.toValue) ∧
    (one.sameType two ∧ ¬one.same two ∧
      ∃ x y : Native .boolean,
        one.convert .boolean = .ok x ∧ two.convert .boolean = .ok y ∧
          x.toValue.same y.toValue) := by
  intro night afternoon one two
  have hday : Merged .date night afternoon := .day rfl
  have htruth : Merged .boolean one two := .truth (by decide) (by decide)
  exact ⟨⟨rfl, by decide, hday.convert_same⟩, rfl, by decide, htruth.convert_same⟩

end Value

end TypedSql
