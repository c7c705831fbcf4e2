import Mathlib.Logic.Function.Basic
import TypedSql.Codec.Plain

namespace TypedSql

/-! Codecs that are derived from others, step by step.  What a default codec keeps of its values is
kept along any chain of steps that lose nothing, and a field of a row is decoded only if the store
does not report it as null. -/

variable {α β : Type}

namespace Codec

/-- Decoding takes back what encoding did. -/
def RoundTrips (c : Codec α) : Prop :=
  ∀ a, c.decode (c.encode a) = .ok a

theorem convert_content {t : WireType} (n : Native t) : n.content.convert t = .ok n := by
  obtain ⟨c, rfl⟩ := n
  cases c with
  | integer kind i =>
      have hfits : Integer.ofInt? kind i.val = some i := Integer.ofInt?_eq_some_iff.mpr rfl
      simp only [Content.type, Content.convert, Content.toInteger, Content.inRange, hfits]
      rfl
  | _ => rfl

theorem roundTrips_ofType (t : WireType) : (ofType t).RoundTrips := by
  intro n
  have hback : n.toValue.convert t = .ok n := convert_content n
  exact congrArg (Except.mapError Error.conversion) hback

theorem RoundTrips.derive {c : Codec α} (h : c.RoundTrips) (name : String) {toNative : α → β}
    {toWire : β → α} (hinverse : ∀ b, toNative (toWire b) = b) :
    (c.derive name toNative toWire).RoundTrips := by
  intro b
  change (c.decode (c.encode (toWire b))).map toNative = .ok b
  rw [h]
  exact congrArg Except.ok (hinverse b)

/-- A value that is there is never sent as a null. -/
def SendsContent (c : Codec α) : Prop :=
  ∀ a, (c.encode a).isNull = false

end Codec

namespace Row

/-- The field has the value, and the store says that it is null just when the value is. -/
structure Holds (row : Row) (i : Nat) (v : Value) : Prop where
  value : row.value i = .ok v
  wasNull : row.wasNull i = v.isNull

/-- The store says that the field is null, whatever its value is. -/
structure IsNullAt (row : Row) (i : Nat) : Prop where
  value : ∃ v, row.value i = .ok v
  wasNull : row.wasNull i = true

variable {row : Row} {i : Nat}

theorem IsNullAt.extract (h : row.IsNullAt i) (c : Codec α) : c.extract row i = .ok none := by
  obtain ⟨v, hv⟩ := h.value
  rw [Codec.extract, hv]
  exact if_pos h.wasNull

theorem Holds.extract {c : Codec α} (hinverse : c.RoundTrips) {a : α}
    (h : row.Holds i (c.encode a)) (hpresent : row.wasNull i = false) :
    c.extract row i = .ok (some a) := by
  rw [Codec.extract, h.value]
  change (if row.wasNull i = true then _ else _) = _
  rw [if_neg (by simp [hpresent]), hinverse a]
  rfl

end Row

namespace Codec

section

variable {c : Codec α} {row : Row} {i : Nat}

theorem extract_of_error {e : Error} (h : row.value i = .error e) : c.extract row i = .error e := by
  rw [extract, h]

theorem extract_of_ok {raw : Value} (h : row.value i = .ok raw) (hpresent : row.wasNull i = false) :
    c.extract row i = (c.decode raw).map some := by
  rw [extract, h]
  exact if_neg (by simp [hpresent])

theorem extract_of_holds (hinverse : c.RoundTrips) (hsends : c.SendsContent) {x : Option α}
    (h : row.Holds i (c.encodeOption x)) : c.extract row i = .ok x := by
  cases x with
  | none => exact Row.IsNullAt.extract ⟨⟨_, h.value⟩, h.wasNull⟩ c
  | some a => exact Row.Holds.extract hinverse h (h.wasNull.trans (hsends a))

end

/-- Codecs that begin with the default codec of a type and are derived further, each time by maps
of which the one undoes the other. -/
inductive Derives : {α : Type} → Codec α → WireType → Prop
  | ofType (type : WireType) : Derives (ofType type) type
  | boolean : Derives boolean .boolean
  | integer (kind : IntegerKind) : Derives (integer kind) (.integer kind)
  | double : Derives double .float64
  | text : Derives text .varchar
  | timestamp : Derives timestamp .timestamp
  | derive {α β : Type} {type : WireType} {c : Codec α} (hbase : Derives c type) (name : String)
      {toNative : α → β} {toWire : β → α} (hback : Function.LeftInverse toNative toWire)
      (hforth : Function.RightInverse toNative toWire) :
      Derives (c.derive name toNative toWire) type

namespace Derives

variable {c : Codec α} {type : WireType}

theorem type_eq (h : c.Derives type) : c.id.type = type := by
  induction h with
  | derive hbase name hback hforth ih => exact ih
  | _ => rfl

theorem roundTrips (h : c.Derives type) : c.RoundTrips := by
  induction h with
  | ofType type => exact roundTrips_ofType type
  | integer kind =>
      intro n
      have hback := roundTrips_ofType (.integer kind) ⟨.integer kind n, rfl⟩
      have hfits : Integer.ofInt? kind n.val = some n := Integer.ofInt?_eq_some_iff.mpr rfl
      change ((Content.integer kind n).toInteger kind).mapError _ = _
      rw [Content.toInteger, Content.inRange, hfits]
      rfl
  | derive hbase name hback hforth ih => exact ih.derive name hback
  | _ =>
      intro a
      rfl

theorem sendsContent (h : c.Derives type) : c.SendsContent := by
  induction h with
  | derive hbase name hback hforth ih =>
      intro b
      exact ih _
  | _ =>
      intro a
      rfl

/-- A derived codec has the wire type it began with, gives every value back that it sends, and sends
what is missing as the null of the type.  From a row it takes nothing where the row has no value to
give, an absence where the store reports a null, whatever the value behind the report, and what the
value decodes to everywhere else: so a field that holds what has been sent is read as it was. -/
theorem extract_returns (h : c.Derives type) :
    c.id.type = type ∧
    (∀ a, c.decode (c.encodeOption (some a)) = .ok a) ∧
    c.encodeOption none = .nullOf type ∧
    ∀ (row : Row) (i : Nat),
      (∀ e, row.value i = .error e → c.extract row i = .error e) ∧
      (∀ raw, row.value i = .ok raw → row.wasNull i = true → c.extract row i = .ok none) ∧
      (∀ raw, row.value i = .ok raw → row.wasNull i = false →
        c.extract row i = (c.decode raw).map some) ∧
      ∀ x, row.Holds i (c.encodeOption x) → c.extract row i = .ok x := by
  refine ⟨h.type_eq, h.roundTrips, ?_, fun row i => ⟨?_, ?_, ?_, ?_⟩⟩
  · rw [encodeOption_none, h.type_eq]
  · intro e hfailed
    exact extract_of_error hfailed
  · intro raw hgiven hnull
    exact Row.IsNullAt.extract ⟨⟨raw, hgiven⟩, hnull⟩ c
  · intro raw hgiven hpresent
    exact extract_of_ok hgiven hpresent
  · intro x hholds
    exact extract_of_holds h.roundTrips h.sendsContent hholds

end Derives

/-- A contact of a relay, which is kept as a Boolean. -/
private inductive Contact where
  | closed
  | released

namespace Contact

private def ofBool (b : Bool) : Contact := if b then closed else released

private def toBool : Contact → Bool
  | closed => true
  | released => false

private def other : Contact → Contact
  | closed => released
  | released => closed

/-- The contact that is kept is the opposite one. -/
private def opposite : Codec Contact :=
  (Codec.boolean.derive "Contact" ofBool toBool).derive "Opposite" other other

private theorem derives_opposite : opposite.Derives .boolean :=
  .derive (.derive .boolean "Contact" (fun c => by cases c <;> rfl) (fun b => by cases b <;> rfl))
    "Opposite" (fun c => by cases c <;> rfl) (fun c => by cases c <;> rfl)

end Contact

open Contact in
theorem opposite_extract_returns :
    opposite.Derives .boolean ∧
    opposite.extract (.single (.some (.varchar "n/a")) true) 0 = .ok none ∧
    opposite.extract (.single (.some (.varchar " T ")) false) 0 = .ok (some .released) ∧
    opposite.extract (.single (opposite.encodeOption (some .closed)) false) 0 =
      .ok (some .closed) := by
  obtain ⟨-, -, -, hextract⟩ := Derives.extract_returns derives_opposite
  obtain ⟨-, hnull, -, -⟩ := hextract (.single (.some (.varchar "n/a")) true) 0
  obtain ⟨-, -, hread, -⟩ := hextract (.single (.some (.varchar " T ")) false) 0
  obtain ⟨-, -, -, hholds⟩ :=
    hextract (.single (opposite.encodeOption (some .closed)) false) 0
  refine ⟨derives_opposite, hnull _ rfl rfl, ?_, hholds (some .closed) ⟨rfl, rfl⟩⟩
  exact (hread _ rfl rfl).trans rfl

end Codec

end TypedSql
