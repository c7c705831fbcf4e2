import TypedSql.Row

namespace TypedSql

/-! Codecs carry a native value to the wire and back.  A null never reaches either map: binding
sends it as the null of the wire type, and reading a field that the store reports as null gives
nothing. -/

inductive NativeType where
  | wire (type : WireType)
  | expression
  | named (name : String)
deriving DecidableEq, Repr

namespace NativeType

def name : NativeType → String
  | wire type => type.nativeName
  | expression => "expression"
  | named name => name

end NativeType

/-- Identity of a codec; codecs of one identity are interchangeable. -/
structure CodecId where
  type : WireType
  native : NativeType
deriving DecidableEq, Repr

namespace CodecId

def ofType (type : WireType) : CodecId := ⟨type, .wire type⟩

end CodecId

structure Codec (α : Type) where
  id : CodecId
  encode : α → Value
  decode : Value → Except Error α

inductive BindCall where
  | bind (index : Nat) (value : Value)
  | bindNull (index : Nat) (type : WireType)
deriving DecidableEq

namespace BindCall

/-- A null of any form is sent as the null of the wire type. -/
def ofValue (index : Nat) (type : WireType) (value : Value) : BindCall :=
  if value.isNull then bindNull index type else bind index value

end BindCall

namespace Codec

variable {α β : Type}

def ofType (type : WireType) : Codec (Native type) where
  id := .ofType type
  encode := Native.toValue
  decode := fun v => (v.convert type).mapError .conversion

def encodeOption (c : Codec α) : Option α → Value
  | some a => c.encode a
  | none => .nullOf c.id.type

def bind (c : Codec α) (index : Nat) (value : Option α) : BindCall :=
  .ofValue index c.id.type (c.encodeOption value)

/-- Reads a field; the row's word that it is null wins over the raw value. -/
def extract (c : Codec α) (row : Row) (index : Nat) : Except Error (Option α) :=
  match row.value index with
  | .error e => .error e
  | .ok raw => if row.wasNull index then .ok none else (c.decode raw).map some

def derive (c : Codec α) (name : String) (toNative : α → β) (toWire : β → α) : Codec β where
  id := ⟨c.id.type, .named name⟩
  encode := fun b => c.encode (toWire b)
  decode := fun v => (c.decode v).map toNative

@[simp] theorem encodeOption_none (c : Codec α) : c.encodeOption none = .nullOf c.id.type := rfl

@[simp] theorem encodeOption_some (c : Codec α) (a : α) :
    c.encodeOption (some a) = c.encode a := rfl

@[simp] theorem type_derive (c : Codec α) (name : String) (toNative : α → β) (toWire : β → α) :
    (c.derive name toNative toWire).id.type = c.id.type := rfl

end Codec

end TypedSql
