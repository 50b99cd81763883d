import EntityQuery.Value.Coerce

/-!
# Native data

How the data of entities becomes values, and how values become data again. A field type names the
data it stores; reading converts a value to that type first, and null is data only where data may be
missing.
-/
namespace EntityQuery

/-- Data that can be bound as a value. -/
class ToValue (α : Type) where
  toValue : α → Value

export ToValue (toValue)

/-- Data with a fixed set of names, bound by name. -/
class Enumeration (α : Type) where
  name : α → String

instance : ToValue Value := ⟨id⟩
instance : ToValue Bool := ⟨.bool⟩
instance : ToValue Int8 := ⟨fun n => .int32 n.toInt32⟩
instance : ToValue Int16 := ⟨fun n => .int32 n.toInt32⟩
instance : ToValue Int32 := ⟨.int32⟩
instance : ToValue UInt8 := ⟨fun n => .int32 (Int32.ofNat n.toNat)⟩
instance : ToValue UInt16 := ⟨fun n => .int32 (Int32.ofNat n.toNat)⟩
instance : ToValue UInt32 := ⟨fun n => .int64 (Int64.ofNat n.toNat)⟩
instance : ToValue Int64 := ⟨.int64⟩
instance : ToValue UInt64 := ⟨.uint64⟩
instance : ToValue Binary64 := ⟨.float⟩
instance : ToValue String := ⟨.text⟩
instance : ToValue (List UInt8) := ⟨.bytes⟩

/-- Missing data is null. -/
instance {α : Type} [ToValue α] : ToValue (Option α) := ⟨fun x => (x.map toValue).getD .null⟩

/-- The value of a name. -/
def Enumeration.toValue {α : Type} [Enumeration α] (x : α) : Value := .text (Enumeration.name x)

namespace FieldType

/-- The data that a field of a type stores. -/
abbrev Native : FieldType → Type
  | .bool => Bool
  | .int32 => Int32
  | .int64 => Int64
  | .uint64 => UInt64
  | .float => Binary64
  | .text => String
  | .bytes => List UInt8

/-- The value of data of a type. -/
def ofNative : (type : FieldType) → type.Native → Value
  | .bool, b => .bool b
  | .int32, n => .int32 n
  | .int64, n => .int64 n
  | .uint64, n => .uint64 n
  | .float, x => .float x
  | .text, s => .text s
  | .bytes, bs => .bytes bs

/-- The data of a value that belongs to a type. -/
def toNative? : (type : FieldType) → Value → Option type.Native
  | .bool, .bool b => some b
  | .int32, .int32 n => some n
  | .int64, .int64 n => some n
  | .uint64, .uint64 n => some n
  | .float, .float x => some x
  | .text, .text s => some s
  | .bytes, .bytes bs => some bs
  | _, _ => none

/-- Reads data of a type from a value. -/
def read (type : FieldType) (v : Value) : Except MappingFault type.Native :=
  match v.coerce type with
  | .error fault => .error (.conversion fault)
  | .ok w =>
      match type.toNative? w with
      | some x => .ok x
      | none => .error (.mismatch type w)

/-- Reads data that may be missing. -/
def readOptional (type : FieldType) (v : Value) : Except MappingFault (Option type.Native) :=
  if v.isNull then .ok none else (type.read v).map some

@[simp] theorem toNative?_ofNative (type : FieldType) (x : type.Native) :
    type.toNative? (type.ofNative x) = some x := by
  cases type <;> rfl

end FieldType

end EntityQuery
