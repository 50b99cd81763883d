import EntityQuery.Schema.Row
import Mathlib.Algebra.Group.Int.Defs
import Mathlib.Data.List.Forall2

/-!
# Exchange formats for values and rows

Values and rows are exchanged as JSON. The library that writes and reads the parts of a document is
not part of this one, and neither is the code that is derived from the declarations of values and
rows: both are parameters here, and what is relied on of each is a law of its own. The library reads
the parts that it has written. The derived code tags a value with the name of its variant, from
outside, and gives a row as an object with the list of its columns.
-/
namespace EntityQuery

/-- A library for JSON: how the parts of a document are written, and how a text is read as one of
them, if it is one. The parts of arrays and objects are given by their texts. -/
structure JsonFormat where
  bool : Bool → String
  integer : Int → String
  string : String → String
  array : List String → String
  /-- An object with one member, of a name and a value. -/
  object : String → String → String
  bool? : String → Option Bool
  integer? : String → Option Int
  string? : String → Option String
  array? : String → Option (List String)
  object? : String → Option (String × String)

namespace JsonFormat

variable (F : JsonFormat)

/-- The texts that are written. Integers have 64 bits, with a sign or without. -/
inductive Written : String → Prop
  | bool (b : Bool) : Written (F.bool b)
  | integer {n : Int} (hlower : -2 ^ 63 ≤ n) (hupper : n < 2 ^ 64) : Written (F.integer n)
  | string (s : String) : Written (F.string s)
  | array {items : List String} (hitems : ∀ item ∈ items, Written item) : Written (F.array items)
  | object (name : String) {value : String} (hvalue : Written value) : Written (F.object name value)

/-- What is written is read as what it was written for. -/
structure Lawful : Prop where
  bool : ∀ b, F.bool? (F.bool b) = some b
  integer : ∀ n : Int, -2 ^ 63 ≤ n → n < 2 ^ 64 → F.integer? (F.integer n) = some n
  string : ∀ s, F.string? (F.string s) = some s
  array : ∀ items, (∀ item ∈ items, F.Written item) → F.array? (F.array items) = some items
  object : ∀ name value, F.Written value → F.object? (F.object name value) = some (name, value)

/-- The name of the variant of a value, and its payload as it is written. Null has no payload;
floats are left open. -/
def payload? : Value → Option (String × String)
  | .null => none
  | .bool b => some ("Bool", F.bool b)
  | .int32 n => some ("Int32", F.integer n.toInt)
  | .int64 n => some ("Int64", F.integer n.toInt)
  | .uint64 n => some ("UInt64", F.integer n.toNat)
  | .float _ => none
  | .text s => some ("Text", F.string s)
  | .bytes bs => some ("Bytes", F.array (bs.map fun b => F.integer b.toNat))

/-- The value that a payload holds, under the name of its variant. -/
inductive Holds : String → String → Value → Prop
  | bool {payload : String} {b : Bool} (h : F.bool? payload = some b) :
      Holds "Bool" payload (.bool b)
  | int32 {payload : String} {n : Int32} (h : F.integer? payload = some n.toInt) :
      Holds "Int32" payload (.int32 n)
  | int64 {payload : String} {n : Int64} (h : F.integer? payload = some n.toInt) :
      Holds "Int64" payload (.int64 n)
  | uint64 {payload : String} {n : UInt64} (h : F.integer? payload = some n.toNat) :
      Holds "UInt64" payload (.uint64 n)
  | text {payload : String} {s : String} (h : F.string? payload = some s) :
      Holds "Text" payload (.text s)
  | bytes {payload : String} {items : List String} {bs : List UInt8}
      (h : F.array? payload = some items)
      (hbytes : List.Forall₂ (fun item b => F.integer? item = some (UInt8.toNat b)) items bs) :
      Holds "Bytes" payload (.bytes bs)

end JsonFormat

/-- The code that is derived for values and rows. -/
structure DerivedCodec where
  writeValue : Value → String
  readValue? : String → Option Value
  writeRow : Row → String
  readRow? : String → Option Row

namespace DerivedCodec

variable (C : DerivedCodec) (F : JsonFormat)

/-- A column as it is written: a pair of its name and its value. -/
def writeColumn (column : String × Value) : String :=
  F.array [F.string column.1, C.writeValue column.2]

/-- The column that a pair holds. -/
def HoldsColumn (item : String) (column : String × Value) : Prop :=
  ∃ name value, F.array? item = some [name, value] ∧ F.string? name = some column.1 ∧
    C.readValue? value = some column.2

/-- The shape of what is derived. A variant without a payload is its name; one with a payload is an
object with the payload under the name; a record is an object with its fields, here the columns. -/
structure Follows : Prop where
  write_null : C.writeValue .null = F.string "Null"
  write_tagged : ∀ v name payload, F.payload? v = some (name, payload) →
    C.writeValue v = F.object name payload
  write_row : ∀ row : Row, C.writeRow row =
    F.object "columns" (F.array (row.columns.map (C.writeColumn F)))
  read_null : ∀ text, F.Written text → F.string? text = some "Null" →
    C.readValue? text = some .null
  read_tagged : ∀ text name payload v, F.Written text → F.object? text = some (name, payload) →
    F.Holds name payload v → C.readValue? text = some v
  read_row : ∀ text list items columns, F.Written text →
    F.object? text = some ("columns", list) → F.array? list = some items →
    List.Forall₂ (C.HoldsColumn F) items columns → C.readRow? text = some ⟨columns⟩

end DerivedCodec

end EntityQuery
