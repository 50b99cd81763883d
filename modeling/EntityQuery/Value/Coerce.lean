import EntityQuery.Binary64.Decimal
import EntityQuery.Binary64.Round
import EntityQuery.Error.Basic
import EntityQuery.Text.Blank
import EntityQuery.Value.Text

/-!
# Coercion

The conversion of a value to the type that a field declares. Integers convert to every width that
holds them, numbers and text convert into each other, truth values are `0` and `1`, and null stays
null. A conversion that would lose something fails.
-/
namespace EntityQuery

open Text (trim readInt?)

namespace FieldType

/-- The value of an integer type that denotes an integer in the range of the type. -/
def ofInt? (n : Int) : FieldType → Option Value
  | .int32 => if -2147483648 ≤ n ∧ n ≤ 2147483647 then some (.int32 (Int32.ofInt n)) else none
  | .int64 =>
      if -9223372036854775808 ≤ n ∧ n ≤ 9223372036854775807 then some (.int64 (Int64.ofInt n))
      else none
  | .uint64 =>
      if 0 ≤ n ∧ n ≤ 18446744073709551615 then some (.uint64 (UInt64.ofNat n.toNat)) else none
  | _ => none

end FieldType

namespace Value

/-- The truth value that a word or a digit stands for. -/
def readBool? (cs : List Char) : Option Bool :=
  match String.ofList cs with
  | "1" | "true" | "TRUE" | "True" => some true
  | "0" | "false" | "FALSE" | "False" => some false
  | _ => none

/-- The truth value that an integer stands for. -/
def boolOfInt? (n : Int) : Option Bool :=
  if n = 0 then some false else if n = 1 then some true else none

def toBool? : Value → Option Bool
  | .text s => readBool? (trim s.toList)
  | v => v.toInt?.bind boolOfInt?

def toFloat? : Value → Option Binary64
  | .float x => some x
  | .text s => Binary64.read? (trim s.toList)
  | .int32 n => some (.ofInt n.toInt)
  | .int64 n => some (.ofInt n.toInt)
  | .uint64 n => some (.ofInt n.toNat)
  | .bool b => some (.ofInt (if b then 1 else 0))
  | _ => none

/-- The text of the bytes, if they encode one. -/
def textOfBytes? (bs : List UInt8) : Option String := String.fromUTF8? ⟨bs.toArray⟩

/-- The bytes that encode a text. -/
def bytesOfText (s : String) : List UInt8 := s.toUTF8.data.toList

def toText? : Value → Option String
  | .bytes bs => textOfBytes? bs
  | v => v.listItem?

def toBytes? : Value → Option (List UInt8)
  | .bytes bs => some bs
  | .text s => some (bytesOfText s)
  | _ => none

/-- The integer that a value denotes or, as a text, writes. -/
def readInteger? : Value → Option Int
  | .text s => readInt? (trim s.toList)
  | v => v.toInt?

/-- The conversion of a value that is not null. -/
def convert? (v : Value) : FieldType → Option Value
  | .bool => v.toBool?.map .bool
  | .float => v.toFloat?.map .float
  | .text => v.toText?.map .text
  | .bytes => v.toBytes?.map .bytes
  | type => v.readInteger?.bind type.ofInt?

/-- The conversion of a value to a declared type. -/
def coerce? (v : Value) (type : FieldType) : Option Value :=
  if v.isNull then some .null else v.convert? type

/-- The conversion of a value to a declared type, with the fault it can have. -/
def coerce (v : Value) (type : FieldType) : Except SchemaFault Value :=
  match v.coerce? type with
  | some w => .ok w
  | none => .error (.unrepresentable v type)

@[simp] theorem coerce?_null (type : FieldType) : coerce? .null type = some .null := rfl

theorem coerce_eq_ok_iff {v w : Value} {type : FieldType} :
    v.coerce type = .ok w ↔ v.coerce? type = some w := by
  unfold coerce
  split <;> simp_all

end Value

end EntityQuery
