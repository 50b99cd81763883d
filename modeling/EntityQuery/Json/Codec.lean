import EntityQuery.Json.Number
import EntityQuery.Json.Read
import EntityQuery.Schema.Row

/-!
# Values and rows in JSON

Values and rows as JSON data, for running. A value is written under the name of its kind, and null
as its name alone. A row is an object with its columns in order, each a pair of a name and a value.
A field type is its name.
-/
namespace EntityQuery

namespace Json

/-- The text of a string. -/
def asText? : Json → Option String
  | .string elements => (text? elements).map String.ofList
  | _ => none

/-- The integer that a number spells. -/
def asInt? : Json → Option Int
  | .number spelling => integer? spelling
  | _ => none

/-- The float that a number spells. -/
def asFloat? : Json → Option Binary64
  | .number spelling => float? spelling
  | _ => none

def asBool? : Json → Option Bool
  | .bool b => some b
  | _ => none

/-- A byte: an integer below 256. -/
def asByte? (j : Json) : Option UInt8 :=
  j.asInt?.bind fun n => if 0 ≤ n ∧ n < 256 then some (UInt8.ofNat n.toNat) else none

/-- All items of a list read. -/
def readEach? {α : Type} (item? : Json → Option α) : List Json → Option (List α)
  | [] => some []
  | j :: js => do
      let x ← item? j
      let xs ← readEach? item? js
      return x :: xs

/-- The bytes of an array of integers. -/
def asBytes? : Json → Option (List UInt8)
  | .array items => readEach? asByte? items
  | _ => none

/-- A name with its payload: a string is a name alone, an object with one member has both. -/
def tagged? : Json → Option (String × Option Json)
  | .string elements => (text? elements).map fun name => (String.ofList name, none)
  | .object [(name, payload)] =>
      (text? name).map fun name => (String.ofList name, some payload)
  | _ => none

/-- A number for a finite float, null for any other. -/
def ofFloat (x : Binary64) : Json :=
  if x.isFinite then .number (Binary64.Style.json.write x).toList else .null

/-- Data under a name. -/
def tag (name : String) (payload : Json) : Json := .object [(elementsOf name, payload)]

end Json

namespace Value

/-- A value as JSON. -/
def toJson : Value → Json
  | .null => .ofText "Null"
  | .bool b => .tag "Bool" (.bool b)
  | .int32 n => .tag "Int32" (.ofInt n.toInt)
  | .int64 n => .tag "Int64" (.ofInt n.toInt)
  | .uint64 n => .tag "UInt64" (.ofInt n.toNat)
  | .float x => .tag "Float" (.ofFloat x)
  | .text s => .tag "Text" (.ofText s)
  | .bytes bs => .tag "Bytes" (.array (bs.map fun b => .ofInt b.toNat))

/-- The value that a name and a payload stand for. -/
def ofTagged? : String → Option Json → Option Value
  | "Null", none => some .null
  | "Null", some .null => some .null
  | "Bool", some j => j.asBool?.map .bool
  | "Int32", some j => j.asInt?.bind FieldType.int32.ofInt?
  | "Int64", some j => j.asInt?.bind FieldType.int64.ofInt?
  | "UInt64", some j => j.asInt?.bind FieldType.uint64.ofInt?
  | "Float", some j => j.asFloat?.map .float
  | "Text", some j => j.asText?.map .text
  | "Bytes", some j => j.asBytes?.map .bytes
  | _, _ => none

/-- The value that JSON data stands for. -/
def ofJson? (j : Json) : Option Value := j.tagged?.bind fun tagged => ofTagged? tagged.1 tagged.2

end Value

namespace FieldType

/-- A field type as JSON. -/
def toJson (type : FieldType) : Json := .ofText type.name

/-- The field type of a name. -/
def ofName? (name : String) : Option FieldType := FieldType.all.find? (·.name = name)

/-- The field type that JSON data stands for. A name may have null as its payload. -/
def ofJson? (j : Json) : Option FieldType :=
  match j.tagged? with
  | some (name, none) => ofName? name
  | some (name, some .null) => ofName? name
  | _ => none

end FieldType

namespace Row

/-- A row as JSON. -/
def toJson (row : Row) : Json :=
  .object [(Json.elementsOf "columns",
    .array (row.columns.map fun column => .array [.ofText column.1, column.2.toJson]))]

/-- A column from a pair. -/
def columnOfJson? : Json → Option (String × Value)
  | .array [name, value] => do
      let name ← name.asText?
      let value ← Value.ofJson? value
      return (name, value)
  | _ => none

/-- Columns from an array of pairs. -/
def columnsOfJson? : Json → Option (List (String × Value))
  | .array items => Json.readEach? columnOfJson? items
  | _ => none

/-- The member with the columns; it must occur once, beside any others. All names must be texts. -/
def columnsMember? (members : List (List Json.Element × Json)) : Option Json :=
  if members.all fun member => (Json.text? member.1).isSome then
    match members.filter fun member => Json.text? member.1 = some "columns".toList with
    | [member] => some member.2
    | _ => none
  else none

/-- The row that JSON data stands for: an object with columns, or an array that holds the columns
alone. -/
def ofJson? : Json → Option Row
  | .object members => do
      let columns ← columnsMember? members
      return ⟨← columnsOfJson? columns⟩
  | .array [columns] => (columnsOfJson? columns).map Row.mk
  | _ => none

end Row

end EntityQuery
