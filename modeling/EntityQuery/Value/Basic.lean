import EntityQuery.Binary64.Basic

/-!
# Values

The values that are bound as parameters and read back from rows, the types a field can declare, and
two views of a value: as an integer, and as a key. A key forgets the width of integers, so that
equal numbers of different widths match.
-/
namespace EntityQuery

/-- A value bound as a parameter or read back from a row. -/
inductive Value where
  | null
  | bool (b : Bool)
  | int32 (n : Int32)
  | int64 (n : Int64)
  | uint64 (n : UInt64)
  | float (x : Binary64)
  | text (s : String)
  | bytes (bs : List UInt8)
  deriving DecidableEq, Repr, Inhabited

/-- The type that a field declares for its stored values. -/
inductive FieldType where
  | bool
  | int32
  | int64
  | uint64
  | float
  | text
  | bytes
  deriving DecidableEq, Repr, Inhabited

/-- All field types. -/
def FieldType.all : List FieldType := [.bool, .int32, .int64, .uint64, .float, .text, .bytes]

/-- One component of a key. Integers of every width, truth values and whole floats become the
integer they denote. -/
inductive KeyPart where
  | null
  | int (n : Int)
  | float (x : Binary64)
  | text (s : String)
  | bytes (bs : List UInt8)
  deriving DecidableEq, Repr, Inhabited

namespace Value

def isNull : Value → Bool
  | .null => true
  | _ => false

/-- The text of a text value. -/
def text? : Value → Option String
  | .text s => some s
  | _ => none

/-- The value as it is sent to the database: truth values become `1` and `0`. -/
def bound : Value → Value
  | .bool b => .int32 (if b then 1 else 0)
  | v => v

/-- The integer that a value denotes: integers of every width, truth values, and whole floats below
the limit of `Binary64.toInt?`. -/
def toInt? : Value → Option Int
  | .bool b => some (if b then 1 else 0)
  | .int32 n => some n.toInt
  | .int64 n => some n.toInt
  | .uint64 n => some n.toNat
  | .float x => x.toInt?
  | _ => none

/-- The key component of a value that denotes no integer. -/
def plainKey : Value → KeyPart
  | .float x => .float x
  | .text s => .text s
  | .bytes bs => .bytes bs
  | _ => .null

/-- The key component of a value. -/
def key (v : Value) : KeyPart :=
  match v.toInt? with
  | some n => .int n
  | none => v.plainKey

/-- Equality of values of one kind; floats are compared as numbers, so a NaN equals nothing and the
two zeros are equal. -/
def same : Value → Value → Bool
  | .float x, .float y => x.same y
  | v, w => v == w

/-- The declared type that a value belongs to. -/
def type? : Value → Option FieldType
  | .null => none
  | .bool _ => some .bool
  | .int32 _ => some .int32
  | .int64 _ => some .int64
  | .uint64 _ => some .uint64
  | .float _ => some .float
  | .text _ => some .text
  | .bytes _ => some .bytes

@[simp] theorem isNull_iff {v : Value} : v.isNull = true ↔ v = .null := by
  cases v <;> simp [isNull]

theorem bound_isNull (v : Value) : v.bound.isNull = v.isNull := by
  cases v <;> rfl

end Value

end EntityQuery
