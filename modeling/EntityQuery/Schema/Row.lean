import EntityQuery.Schema.Basic
import EntityQuery.Value.Native

/-!
# Rows

A row of a result: values in order, each under the name of its column. Of two columns with one name
the first counts.
-/
namespace EntityQuery

/-- A row of a result. -/
structure Row where
  columns : List (String × Value)
  deriving DecidableEq, Repr, Inhabited

namespace Row

/-- Adds a column at the end. -/
def push (row : Row) (column : String) (value : Value) : Row := ⟨row.columns ++ [(column, value)]⟩

/-- The value of a column. -/
def get? (row : Row) (column : String) : Option Value := row.columns.lookup column

/-- The value of a field, in the column that the schema gives it. -/
def fieldValue (row : Row) (schema : Schema) (name : String) : Except QueryError Value := do
  let field ← schema.field name
  match row.get? field.column with
  | some value => .ok value
  | none => .error (.mapping (.missingColumn schema.entity field.column))

/-- The data of a field, read as a type. -/
def read (row : Row) (schema : Schema) (name : String) (type : FieldType) :
    Except QueryError type.Native := do
  (type.read (← row.fieldValue schema name)).mapError .mapping

/-- The data of a field that may be missing, read as a type. -/
def readOptional (row : Row) (schema : Schema) (name : String) (type : FieldType) :
    Except QueryError (Option type.Native) := do
  (type.readOptional (← row.fieldValue schema name)).mapError .mapping

def size (row : Row) : Nat := row.columns.length

def isEmpty (row : Row) : Bool := row.columns.isEmpty

end Row

end EntityQuery
