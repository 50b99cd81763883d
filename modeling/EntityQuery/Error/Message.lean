import EntityQuery.Error.Basic
import EntityQuery.Expr.Outline

/-!
# Error messages

The text of every error. Names stand between backticks; values are shown as literals, expressions
and keys as outlines.
-/
namespace EntityQuery

/-- A name inside a message. -/
def Text.named (name : String) : String := "`" ++ name ++ "`"

/-- A field with its entity inside a message. -/
def Text.namedField (entity field : String) : String := Text.named (entity ++ "." ++ field)

def StatementKind.name : StatementKind → String
  | .select => "Select"
  | .count => "Count"
  | .update => "Update"

/-- The name of a type on the side of an entity that reads it. -/
def FieldType.readName : FieldType → String
  | .bool => "bool"
  | .int32 => "i32"
  | .int64 => "i64"
  | .uint64 => "u64"
  | .float => "f64"
  | .text => "String"
  | .bytes => "Vec<u8>"

open Text (named namedField)

def SchemaFault.message : SchemaFault → String
  | .unrepresentable value type => "cannot represent " ++ value.literal ++ " as " ++ type.name
  | .noField entity field => "entity " ++ named entity ++ " has no field " ++ named field
  | .notNavigation entity field =>
      "field " ++ namedField entity field ++ " is not a navigation field"
  | .unknownEntity entity => "entity " ++ named entity ++ " is not registered"
  | .unknownTable table => "table " ++ named table ++ " is not registered"
  | .wrongTarget entity field declared wanted =>
      "navigation " ++ namedField entity field ++ " targets " ++ named declared ++ ", not " ++
        named wanted
  | .noReferenceKeys entity field => "no reference keys resolved for " ++ namedField entity field
  | .noForeignKeys target entity field =>
      "no foreign-key fields resolved on " ++ named target ++ " for " ++ namedField entity field
  | .unpairedKeys entity field referenceKeys foreignKeys =>
      namedField entity field ++ " pairs " ++ Text.nat referenceKeys ++ " reference keys with " ++
        Text.nat foreignKeys ++ " foreign-key fields"

/-- The message for an expression that a clause cannot hold. -/
def ClauseKind.operandMessage (found : Expr) : ClauseKind → String
  | .filter => "expression is not a predicate: " ++ found.outline
  | .set => "SET expects field assignments, found " ++ found.outline
  | .limit => "LIMIT expects an integer literal, found " ++ found.outline
  | .count => "COUNT expects `*` or a field, found " ++ found.outline
  | .reference => "a Reference clause must name a navigation field"
  | kind => kind.keyword ++ " expects a field or an array of fields, found " ++ found.outline

def CompileFault.message : CompileFault → String
  | .operand kind found => kind.operandMessage found
  | .reservedParameter name => "parameter " ++ named name ++ " is already reserved"
  | .virtualField entity field =>
      namedField entity field ++ " is a virtual field and has no column"
  | .setWithCount => "SET cannot be combined with COUNT"
  | .setWithGrouping => "SET cannot be combined with GROUP BY or DISTINCT BY"
  | .setTarget field root => "SET target " ++ named field ++ " is not a field of " ++ named root
  | .setValue field found =>
      "SET " ++ named field ++ " expects a literal or a field, found " ++ found.outline
  | .missingSet => "update requires a SET clause"
  | .limitValue value => "LIMIT expects a non-negative integer, found " ++ value.literal
  | .literalComparison => "comparison between two literals"
  | .comparisonOperands op lhs rhs =>
      "unsupported comparison operands: " ++ lhs.outline ++ " " ++ op.sql ++ " " ++ rhs.outline
  | .nullComparison op => named op.sql ++ " cannot compare against NULL"
  | .notBoolean field =>
      "field " ++ named field ++ " is not boolean and cannot stand alone as a predicate"
  | .listMember value => value.literal ++ " cannot be a member of a FIND_IN_SET list"
  | .foreignReference field entity =>
      "Reference " ++ named field ++ " does not belong to " ++ named entity
  | .noNavigation entity target => named entity ++ " has no navigation to " ++ named target
  | .noAlias table => "table " ++ named table ++ " has no alias"
  | .notReference kind => "expected a Reference clause, found " ++ kind.name
  | .childKind kind field => kind.name ++ " cannot constrain the " ++ named field ++ " reference"
  | .statementKind expected found =>
      "expected a " ++ expected.name ++ " statement, the clauses compile to " ++ found.name

/-- A schema fault as a message of its own. -/
def SchemaFault.report (fault : SchemaFault) : String := "Schema error: " ++ fault.message

def MappingFault.message : MappingFault → String
  | .mismatch type found => "expected " ++ type.readName ++ ", found " ++ found.literal
  | .conversion fault => fault.report
  | .missingColumn entity column => "row for " ++ named entity ++ " has no column " ++ named column
  | .itemCount field prepared given =>
      "lookup for " ++ named field ++ " was prepared for " ++ Text.nat prepared ++ " items, got " ++
        Text.nat given
  | .countValue value => "COUNT returned " ++ value.literal
  | .refused reason => reason

/-- The text of an error. -/
def QueryError.message : QueryError → String
  | .schema fault => fault.report
  | .compile fault => "Compile error: " ++ fault.message
  | .unsupported method => "Unsupported predicate: " ++ named method ++ " has no SQL mapping"
  | .ambiguous entity target candidates =>
      "Ambiguous navigation from " ++ named entity ++ " to " ++ named target ++ ": candidates " ++
        Text.outlineList (candidates.map Text.outline)
  | .duplicateKey entity key =>
      "Duplicate key " ++ Text.outlineList (key.map KeyPart.outline) ++
        " for single-valued reference to " ++ named entity
  | .execution reason => "Execution error: " ++ reason
  | .mapping fault => "Mapping error: " ++ fault.message
  | .notFound => "No rows found"

end EntityQuery
