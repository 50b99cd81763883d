import EntityQuery.Query.Clause

/-!
# Errors

Every error of the library, by its cause. The causes that come from outside the library, the texts
of an executor and of an entity's own setters, are kept as they are.
-/
namespace EntityQuery

/-- The kinds of statements that clauses compile to. -/
inductive StatementKind where
  | select
  | count
  | update
  deriving DecidableEq, Repr, Inhabited

/-- What can be wrong with metadata, or with a value under its declared type. -/
inductive SchemaFault where
  | unrepresentable (value : Value) (type : FieldType)
  | noField (entity field : String)
  | notNavigation (entity field : String)
  | unknownEntity (entity : String)
  | unknownTable (table : String)
  | wrongTarget (entity field declared wanted : String)
  | noReferenceKeys (entity field : String)
  | noForeignKeys (target entity field : String)
  | unpairedKeys (entity field : String) (referenceKeys foreignKeys : Nat)
  deriving Repr

/-- What can be wrong with the shape of clauses and expressions. -/
inductive CompileFault where
  /-- A clause of this kind cannot hold the expression. -/
  | operand (kind : ClauseKind) (found : Expr)
  | reservedParameter (name : String)
  | virtualField (entity field : String)
  | setWithCount
  | setWithGrouping
  | setTarget (field root : String)
  | setValue (field : String) (found : Expr)
  | missingSet
  | limitValue (value : Value)
  | literalComparison
  | comparisonOperands (op : CompareOp) (lhs rhs : Expr)
  | nullComparison (op : CompareOp)
  | notBoolean (field : String)
  | listMember (value : Value)
  | foreignReference (field entity : String)
  | noNavigation (entity target : String)
  | noAlias (table : String)
  | notReference (kind : ClauseKind)
  | childKind (kind : ClauseKind) (field : String)
  | statementKind (expected found : StatementKind)
  deriving Repr

/-- What can go wrong between rows and entities. -/
inductive MappingFault where
  /-- A value of a type is needed and another one, in practice null, is there. -/
  | mismatch (type : FieldType) (found : Value)
  | conversion (fault : SchemaFault)
  | missingColumn (entity column : String)
  | itemCount (field : String) (prepared given : Nat)
  | countValue (value : Value)
  /-- An entity's own setter refuses. -/
  | refused (reason : String)
  deriving Repr

/-- An error of the library. -/
inductive QueryError where
  | schema (fault : SchemaFault)
  | compile (fault : CompileFault)
  /-- A method call that no statement can express. -/
  | unsupported (method : String)
  /-- More than one way leads from an entity to another. -/
  | ambiguous (entity target : String) (candidates : List String)
  /-- A reference to one entity found several. -/
  | duplicateKey (entity : String) (key : List KeyPart)
  /-- The executor fails. -/
  | execution (reason : String)
  | mapping (fault : MappingFault)
  /-- No row where one is needed. -/
  | notFound
  deriving Repr

end EntityQuery
