import EntityQuery.Sql.Compile

/-!
# Lookups

A reference clause asks, for a batch of items, for the entities that they are related to. One lookup
serves the whole batch: it selects the target rows whose foreign keys equal the keys of some item.
-/
namespace EntityQuery

/-- How an item shows its stored fields. -/
abbrev FieldReader := String → Option Value

/-- What is needed to load one navigation field for a batch of items. -/
structure Lookup where
  source : String
  field : String
  target : String
  /-- Whether the field holds a collection. -/
  many : Bool
  /-- Fields of the source. -/
  referenceKeys : List String
  /-- Fields of the target, paired with those of the source. -/
  foreignKeys : List String
  /-- The key of each item, in the types of the target's fields; none for an item without one. -/
  itemKeys : List (Option (List Value))
  deriving Repr, Inhabited

/-- The key that a list of values stands for. -/
def keyTuple (values : List Value) : List KeyPart := values.map Value.key

namespace Lookup

/-- The value of a field of an item in a type. A missing or null value, and one that the type cannot
hold, matches no row. -/
def keyValue? (item : FieldReader) (name : String) (type : FieldType) : Option Value :=
  ((item name).filter (!·.isNull)).bind (·.coerce? type)

/-- The key of an item: the values of several fields in their types. -/
def itemKey? (item : FieldReader) : List (String × FieldType) → Option (List Value)
  | [] => some []
  | (name, type) :: rest =>
      match keyValue? item name type with
      | none => none
      | some value => (itemKey? item rest).map (value :: ·)

/-- The declared types of several fields. -/
def fieldTypes (schema : Schema) : List String → Except QueryError (List FieldType)
  | [] => .ok []
  | name :: names => do
      let field ← schema.field name
      let types ← fieldTypes schema names
      return field.type :: types

/-- The lookup for a reference clause of a source over items. -/
def derive (registry : Registry) (source target : String) (node : Clause)
    (items : List FieldReader) : Except QueryError Lookup := do
  if node.kind ≠ .reference then throw (.compile (.notReference node.kind))
  let field ← Sql.referenceField source node.expr
  let sourceSchema ← registry.get source
  let targetSchema ← registry.get target
  let navigation ← sourceSchema.navigation field
  let keys ← JoinKeys.derive sourceSchema field targetSchema
  let types ← fieldTypes targetSchema keys.foreignKeys
  let fields := keys.referenceKeys.zip types
  return ⟨source, field, target, navigation.many, keys.referenceKeys, keys.foreignKeys,
    items.map (itemKey? · fields)⟩

/-- The keys after those already seen, each at its first occurrence. -/
def distinctFrom (seen : List (List KeyPart)) : List (List Value) → List (List Value)
  | [] => []
  | key :: keys =>
      if seen.contains (keyTuple key) then distinctFrom seen keys
      else key :: distinctFrom (keyTuple key :: seen) keys

/-- The different keys of the items, in the order of their first occurrence. -/
def distinctKeys (lookup : Lookup) : List (List Value) :=
  distinctFrom [] (lookup.itemKeys.filterMap id)

/-- Whether some item has a key. -/
def hasKeys (lookup : Lookup) : Bool := lookup.itemKeys.any (·.isSome)

/-- The predicate that a target row has a given key. -/
def keyPredicate? (lookup : Lookup) (key : List Value) : Option Expr :=
  Expr.allOf? ((lookup.foreignKeys.zip key).map fun pair =>
    .eq (.rootField pair.1) (.literal pair.2))

/-- The predicate that a target row has the key of some item. -/
def predicate? (lookup : Lookup) : Option Expr :=
  Expr.anyOf? (lookup.distinctKeys.filterMap lookup.keyPredicate?)

/-- Adds the clauses that constrain a reference. Only predicates and orderings can. -/
def addChildren (field : String) (clauses : Clauses) : List Clause → Except QueryError Clauses
  | [] => .ok clauses
  | child :: children =>
      match child.kind with
      | .filter | .orderBy | .orderByDescending =>
          addChildren field (clauses.push child) children
      | kind => .error (.compile (.childKind kind field))

/-- The clauses of a lookup; none if no item has a key. -/
def clauses? (lookup : Lookup) (children : List Clause) : Except QueryError (Option Clauses) :=
  match lookup.predicate? with
  | none => .ok none
  | some predicate =>
      (addChildren lookup.field (Clauses.empty.push (.of .filter predicate)) children).map some

/-- The query of a lookup; none if no item has a key. -/
def query? (lookup : Lookup) (registry : Registry) (children : List Clause) :
    Except QueryError (Option SqlQuery) := do
  match ← lookup.clauses? children with
  | none => return none
  | some clauses => return some (← Sql.compile registry lookup.target clauses)

end Lookup

/-- A lookup with its query, which is missing if no item has a key. -/
structure PreparedLookup where
  lookup : Lookup
  query : Option SqlQuery
  deriving Repr

/-- Prepares the lookup for a reference clause of a source over items. -/
def PreparedLookup.of (registry : Registry) (source target : String) (node : Clause)
    (items : List FieldReader) : Except QueryError PreparedLookup := do
  let lookup ← Lookup.derive registry source target node items
  let query ← lookup.query? registry node.children
  return ⟨lookup, query⟩

end EntityQuery
