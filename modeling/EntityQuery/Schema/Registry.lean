import EntityQuery.Schema.Basic

/-!
# Registries

The schemas that are known, by entity and by table. The first schema of an entity is kept. The first
entity inserted for a table is kept as well, even if its schema is not.
-/
namespace EntityQuery

/-- The known schemas, in order of insertion, and the entity that each table stands for. -/
structure Registry where
  schemas : List Schema
  tables : List (String × String)
  deriving Repr, Inhabited

namespace Registry

def empty : Registry := ⟨[], []⟩

instance : EmptyCollection Registry := ⟨empty⟩

/-- The schema of an entity. -/
def get? (registry : Registry) (entity : String) : Option Schema :=
  registry.schemas.find? (·.entity = entity)

/-- The schema of an entity, which must be known. -/
def get (registry : Registry) (entity : String) : Except QueryError Schema :=
  match registry.get? entity with
  | some schema => .ok schema
  | none => .error (.schema (.unknownEntity entity))

def contains (registry : Registry) (entity : String) : Bool := (registry.get? entity).isSome

/-- The schema of the entity that a table stands for. -/
def byTable? (registry : Registry) (table : String) : Option Schema :=
  (registry.tables.lookup table).bind registry.get?

/-- Adds a schema, unless its entity is known; adds its table, unless that is known. -/
def insert (registry : Registry) (schema : Schema) : Registry where
  schemas :=
    if registry.contains schema.entity then registry.schemas else registry.schemas ++ [schema]
  tables :=
    if (registry.tables.lookup schema.table).isSome then registry.tables
    else registry.tables ++ [(schema.table, schema.entity)]

/-- Inserts schemas in turn. -/
def ofList (schemas : List Schema) : Registry := schemas.foldl insert empty

/-- Adds the schema of an entity type under the name of the type; a known name changes nothing. -/
def register (registry : Registry) (name : String) (schema : Schema) : Registry :=
  if registry.contains name then registry else registry.insert schema

def size (registry : Registry) : Nat := registry.schemas.length

def isEmpty (registry : Registry) : Bool := registry.schemas.isEmpty

/-- A field of an entity. -/
def field (registry : Registry) (entity name : String) : Except QueryError Field := do
  (← registry.get entity).field name

/-- The key fields of an entity. -/
def keyFields (registry : Registry) (entity : String) : Except QueryError (List Field) := do
  return (← registry.get entity).keyFields

theorem get_eq_ok_iff {registry : Registry} {entity : String} {schema : Schema} :
    registry.get entity = .ok schema ↔ registry.get? entity = some schema := by
  unfold Registry.get
  split <;> simp_all

theorem entity_of_get? {registry : Registry} {entity : String} {schema : Schema}
    (h : registry.get? entity = some schema) : schema.entity = entity := by
  simpa using List.find?_some h

/-- The first schema of an entity is kept. -/
theorem get?_insert (registry : Registry) (schema : Schema) (entity : String) :
    (registry.insert schema).get? entity =
      (registry.get? entity).or (if schema.entity = entity then some schema else none) := by
  unfold insert
  by_cases known : registry.contains schema.entity = true
  · by_cases same : schema.entity = entity
    · subst same
      obtain ⟨kept, hkept⟩ := Option.isSome_iff_exists.1 known
      simp [get?, known] at hkept ⊢
      simp [hkept]
    · simp [get?, known, same]
  · simp [get?, known, List.find?_append, List.find?_cons]
    split <;> simp_all

theorem contains_insert (registry : Registry) (schema : Schema) (entity : String) :
    (registry.insert schema).contains entity =
      (registry.contains entity || decide (schema.entity = entity)) := by
  unfold contains
  rw [get?_insert]
  cases registry.get? entity <;> simp
  split <;> simp_all

end Registry

end EntityQuery
