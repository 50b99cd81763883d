import EntityQuery.Error.Basic

/-!
# Schemas

The description of an entity: its table, its fields with their columns and types, the navigation
fields that lead to other entities, and its foreign keys.
-/
namespace EntityQuery

/-- Where a navigation field leads. Empty key lists are not declared. -/
structure Navigation where
  target : String
  /-- Whether the field holds a collection. -/
  many : Bool
  localKeys : List String
  foreignKeys : List String
  deriving DecidableEq, Repr, Inhabited

/-- A field of an entity. A virtual field has no column in the table. -/
structure Field where
  name : String
  column : String
  type : FieldType
  isKey : Bool
  isVirtual : Bool
  navigation : Option Navigation
  deriving DecidableEq, Repr, Inhabited

/-- A foreign key: fields of the declaring entity paired with fields of the entity it references.
`navigation` names the navigation field that it serves, or is empty. -/
structure ForeignKey where
  references : String
  localKeys : List String
  foreignKeys : List String
  navigation : String
  deriving DecidableEq, Repr, Inhabited

/-- The description of an entity. -/
structure Schema where
  entity : String
  table : String
  fields : List Field
  foreignKeys : List ForeignKey
  deriving DecidableEq, Repr, Inhabited

/-- A navigation field: it is virtual and stores nothing. -/
def Field.ofNavigation (name : String) (navigation : Navigation) : Field :=
  ⟨name, name, .bytes, false, true, some navigation⟩

namespace Schema

/-- The first field of a name. -/
def field? (schema : Schema) (name : String) : Option Field :=
  schema.fields.find? (·.name = name)

/-- The first field of a name, which must exist. -/
def field (schema : Schema) (name : String) : Except QueryError Field :=
  match schema.field? name with
  | some field => .ok field
  | none => .error (.schema (.noField schema.entity name))

/-- The fields marked as keys, or else the field `id`, if there is one. -/
def keyFields (schema : Schema) : List Field :=
  let keys := schema.fields.filter (·.isKey)
  if keys.isEmpty then (schema.field? "id").toList else keys

/-- The fields with a column in the table. -/
def storedFields (schema : Schema) : List Field := schema.fields.filter (!·.isVirtual)

/-- The fields that lead to an entity, with their navigations. -/
def navigationsTo (schema : Schema) (target : String) : List (Field × Navigation) :=
  schema.fields.filterMap fun field =>
    (field.navigation.filter (·.target = target)).map fun navigation => (field, navigation)

/-- The navigation of a field, which must be a navigation field. -/
def navigation (schema : Schema) (name : String) : Except QueryError Navigation := do
  let field ← schema.field name
  match field.navigation with
  | some navigation => .ok navigation
  | none => .error (.schema (.notNavigation schema.entity name))

/-- The foreign keys that reference an entity. -/
def foreignKeysTo (schema : Schema) (target : String) : List ForeignKey :=
  schema.foreignKeys.filter (·.references = target)

theorem field_eq_ok_iff {schema : Schema} {name : String} {field : Field} :
    schema.field name = .ok field ↔ schema.field? name = some field := by
  unfold Schema.field
  split <;> simp_all

theorem name_of_field? {schema : Schema} {name : String} {field : Field}
    (h : schema.field? name = some field) : field.name = name := by
  simpa using List.find?_some h

theorem mem_of_field? {schema : Schema} {name : String} {field : Field}
    (h : schema.field? name = some field) : field ∈ schema.fields :=
  List.mem_of_find?_eq_some h

end Schema

end EntityQuery
