import EntityQuery.Schema.Basic

/-!
# Join keys

The fields that join an entity to the target of one of its navigation fields. They are looked for in
a fixed order: on the navigation field itself, in a foreign key of the source that serves the field,
in a foreign key of the target that references the source, and at last in the target's key fields.
-/
namespace EntityQuery

/-- Paired fields: the reference keys belong to the source, the foreign keys to the target. -/
structure JoinKeys where
  referenceKeys : List String
  foreignKeys : List String
  deriving DecidableEq, Repr, Inhabited

/-- How a message names a foreign key: by the navigation field it serves, or by its own fields. -/
def ForeignKey.label (key : ForeignKey) : String :=
  if key.navigation.isEmpty then ",".intercalate key.localKeys else key.navigation

namespace JoinKeys

/-- The keys declared on a navigation field, if both sides are. -/
def ofNavigation? (navigation : Navigation) : Option JoinKeys :=
  if navigation.localKeys.isEmpty || navigation.foreignKeys.isEmpty then none
  else some ⟨navigation.localKeys, navigation.foreignKeys⟩

/-- The keys of the source's foreign key that references the target for the field. -/
def ofSource? (source : Schema) (field : String) (target : Schema) : Option JoinKeys :=
  ((source.foreignKeysTo target.entity).find? (·.navigation = field)).map fun key =>
    ⟨key.localKeys, key.foreignKeys⟩

/-- The target's foreign key that references the source: the one that serves the field, or else the
only one. Several without one that serves the field leave the choice open. -/
def inverseKey? (source : Schema) (field : String) (target : Schema) :
    Except QueryError (Option ForeignKey) :=
  let keys := target.foreignKeysTo source.entity
  match keys.find? (·.navigation = field), keys with
  | some key, _ => .ok (some key)
  | none, [] => .ok none
  | none, [key] => .ok (some key)
  | none, keys => .error (.ambiguous source.entity target.entity (keys.map ForeignKey.label))

/-- The declared local keys, against the declared foreign keys or else the target's key fields. -/
def ofTarget (navigation : Navigation) (target : Schema) : JoinKeys :=
  ⟨navigation.localKeys,
   if navigation.foreignKeys.isEmpty then target.keyFields.map (·.name) else navigation.foreignKeys⟩

/-- The first keys in the order of preference, not yet checked. -/
def choose (source : Schema) (field : String) (navigation : Navigation) (target : Schema) :
    Except QueryError JoinKeys :=
  match ofNavigation? navigation, ofSource? source field target with
  | some keys, _ => .ok keys
  | none, some keys => .ok keys
  | none, none => do
      match ← inverseKey? source field target with
      | some key => return ⟨key.foreignKeys, key.localKeys⟩
      | none => return ofTarget navigation target

/-- Names that must be fields of a schema. -/
def requireFields (schema : Schema) : List String → Except QueryError Unit
  | [] => .ok ()
  | name :: names => do
      let _ ← schema.field name
      requireFields schema names

/-- Keys must be there on both sides, in pairs, and be fields. -/
def check (source : Schema) (field : String) (target : Schema) (keys : JoinKeys) :
    Except QueryError Unit := do
  if keys.referenceKeys.isEmpty then
    throw (.schema (.noReferenceKeys source.entity field))
  if keys.foreignKeys.isEmpty then
    throw (.schema (.noForeignKeys target.entity source.entity field))
  if keys.referenceKeys.length ≠ keys.foreignKeys.length then
    throw (.schema (.unpairedKeys source.entity field keys.referenceKeys.length
      keys.foreignKeys.length))
  requireFields source keys.referenceKeys
  requireFields target keys.foreignKeys

/-- The keys that join the navigation field of a source to its target. -/
def derive (source : Schema) (field : String) (target : Schema) : Except QueryError JoinKeys := do
  let navigation ← source.navigation field
  if navigation.target ≠ target.entity then
    throw (.schema (.wrongTarget source.entity field navigation.target target.entity))
  let keys ← choose source field navigation target
  check source field target keys
  return keys

end JoinKeys

end EntityQuery
