import EntityQuery.Schema.JoinKeys
import EntityQuery.Sql.Scope

/-!
# Joins

Every entity besides the root whose fields are used is joined to the root, along the navigation
field that leads to it. A reference clause decides between several such fields.
-/
namespace EntityQuery.Sql

/-- The field that a reference clause names. -/
def referenceField (entity : String) : Expr → Except QueryError String
  | .field ref =>
      if ref.entity.any (· ≠ entity) then .error (.compile (.foreignReference ref.name entity))
      else .ok ref.name
  | e => .error (.compile (.operand .reference e))

/-- The navigation fields that reference clauses name. -/
def referencedFields (root : Schema) : List Clause → Except QueryError (List String)
  | [] => .ok []
  | node :: nodes => do
      let field ← referenceField root.entity node.expr
      let _ ← root.navigation field
      let fields ← referencedFields root nodes
      return field :: fields

/-- The navigation field that leads from the root to an entity: the first one referenced, or else
the only one. -/
def navigationField (root : Schema) (references : List String) (target : Schema) :
    Except QueryError String :=
  let candidates := (root.navigationsTo target.entity).map (·.1.name)
  match references.find? candidates.contains, candidates with
  | some field, _ => .ok field
  | none, [field] => .ok field
  | none, [] => .error (.compile (.noNavigation root.entity target.entity))
  | none, candidates => .error (.ambiguous root.entity target.entity candidates)

/-- The columns that a join equates: the target's on the left, the root's on the right. -/
def joinPairs (root target : Schema) (qualifier : String) :
    List (String × String) → Except QueryError (List (Column × Column))
  | [] => .ok []
  | (foreign, reference) :: rest => do
      let targetField ← target.field foreign
      let rootField ← root.field reference
      let pairs ← joinPairs root target qualifier rest
      return (⟨qualifier, targetField.column⟩, ⟨Aliases.primary, rootField.column⟩) :: pairs

/-- The join of an entity to the root. -/
def joinOf (root : Schema) (aliases : Aliases) (references : List String) (target : Schema) :
    Except QueryError Join := do
  let field ← navigationField root references target
  let keys ← JoinKeys.derive root field target
  match aliases.get? target.table with
  | none => throw (.compile (.noAlias target.table))
  | some qualifier =>
      let pairs ← joinPairs root target qualifier (keys.foreignKeys.zip keys.referenceKeys)
      return ⟨target.table, qualifier, pairs⟩

/-- The joins of several entities, in order. -/
def joinsOf (root : Schema) (aliases : Aliases) (references : List String) :
    List Schema → Except QueryError (List Join)
  | [] => .ok []
  | target :: targets => do
      let join ← joinOf root aliases references target
      let joins ← joinsOf root aliases references targets
      return join :: joins

end EntityQuery.Sql
