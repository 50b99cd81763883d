import EntityQuery.Sql.Scope
import EntityQuery.Value.Coerce

/-!
# Assignments

The SET part. Only fields of the root can be assigned, either another field or a literal, and a
literal is converted to the declared type of its target before it is bound.
-/
namespace EntityQuery.Sql

/-- The fields that an expression assigns, with their new values. One equation is an assignment
too. -/
def assignedPairs : Expr → Except QueryError (List (FieldRef × Expr))
  | .assign (pair :: pairs) => .ok (pair :: pairs)
  | .compare .eq (.field target) value => .ok [(target, value)]
  | e => .error (.compile (.operand .set e))

/-- The new value of a field. -/
def assignedValue (ctx : Context) (field : Field) : Expr → Build Operand
  | .literal value => do
      let value ← Build.ofExcept ((value.coerce field.type).mapError .schema)
      let name ← bindParam field.column value.bound
      return .parameter name
  | .field ref => do
      let (c, _) ← column ctx ref
      return .column c
  | e => throw (.compile (.setValue field.name e))

/-- The assignment of a value to a field. -/
def assignment (ctx : Context) (target : FieldRef) (value : Expr) : Build Assignment := do
  if target.entity.any (· ≠ ctx.root.entity) then
    throw (.compile (.setTarget target.name ctx.root.entity))
  let (c, field) ← column ctx target
  let operand ← assignedValue ctx field value
  return ⟨c, operand⟩

/-- The assignments of several pairs, in order. -/
def assignmentsOf (ctx : Context) : List (FieldRef × Expr) → Build (List Assignment)
  | [] => return []
  | (target, value) :: pairs => do
      let first ← assignment ctx target value
      let rest ← assignmentsOf ctx pairs
      return first :: rest

/-- The SET part of an expression. -/
def assignments (ctx : Context) (e : Expr) : Build (List Assignment) := do
  assignmentsOf ctx (← Build.ofExcept (assignedPairs e))

end EntityQuery.Sql
