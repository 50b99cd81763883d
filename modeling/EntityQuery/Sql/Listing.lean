import EntityQuery.Sql.Scope

/-!
# Listings and limits

The parts of a statement that list columns, ORDER BY, GROUP BY and the projection of a count, and
the LIMIT part.
-/
namespace EntityQuery.Sql

/-- The columns of several fields. -/
def columnsOf (ctx : Context) : List FieldRef → Build (List Column)
  | [] => return []
  | ref :: refs => do
      let (c, _) ← column ctx ref
      let cs ← columnsOf ctx refs
      return c :: cs

/-- The columns that a clause lists: of one field, or of several. -/
def listedColumns (ctx : Context) (kind : ClauseKind) : Expr → Build (List Column)
  | .field ref => columnsOf ctx [ref]
  | .fields (ref :: refs) => columnsOf ctx (ref :: refs)
  | e => throw (.compile (.operand kind e))

/-- The piece of the ORDER BY part for a projection. -/
def orderPiece (ctx : Context) (descending : Bool) (projection : Expr) : Build OrderPiece := do
  let columns ← listedColumns ctx (if descending then .orderByDescending else .orderBy) projection
  let scope ← get
  set { scope with orderOpen := true }
  return ⟨!scope.orderOpen, descending, columns⟩

/-- The piece of the GROUP BY part for the projection of a clause. One row for each distinct key is
a grouping as well, and shares the keyword. -/
def groupPiece (ctx : Context) (kind : ClauseKind) (projection : Expr) : Build GroupPiece := do
  let columns ← listedColumns ctx kind projection
  let scope ← get
  set { scope with groupOpen := true }
  return ⟨!scope.groupOpen, columns⟩

/-- The column that a count counts; none counts the rows. -/
def countedColumn (ctx : Context) : Expr → Build (Option Column)
  | .all => return none
  | .field ref => do
      let (c, _) ← column ctx ref
      return some c
  | e => throw (.compile (.operand .count e))

/-- The number of rows at most, from a literal that denotes a natural number. -/
def rowLimit : Expr → Except QueryError Nat
  | .literal (.bool b) => .error (.compile (.operand .limit (.literal (.bool b))))
  | .literal value =>
      match value.toInt? with
      | some (.ofNat n) => .ok n
      | _ => .error (.compile (.limitValue value))
  | e => .error (.compile (.operand .limit e))

end EntityQuery.Sql
