import EntityQuery.Sql.Assignments
import EntityQuery.Sql.Joins
import EntityQuery.Sql.Listing
import EntityQuery.Sql.Query
import EntityQuery.Sql.Where

/-!
# Compilation

The statement of a collection of clauses over a root entity. The parts are built in the order in
which they stand in the text, so that parameters are bound in text order; the joins are known last.
-/
namespace EntityQuery.Sql

/-- The columns of a selection: every stored field of the root, in order. -/
def selectedColumns (root : Schema) : List Column :=
  root.storedFields.map fun field => ⟨Aliases.primary, field.column⟩

/-- What the orderings among some clauses order by, and whether downwards. -/
def orderings (nodes : List Clause) : List (Bool × Expr) :=
  nodes.filterMap fun node =>
    match node.kind with
    | .orderBy => some (false, node.expr)
    | .orderByDescending => some (true, node.expr)
    | _ => none

/-- The groupings among some clauses, with their kinds. -/
def groupings (nodes : List Clause) : List (ClauseKind × Expr) :=
  nodes.filterMap fun node =>
    match node.kind with
    | .groupBy => some (.groupBy, node.expr)
    | .distinctBy => some (.distinctBy, node.expr)
    | _ => none

/-- The clauses that one statement cannot hold together. -/
def checkCombination (clauses : Clauses) : Except QueryError Unit :=
  if clauses.has .set && clauses.has .count then .error (.compile .setWithCount)
  else if clauses.has .set && (clauses.has .groupBy || clauses.has .distinctBy) then
    .error (.compile .setWithGrouping)
  else .ok ()

/-- The head of a statement. An assignment makes an update, a count makes a count. -/
def headOf (ctx : Context) (clauses : Clauses) : Build Head :=
  match clauses.first? .set, clauses.first? .count with
  | some _, _ => return .update
  | none, some node => return .count (← countedColumn ctx node.expr)
  | none, none => return .select (selectedColumns ctx.root)

/-- The assignments of a statement. -/
def setPart (ctx : Context) (clauses : Clauses) : Build (Option (List Assignment)) :=
  match clauses.first? .set with
  | none => return none
  | some node => return some (← assignments ctx node.expr)

/-- The row limit of a statement. -/
def limitPart (clauses : Clauses) : Except QueryError (Option Nat) :=
  match clauses.first? .limit with
  | none => .ok none
  | some node => (rowLimit node.expr).map some

/-- The pieces for several items, in order. -/
def piecesOf {α β : Type} (piece : α → Build β) : List α → Build (List β)
  | [] => return []
  | x :: xs => do
      let first ← piece x
      let rest ← piecesOf piece xs
      return first :: rest

/-- The statement of a collection of clauses. -/
def statementOf (ctx : Context) (clauses : Clauses) : Build Statement := do
  Build.ofExcept (checkCombination clauses)
  let head ← headOf ctx clauses
  let sets ← setPart ctx clauses
  let predicates := (clauses.ofKind .filter).map (·.expr)
  modify fun scope => { scope with conjoined := 1 < predicates.length }
  let wheres ← piecesOf (wherePiece ctx) predicates
  let orders ← piecesOf (fun o => orderPiece ctx o.1 o.2) (orderings clauses.nodes)
  let groups ← piecesOf (fun g => groupPiece ctx g.1 g.2) (groupings clauses.nodes)
  let limit ← Build.ofExcept (limitPart clauses)
  let references ← Build.ofExcept (referencedFields ctx.root (clauses.ofKind .reference))
  let scope ← get
  let joins ← Build.ofExcept (joinsOf ctx.root scope.aliases references scope.joined)
  return ⟨head, ctx.root.table, Aliases.primary, joins, sets, wheres, orders, groups, limit⟩

/-- The statement of a collection of clauses built on a scope, with the parameters bound at the
end. -/
def planOn (ctx : Context) (scope : Scope) (clauses : Clauses) :
    Except QueryError (Statement × Params) :=
  match (statementOf ctx clauses).runOn scope with
  | (.ok statement, scope) => .ok (statement, scope.params)
  | (.error e, _) => .error e

/-- The query of a statement with its parameters. -/
def queryOf (statement : Statement) (params : Params) : SqlQuery :=
  ⟨statement.text, params, statement.table, statement.kind⟩

/-- Compiles clauses on a scope that may have been used before. -/
def compileOn (ctx : Context) (scope : Scope) (clauses : Clauses) : Except QueryError SqlQuery :=
  (planOn ctx scope clauses).map fun plan => queryOf plan.1 plan.2

/-- The statement of a collection of clauses over a root entity, with its parameters. -/
def plan (registry : Registry) (root : String) (clauses : Clauses) :
    Except QueryError (Statement × Params) := do
  let ctx ← Context.of registry root
  planOn ctx ctx.scope clauses

/-- Compiles clauses over a root entity. -/
def compile (registry : Registry) (root : String) (clauses : Clauses) :
    Except QueryError SqlQuery :=
  (plan registry root clauses).map fun plan => queryOf plan.1 plan.2

end EntityQuery.Sql
