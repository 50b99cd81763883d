import EntityQuery.Database.Basic

/-!
# Queries

A query over an entity is built clause by clause. Compiling it uses up its clauses, so a second
compilation starts from none; the related entities that it includes are kept apart and stay.
-/
namespace EntityQuery

/-- A related entity to load with a query: the target of the reference clause. -/
structure Include where
  target : String
  node : Clause
  deriving Repr, Inhabited

/-- A query under construction. -/
structure Query where
  entity : String
  clauses : Clauses
  /-- The clauses that the last compilation used up. -/
  lastCompiled : Option Clauses
  includes : List Include
  deriving Repr, Inhabited

namespace Query

/-- The query for everything of an entity. -/
def of (entity : String) : Query := ⟨entity, .empty, none, []⟩

/-- Adds a clause. -/
def push (q : Query) (node : Clause) : Query := { q with clauses := q.clauses.push node }

/-- Only what a predicate holds of. -/
def filter (q : Query) (predicate : Expr) : Query := q.push (.of .filter predicate)

def orderBy (q : Query) (projection : Expr) : Query := q.push (.of .orderBy projection)

def orderByDescending (q : Query) (projection : Expr) : Query :=
  q.push (.of .orderByDescending projection)

def groupBy (q : Query) (projection : Expr) : Query := q.push (.of .groupBy projection)

def distinctBy (q : Query) (projection : Expr) : Query := q.push (.of .distinctBy projection)

/-- The assignments of an update. -/
def set (q : Query) (assignments : Expr) : Query := q.push (.of .set assignments)

/-- At most a number of rows. -/
def take (q : Query) (n : UInt64) : Query := q.push (.of .limit (.literal (.uint64 n)))

/-- A count of a projection in the place of rows. -/
def count (q : Query) (projection : Expr) : Query := q.push (.of .count projection)

/-- Includes the related entities in a navigation field, under constraints on them. -/
def including (q : Query) (target field : String) (constraints : List Clause) : Query :=
  let node := Clause.reference field constraints
  { q.push node with includes := q.includes ++ [⟨target, node⟩] }

/-- A count of all rows, unless another count is asked for. -/
def ensureCount (q : Query) : Query := if q.clauses.has .count then q else q.count .all

/-- Compiles the clauses and uses them up. -/
def toSql (q : Query) (registry : Registry) : Except QueryError SqlQuery × Query :=
  (Sql.compile registry q.entity q.clauses,
   { q with clauses := .empty, lastCompiled := some q.clauses })

/-- Compiles the clauses to a statement of the kind that is needed. -/
def compileAs (q : Query) (registry : Registry) (kind : StatementKind) :
    Except QueryError SqlQuery := do
  let query ← (q.toSql registry).1
  if query.kind ≠ kind then throw (.compile (.statementKind kind query.kind))
  return query

end Query

end EntityQuery
