import EntityQuery.Sql.Assignments
import EntityQuery.Sql.Listing
import EntityQuery.Sql.Where

/-!
# Fragments

The parts of a statement can be asked for one at a time, in any order, by calls on one scope. Each
call gives the text of its part.
-/
namespace EntityQuery.Sql

/-- A call for a part of a statement. -/
inductive Fragment where
  | filter (predicate : Expr)
  | ordering (descending : Bool) (projection : Expr)
  /-- One row for each distinct key is a grouping, too. -/
  | grouping (distinct : Bool) (projection : Expr)
  | counting (projection : Expr)
  | assigning (assignments : Expr)
  | limiting (count : Expr)

namespace Fragment

/-- The text of the part. -/
def build (ctx : Context) : Fragment → Build String
  | .filter predicate => WherePiece.text <$> wherePiece ctx predicate
  | .ordering descending projection => OrderPiece.text <$> orderPiece ctx descending projection
  | .grouping distinct projection =>
      GroupPiece.text <$> groupPiece ctx (if distinct then .distinctBy else .groupBy) projection
  | .counting projection => countText <$> countedColumn ctx projection
  | .assigning e => assignmentsText <$> assignments ctx e
  | .limiting count => limitText <$> Build.ofExcept (rowLimit count)

/-- The answer to a call, and the scope after it. -/
def run (ctx : Context) (call : Fragment) (scope : Scope) : Except QueryError String × Scope :=
  (call.build ctx).runOn scope

end Fragment

/-- Several calls in turn, each with its answer. A call that fails keeps what it has added, and the
next one goes on from there. -/
def answers (ctx : Context) :
    List Fragment → Scope → List (Fragment × Except QueryError String)
  | [], _ => []
  | call :: calls, scope =>
      (call, (call.run ctx scope).1) :: answers ctx calls (call.run ctx scope).2

/-- The scope after several calls. -/
def Scope.after (scope : Scope) (ctx : Context) (calls : List Fragment) : Scope :=
  calls.foldl (fun scope call => (call.run ctx scope).2) scope

end EntityQuery.Sql
