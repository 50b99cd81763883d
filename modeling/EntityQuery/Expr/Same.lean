import EntityQuery.Expr.Basic

/-!
# Equality of expressions

Two expressions are the same when they have the same structure and their literals are equal as
values. Since a NaN equals nothing, an expression that holds one is not the same as itself.
-/
namespace EntityQuery

/-- Equality of two lists of values, component by component. -/
def Value.sameAll : List Value → List Value → Bool
  | [], [] => true
  | v :: vs, w :: ws => v.same w && sameAll vs ws
  | _, _ => false

mutual

/-- Equality of two expressions. -/
def Expr.same : Expr → Expr → Bool
  | .field a, .field b => a == b
  | .literal v, .literal w => v.same w
  | .list vs, .list ws => Value.sameAll vs ws
  | .fields a, .fields b => a == b
  | .compare op l r, .compare op' l' r' => op == op' && l.same l' && r.same r'
  | .and l r, .and l' r' => l.same l' && r.same r'
  | .or l r, .or l' r' => l.same l' && r.same r'
  | .not e, .not e' => e.same e'
  | .call m t args, .call m' t' args' => m == m' && t.same t' && Expr.sameList args args'
  | .assign ps, .assign ps' => Expr.samePairs ps ps'
  | .all, .all => true
  | _, _ => false

/-- Equality of two lists of expressions. -/
def Expr.sameList : List Expr → List Expr → Bool
  | [], [] => true
  | e :: es, e' :: es' => e.same e' && Expr.sameList es es'
  | _, _ => false

/-- Equality of two lists of fields with their new values. -/
def Expr.samePairs : List (FieldRef × Expr) → List (FieldRef × Expr) → Bool
  | [], [] => true
  | (ref, e) :: ps, (ref', e') :: ps' => ref == ref' && e.same e' && Expr.samePairs ps ps'
  | _, _ => false

end

end EntityQuery
