import EntityQuery.Sql.Scope

/-!
# Predicates

Predicates become pieces of the WHERE part. Nested conjunctions and disjunctions are flattened into
one chain, so that a mixed chain follows the precedence of AND over OR and not the grouping of the
expression. A negation closes what it negates.
-/
namespace EntityQuery.Sql

/-- A comparison or its negation. -/
def comparison (negated : Bool) (lhs : Column) (op : CompareOp) (rhs : Operand) : Test :=
  if negated then .notCompare lhs op rhs else .compare lhs op rhs

/-- A test whether a column has no value. -/
def nullTest (isNull : Bool) (column : Column) : Test :=
  if isNull then .isNull column else .isNotNull column

/-- The comparison of a field with a value. Null can only be tested for equality. -/
def compareValue (ctx : Context) (negated : Bool) (ref : FieldRef) (op : CompareOp)
    (value : Value) : Build Test := do
  let (lhs, field) ← column ctx ref
  if value.isNull then
    match op with
    | .eq => return nullTest (!negated) lhs
    | .ne => return nullTest negated lhs
    | op => throw (.compile (.nullComparison op))
  else
    let name ← bindParam field.column value.bound
    return comparison negated lhs op (.parameter name)

/-- The comparison of two fields. -/
def compareFields (ctx : Context) (negated : Bool) (op : CompareOp) (left right : FieldRef) :
    Build Test := do
  let (lhs, _) ← column ctx left
  let (rhs, _) ← column ctx right
  return comparison negated lhs op (.column rhs)

/-- A comparison of two expressions. -/
def compareExprs (ctx : Context) (negated : Bool) (op : CompareOp) : Expr → Expr → Build Test
  | .field ref, .literal value => compareValue ctx negated ref op value
  | .literal value, .field ref => compareValue ctx negated ref op.swapped value
  | .field left, .field right => compareFields ctx negated op left right
  | .literal _, .literal _ => throw (.compile .literalComparison)
  | lhs, rhs => throw (.compile (.comparisonOperands op lhs rhs))

/-- A field that stands for its own truth. -/
def truthTest (ctx : Context) (negated : Bool) (ref : FieldRef) : Build Test := do
  let (lhs, field) ← column ctx ref
  if field.type ≠ .bool then throw (.compile (.notBoolean field.name))
  let name ← bindParam field.column (.int32 (if negated then 0 else 1))
  return .compare lhs .eq (.parameter name)

/-- The text of a list member. It must not contain the comma that separates members. -/
def memberText? (value : Value) : Option String :=
  value.listItem?.filter fun item => !item.toList.contains ','

/-- The texts of all members of a list. -/
def memberTexts : List Value → Except QueryError (List String)
  | [] => .ok []
  | value :: values =>
      match memberText? value with
      | none => .error (.compile (.listMember value))
      | some item => (memberTexts values).map (item :: ·)

/-- The test whether a field is one of several values. -/
def membership (ctx : Context) (negated : Bool) (values : List Value) (ref : FieldRef) :
    Build Test := do
  let (lhs, field) ← column ctx ref
  let items ← Build.ofExcept (memberTexts values)
  let name ← bindParam field.column (.text (",".intercalate items))
  return .inList negated lhs name

/-- The test whether a field matches a pattern. -/
def patternTest (ctx : Context) (negated : Bool) (ref : FieldRef) (pattern : String) :
    Build Test := do
  let (lhs, field) ← column ctx ref
  let name ← bindParam field.column (.text pattern)
  return .like negated lhs name

/-- The test whether a field has no value. -/
def missingTest (ctx : Context) (negated : Bool) (ref : FieldRef) : Build Test := do
  let (lhs, _) ← column ctx ref
  return nullTest (!negated) lhs

/-- A method call. -/
def callTest (ctx : Context) (negated : Bool) (method : Method) (target : Expr)
    (args : List Expr) : Build Test :=
  match method, target, args with
  | .contains, .list values, [.field ref] => membership ctx negated values ref
  | .any, .list values, [.field ref] => membership ctx negated values ref
  | .contains, .field ref, [.literal (.text s)] => patternTest ctx negated ref ("%" ++ s ++ "%")
  | .startsWith, .field ref, [.literal (.text s)] => patternTest ctx negated ref (s ++ "%")
  | .endsWith, .field ref, [.literal (.text s)] => patternTest ctx negated ref ("%" ++ s)
  | .isNullOrEmpty, .field ref, [] => missingTest ctx negated ref
  | .isNullOrWhiteSpace, .field ref, [] => missingTest ctx negated ref
  | .isNullOrEmpty, _, [.field ref] => missingTest ctx negated ref
  | .isNullOrWhiteSpace, _, [.field ref] => missingTest ctx negated ref
  | method, _, _ => throw (.unsupported method.name)

/-- A predicate without connectives. -/
def leafTest (ctx : Context) (negated : Bool) : Expr → Build Test
  | .compare op lhs rhs => compareExprs ctx negated op lhs rhs
  | .field ref => truthTest ctx negated ref
  | .literal (.bool b) => return .constant (b != negated)
  | .call method target args => callTest ctx negated method target args
  | e => throw (.compile (.operand .filter e))

/-- The connective of the first sibling inside a conjunction or disjunction. A negation starts a
chain of its own. -/
def innerConnective (connective : Connective) (negated : Bool) : Connective :=
  if negated then .and else connective

/-- The chains of two operands one after the other; a negation closes them to one sibling. -/
def joinChains (connective : Connective) (negated : Bool) (left right : Chain) : Chain :=
  if negated then [(connective, .negation (left ++ right))] else left ++ right

/-- The siblings of a predicate; the first is joined by the given connective. -/
def chainOf (ctx : Context) (connective : Connective) (negated : Bool) : Expr → Build Chain
  | .and lhs rhs => do
      let left ← chainOf ctx (innerConnective connective negated) false lhs
      let right ← chainOf ctx .and false rhs
      return joinChains connective negated left right
  | .or lhs rhs => do
      let left ← chainOf ctx (innerConnective connective negated) false lhs
      let right ← chainOf ctx .or false rhs
      return joinChains connective negated left right
  | .not e => chainOf ctx connective (!negated) e
  | e => do
      let test ← leafTest ctx negated e
      return [(connective, .test test)]

/-- The piece of the WHERE part for a predicate. A chain with an OR is closed into one group if
another piece precedes or may follow. -/
def wherePiece (ctx : Context) (predicate : Expr) : Build WherePiece := do
  let chain ← chainOf ctx .and false predicate
  let scope ← get
  set { scope with whereOpen := true }
  let closed := hasOr chain && (scope.conjoined || scope.whereOpen)
  return ⟨!scope.whereOpen, if closed then grouped chain else chain⟩

end EntityQuery.Sql
