import EntityQuery.Expr.Basic

/-!
# Building expressions

Constructors that state a predicate the way it is said. What a value, a field reference or a truth
value means where an expression is expected is given by coercions.
-/
namespace EntityQuery

instance : Coe FieldRef Expr := ⟨.field⟩

instance : Coe Value Expr := ⟨.literal⟩

/-- A field of the root. -/
def FieldRef.ofRoot (name : String) : FieldRef := ⟨none, name⟩

namespace Expr

/-- A field of the root as an expression. -/
def rootField (name : String) : Expr := .field (.ofRoot name)

/-- A field of a named entity as an expression. -/
def fieldOf (entity name : String) : Expr := .field ⟨some entity, name⟩

/-- Several fields of the root. -/
def rootFields (names : List String) : Expr := .fields (names.map .ofRoot)

/-- New values for fields of the root. -/
def assignRoot (pairs : List (String × Expr)) : Expr :=
  .assign (pairs.map fun pair => (.ofRoot pair.1, pair.2))

def eq (lhs rhs : Expr) : Expr := .compare .eq lhs rhs

def ne (lhs rhs : Expr) : Expr := .compare .ne lhs rhs

def lt (lhs rhs : Expr) : Expr := .compare .lt lhs rhs

def le (lhs rhs : Expr) : Expr := .compare .le lhs rhs

def gt (lhs rhs : Expr) : Expr := .compare .gt lhs rhs

def ge (lhs rhs : Expr) : Expr := .compare .ge lhs rhs

/-- The target has the argument as a part. -/
def contains (target arg : Expr) : Expr := .call .contains target [arg]

def startsWith (target arg : Expr) : Expr := .call .startsWith target [arg]

def endsWith (target arg : Expr) : Expr := .call .endsWith target [arg]

/-- The field is one of the values. -/
def any (values field : Expr) : Expr := .call .any values [field]

/-- The field is one of the values; the same test as `any`, under the name of containment. -/
def inList (values field : Expr) : Expr := .call .contains values [field]

def isNullOrEmpty (target : Expr) : Expr := .call .isNullOrEmpty target []

def isNullOrWhiteSpace (target : Expr) : Expr := .call .isNullOrWhiteSpace target []

/-- A call of the method with a given name. -/
def method (target : Expr) (name : String) (args : List Expr) : Expr :=
  .call (Method.ofName name) target args

/-- Joins a nonempty list of expressions, grouping to the left. -/
def join? (op : Expr → Expr → Expr) : List Expr → Option Expr
  | [] => none
  | e :: es => some (es.foldl op e)

/-- The conjunction of a nonempty list. -/
def allOf? (es : List Expr) : Option Expr := join? .and es

/-- The disjunction of a nonempty list. -/
def anyOf? (es : List Expr) : Option Expr := join? .or es

end Expr

end EntityQuery
