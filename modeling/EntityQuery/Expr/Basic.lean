import EntityQuery.Value.Basic

/-!
# Expressions

The expressions that clauses hold: predicates over fields, projections and assignments. An
expression is data; whether it makes a predicate is decided when it is compiled.
-/
namespace EntityQuery

/-- A field by its logical name. Without an entity it belongs to the root of the query. -/
structure FieldRef where
  entity : Option String
  name : String
  deriving DecidableEq, Repr, Inhabited

/-- The comparison operators. -/
inductive CompareOp where
  | eq
  | ne
  | lt
  | le
  | gt
  | ge
  deriving DecidableEq, Repr, Inhabited

/-- The methods of predicates. Any other name is kept, though no statement can express it. -/
inductive Method where
  | contains
  | any
  | startsWith
  | endsWith
  | isNullOrEmpty
  | isNullOrWhiteSpace
  | named (name : String)
  deriving DecidableEq, Repr, Inhabited

/-- An expression. -/
inductive Expr where
  | field (ref : FieldRef)
  | literal (value : Value)
  /-- Literal values, the left side of a membership test. -/
  | list (values : List Value)
  /-- Several fields, for projections. -/
  | fields (refs : List FieldRef)
  | compare (op : CompareOp) (lhs rhs : Expr)
  | and (lhs rhs : Expr)
  | or (lhs rhs : Expr)
  | not (operand : Expr)
  | call (method : Method) (target : Expr) (args : List Expr)
  /-- Fields with their new values. -/
  | assign (pairs : List (FieldRef × Expr))
  /-- Everything, the `*` of a count. -/
  | all
  deriving Repr, Inhabited

namespace CompareOp

/-- The operator in a statement. -/
def sql : CompareOp → String
  | .eq => "="
  | .ne => "<>"
  | .lt => "<"
  | .le => "<="
  | .gt => ">"
  | .ge => ">="

/-- The operator with its operands exchanged. -/
def swapped : CompareOp → CompareOp
  | .lt => .gt
  | .le => .ge
  | .gt => .lt
  | .ge => .le
  | op => op

@[simp] theorem swapped_swapped (op : CompareOp) : op.swapped.swapped = op := by
  cases op <;> rfl

end CompareOp

namespace Method

/-- The name of a method. -/
def name : Method → String
  | .contains => "Contains"
  | .any => "Any"
  | .startsWith => "StartsWith"
  | .endsWith => "EndsWith"
  | .isNullOrEmpty => "IsNullOrEmpty"
  | .isNullOrWhiteSpace => "IsNullOrWhiteSpace"
  | .named name => name

/-- The method of a name. -/
def ofName : String → Method
  | "Contains" => .contains
  | "Any" => .any
  | "StartsWith" => .startsWith
  | "EndsWith" => .endsWith
  | "IsNullOrEmpty" => .isNullOrEmpty
  | "IsNullOrWhiteSpace" => .isNullOrWhiteSpace
  | name => .named name

end Method

namespace Expr

/-- Whether an expression is a conjunction or a disjunction. -/
def isConnective : Expr → Bool
  | .and .. | .or .. => true
  | _ => false

end Expr

end EntityQuery
