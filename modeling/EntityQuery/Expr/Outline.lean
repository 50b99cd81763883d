import EntityQuery.Expr.Basic
import EntityQuery.Value.Text

/-!
# Outlines of expressions

The outline of an expression shows its whole structure on one line. Error messages quote it.
-/
namespace EntityQuery

open Text (outlineOf outlineList)

/-- The outline of named parts between braces. -/
def Text.outlineRecord (name : String) (parts : List (String × String)) : String :=
  name ++ " \x7b " ++ ", ".intercalate (parts.map fun part => part.1 ++ ": " ++ part.2) ++ " \x7d"

/-- The outline of something that may be missing. -/
def Text.outlineOption : Option String → String
  | none => "None"
  | some s => outlineOf "Some" s

def FieldRef.outline (ref : FieldRef) : String :=
  Text.outlineRecord "FieldRef"
    [("entity", Text.outlineOption (ref.entity.map Text.outline)), ("name", Text.outline ref.name)]

def CompareOp.outline : CompareOp → String
  | .eq => "Eq"
  | .ne => "Neq"
  | .lt => "Lt"
  | .le => "Lte"
  | .gt => "Gt"
  | .ge => "Gte"

def Method.outline : Method → String
  | .named name => outlineOf "Named" (Text.outline name)
  | method => method.name

mutual

/-- The outline of an expression. -/
def Expr.outline : Expr → String
  | .field ref => outlineOf "Field" ref.outline
  | .literal value => outlineOf "Literal" value.outline
  | .list values => outlineOf "List" (outlineList (values.map Value.outline))
  | .fields refs => outlineOf "Fields" (outlineList (refs.map FieldRef.outline))
  | .compare op lhs rhs =>
      Text.outlineRecord "Compare" [("op", op.outline), ("lhs", lhs.outline), ("rhs", rhs.outline)]
  | .and lhs rhs => outlineOf "And" (lhs.outline ++ ", " ++ rhs.outline)
  | .or lhs rhs => outlineOf "Or" (lhs.outline ++ ", " ++ rhs.outline)
  | .not operand => outlineOf "Not" operand.outline
  | .call method target args =>
      Text.outlineRecord "Call"
        [("method", method.outline), ("target", target.outline),
         ("args", outlineList (Expr.outlines args))]
  | .assign pairs => outlineOf "Assign" (outlineList (Expr.pairOutlines pairs))
  | .all => "All"

/-- The outlines of several expressions. -/
def Expr.outlines : List Expr → List String
  | [] => []
  | e :: es => e.outline :: Expr.outlines es

/-- The outlines of fields with their new values. -/
def Expr.pairOutlines : List (FieldRef × Expr) → List String
  | [] => []
  | (ref, e) :: pairs => ("(" ++ ref.outline ++ ", " ++ e.outline ++ ")") :: Expr.pairOutlines pairs

end

end EntityQuery
