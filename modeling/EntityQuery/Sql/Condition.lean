import EntityQuery.Expr.Basic

/-!
# Conditions

The conditions of a statement. A condition is a chain of siblings, each between parentheses and
joined to the one before it by AND or OR. The chain is read by the precedence of the connectives,
AND before OR; a group or a negation closes a chain of its own.
-/
namespace EntityQuery.Sql

/-- A column, qualified by the alias of its table. -/
structure Column where
  qualifier : String
  name : String
  deriving DecidableEq, Repr, Inhabited

/-- The right side of a comparison. -/
inductive Operand where
  | column (column : Column)
  | parameter (name : String)
  deriving DecidableEq, Repr

/-- A test without connectives. -/
inductive Test where
  | compare (lhs : Column) (op : CompareOp) (rhs : Operand)
  /-- A comparison that must not hold. -/
  | notCompare (lhs : Column) (op : CompareOp) (rhs : Operand)
  | isNull (column : Column)
  | isNotNull (column : Column)
  /-- The parameter is a comma-separated list that has the column as an item, or has not. -/
  | inList (negated : Bool) (column : Column) (list : String)
  /-- The parameter is a pattern that the column matches, or does not. -/
  | like (negated : Bool) (column : Column) (pattern : String)
  /-- A test that always holds, or never. -/
  | constant (holds : Bool)
  deriving DecidableEq, Repr

/-- What joins a sibling of a chain to the one before it. -/
inductive Connective where
  | and
  | or
  deriving DecidableEq, Repr, Inhabited

/-- A condition. The connective of the first sibling of a chain has no meaning. -/
inductive Condition where
  | test (test : Test)
  | negation (chain : List (Connective × Condition))
  | group (chain : List (Connective × Condition))
  deriving Repr

/-- Siblings with the connectives that join them. -/
abbrev Chain := List (Connective × Condition)

def Column.text (column : Column) : String := column.qualifier ++ "." ++ column.name

def Operand.text : Operand → String
  | .column c => c.text
  | .parameter name => name

def Connective.text : Connective → String
  | .and => "AND"
  | .or => "OR"

/-- A comparison as text. -/
def comparisonText (lhs : Column) (op : CompareOp) (rhs : Operand) : String :=
  lhs.text ++ " " ++ op.sql ++ " " ++ rhs.text

/-- The word that negates a test, with the space after it. -/
def negationText (negated : Bool) : String := if negated then "NOT " else ""

def Test.text : Test → String
  | .compare lhs op rhs => comparisonText lhs op rhs
  | .notCompare lhs op rhs => "NOT (" ++ comparisonText lhs op rhs ++ ")"
  | .isNull column => column.text ++ " IS NULL"
  | .isNotNull column => column.text ++ " IS NOT NULL"
  | .inList negated column list =>
      negationText negated ++ "FIND_IN_SET(" ++ column.text ++ ", " ++ list ++ ")"
  | .like negated column pattern =>
      column.text ++ " " ++ negationText negated ++ "LIKE " ++ pattern
  | .constant holds => if holds then "1 = 1" else "1 = 0"

mutual

def Condition.text : Condition → String
  | .test test => test.text
  | .negation chain => "NOT (" ++ chainText chain ++ ")"
  | .group chain => chainText chain

/-- A chain as text: siblings between parentheses, with connectives between them. -/
def chainText : Chain → String
  | [] => ""
  | (_, condition) :: rest => "(" ++ condition.text ++ ")" ++ restText rest

/-- The siblings after the first, each with its connective. -/
def restText : Chain → String
  | [] => ""
  | (connective, condition) :: rest =>
      " " ++ connective.text ++ " (" ++ condition.text ++ ")" ++ restText rest

end

/-- Whether a chain has an OR between two siblings. -/
def hasOr (chain : Chain) : Bool := (chain.drop 1).any (·.1 = .or)

/-- The chain as a single sibling. -/
def grouped (chain : Chain) : Chain := [(.and, .group chain)]

end EntityQuery.Sql
