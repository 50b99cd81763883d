import EntityQuery.Error.Basic
import EntityQuery.Sql.Condition
import EntityQuery.Value.Text

/-!
# Statements

A statement as a tree of its parts, and its text. The parts stand in a fixed order, separated by
single spaces: head, joins, SET, WHERE, ORDER BY, GROUP BY, LIMIT. A part that is asked for several
times comes in pieces, of which only the first carries the keyword.
-/
namespace EntityQuery.Sql

/-- What a statement does with the rows of the root's table. -/
inductive Head where
  /-- Selects columns; without columns, everything of the root. -/
  | select (columns : List Column)
  /-- Counts the rows, or those that have a value in a column. -/
  | count (column : Option Column)
  | update
  deriving Repr

/-- Keeps the rows of the root and adds those of another table that agree in paired columns. -/
structure Join where
  table : String
  /-- The alias of the table. -/
  qualifier : String
  pairs : List (Column × Column)
  deriving Repr

/-- A column with its new value. -/
structure Assignment where
  target : Column
  value : Operand
  deriving Repr

/-- One piece of the WHERE part. -/
structure WherePiece where
  opens : Bool
  chain : Chain
  deriving Repr

/-- One piece of the ORDER BY part. -/
structure OrderPiece where
  opens : Bool
  descending : Bool
  columns : List Column
  deriving Repr

/-- One piece of the GROUP BY part. -/
structure GroupPiece where
  opens : Bool
  columns : List Column
  deriving Repr

/-- A statement. -/
structure Statement where
  head : Head
  table : String
  /-- The alias of the table. -/
  qualifier : String
  joins : List Join
  assignments : Option (List Assignment)
  wherePieces : List WherePiece
  orderPieces : List OrderPiece
  groupPieces : List GroupPiece
  limit : Option Nat
  deriving Repr

/-- The texts of several items with commas between them. -/
def commas (items : List String) : String := ", ".intercalate items

/-- The first piece of a list opens it with a keyword; a later one goes on after a comma. -/
def listPiece (opens : Bool) (keyword : String) (items : List String) : String :=
  (if opens then keyword ++ " " else ", ") ++ commas items

def Head.kind : Head → StatementKind
  | .select _ => .select
  | .count _ => .count
  | .update => .update

/-- The projection of a selection under the alias of the root. -/
def selectText (qualifier : String) (columns : List Column) : String :=
  "SELECT " ++ if columns.isEmpty then qualifier ++ ".*" else commas (columns.map Column.text)

/-- The projection of a count. -/
def countText (column : Option Column) : String :=
  "SELECT COUNT(" ++ (match column with | none => "*" | some c => c.text) ++ ")"

def Join.text (join : Join) : String :=
  "LEFT JOIN " ++ join.table ++ " " ++ join.qualifier ++ " ON " ++
    " AND ".intercalate (join.pairs.map fun pair => pair.1.text ++ " = " ++ pair.2.text)

def Assignment.text (assignment : Assignment) : String :=
  assignment.target.text ++ " = " ++ assignment.value.text

/-- The SET part. -/
def assignmentsText (assignments : List Assignment) : String :=
  "SET " ++ commas (assignments.map Assignment.text)

def WherePiece.text (piece : WherePiece) : String :=
  (if piece.opens then "WHERE " else " AND ") ++ chainText piece.chain

def OrderPiece.text (piece : OrderPiece) : String :=
  listPiece piece.opens "ORDER BY"
    (piece.columns.map fun column => column.text ++ if piece.descending then " DESC" else "")

def GroupPiece.text (piece : GroupPiece) : String :=
  listPiece piece.opens "GROUP BY" (piece.columns.map Column.text)

/-- The LIMIT part. -/
def limitText (n : Nat) : String := "LIMIT " ++ Text.nat n

namespace Statement

/-- The root's table with its alias. -/
def source (s : Statement) : String := s.table ++ " " ++ s.qualifier

def headText (s : Statement) : String :=
  match s.head with
  | .select columns => selectText s.qualifier columns ++ " FROM " ++ s.source
  | .count column => countText column ++ " FROM " ++ s.source
  | .update => "UPDATE " ++ s.source

def whereText (s : Statement) : String := String.join (s.wherePieces.map WherePiece.text)

def orderText (s : Statement) : String := String.join (s.orderPieces.map OrderPiece.text)

def groupText (s : Statement) : String := String.join (s.groupPieces.map GroupPiece.text)

/-- The parts after the head, in order. A part that is not asked for is empty. -/
def parts (s : Statement) : List String :=
  s.joins.map Join.text ++ (s.assignments.map assignmentsText).toList ++
    [s.whereText, s.orderText, s.groupText] ++ (s.limit.map limitText).toList

/-- The text of a statement. -/
def text (s : Statement) : String :=
  s.headText ++ String.join ((s.parts.filter (!·.isEmpty)).map (" " ++ ·))

def kind (s : Statement) : StatementKind := s.head.kind

end Statement

end EntityQuery.Sql
