import EntityQuery.Expr.Build

/-!
# Clauses

A query is an ordered collection of clauses. Predicates and references accumulate; of every other
kind there is at most one clause, and a later one takes the place of the earlier.
-/
namespace EntityQuery

/-- What a clause does. `filter` is the WHERE clause; `reference` asks for a related entity. -/
inductive ClauseKind where
  | filter
  | orderBy
  | orderByDescending
  | set
  | groupBy
  | distinctBy
  | limit
  | count
  | reference
  deriving DecidableEq, Repr, Inhabited

namespace ClauseKind

/-- All kinds of clauses. -/
def all : List ClauseKind :=
  [.filter, .orderBy, .orderByDescending, .set, .groupBy, .distinctBy, .limit, .count, .reference]

/-- Whether a query holds at most one clause of this kind. -/
def isSingleton : ClauseKind → Bool
  | .filter | .reference => false
  | _ => true

/-- The name of a kind. -/
def name : ClauseKind → String
  | .filter => "Where"
  | .orderBy => "OrderBy"
  | .orderByDescending => "OrderByDescending"
  | .set => "Set"
  | .groupBy => "GroupBy"
  | .distinctBy => "DistinctBy"
  | .limit => "Limit"
  | .count => "Count"
  | .reference => "Reference"

/-- The words that a message uses for a kind. -/
def keyword : ClauseKind → String
  | .filter => "WHERE"
  | .orderBy | .orderByDescending => "ORDER BY"
  | .set => "SET"
  | .groupBy => "GROUP BY"
  | .distinctBy => "DISTINCT BY"
  | .limit => "LIMIT"
  | .count => "COUNT"
  | .reference => "REFERENCE"

end ClauseKind

/-- A clause: its kind, its expression, and for a reference the clauses that constrain the related
entities. -/
structure Clause where
  kind : ClauseKind
  expr : Expr
  children : List Clause
  deriving Repr, Inhabited

namespace Clause

/-- A clause without children. -/
def of (kind : ClauseKind) (expr : Expr) : Clause := ⟨kind, expr, []⟩

/-- A reference to the related entities in a navigation field of the root. -/
def reference (field : String) (children : List Clause) : Clause :=
  ⟨.reference, .rootField field, children⟩

end Clause

/-- The clauses of a query, in order. -/
structure Clauses where
  nodes : List Clause
  deriving Repr, Inhabited

namespace Clauses

def empty : Clauses := ⟨[]⟩

instance : EmptyCollection Clauses := ⟨empty⟩

/-- Puts a clause in the place of the first one of its kind, or at the end. -/
def replaceOrAppend (node : Clause) : List Clause → List Clause
  | [] => [node]
  | c :: cs => if c.kind = node.kind then node :: cs else c :: replaceOrAppend node cs

/-- Adds a clause. -/
def push (clauses : Clauses) (node : Clause) : Clauses :=
  if node.kind.isSingleton then ⟨replaceOrAppend node clauses.nodes⟩
  else ⟨clauses.nodes ++ [node]⟩

/-- Adds several clauses in turn. -/
def extend (clauses : Clauses) (nodes : List Clause) : Clauses := nodes.foldl push clauses

/-- Collects clauses in turn. -/
def ofList (nodes : List Clause) : Clauses := empty.extend nodes

/-- The clauses of one kind, in order. -/
def ofKind (clauses : Clauses) (kind : ClauseKind) : List Clause :=
  clauses.nodes.filter (·.kind = kind)

/-- The first clause of a kind. -/
def first? (clauses : Clauses) (kind : ClauseKind) : Option Clause :=
  clauses.nodes.find? (·.kind = kind)

/-- Whether there is a clause of a kind. -/
def has (clauses : Clauses) (kind : ClauseKind) : Bool := (clauses.first? kind).isSome

def size (clauses : Clauses) : Nat := clauses.nodes.length

def isEmpty (clauses : Clauses) : Bool := clauses.nodes.isEmpty

@[simp] theorem nodes_empty : empty.nodes = [] := rfl

@[simp] theorem extend_nil (clauses : Clauses) : clauses.extend [] = clauses := rfl

@[simp] theorem extend_cons (clauses : Clauses) (node : Clause) (nodes : List Clause) :
    clauses.extend (node :: nodes) = (clauses.push node).extend nodes := rfl

theorem extend_append (clauses : Clauses) (xs ys : List Clause) :
    clauses.extend (xs ++ ys) = (clauses.extend xs).extend ys := by
  simp [extend, List.foldl_append]

theorem push_of_isSingleton {node : Clause} (h : node.kind.isSingleton = true)
    (clauses : Clauses) : clauses.push node = ⟨replaceOrAppend node clauses.nodes⟩ := by
  simp [push, h]

theorem push_of_not_isSingleton {node : Clause} (h : node.kind.isSingleton = false)
    (clauses : Clauses) : clauses.push node = ⟨clauses.nodes ++ [node]⟩ := by
  simp [push, h]

/-- Clauses of other kinds stay as they are. -/
theorem filter_replaceOrAppend_of_ne {node : Clause} {kind : ClauseKind} (h : node.kind ≠ kind)
    (nodes : List Clause) :
    (replaceOrAppend node nodes).filter (·.kind = kind) = nodes.filter (·.kind = kind) := by
  induction nodes with
  | nil => simp [replaceOrAppend, h]
  | cons c cs ih =>
      rw [replaceOrAppend]
      split
      · next same => simp [h, same ▸ h]
      · simp [List.filter_cons, ih]

theorem ofKind_push_of_ne {node : Clause} {kind : ClauseKind} (h : node.kind ≠ kind)
    (clauses : Clauses) : (clauses.push node).ofKind kind = clauses.ofKind kind := by
  cases hs : node.kind.isSingleton
  · simp [push_of_not_isSingleton hs, ofKind, h]
  · rw [push_of_isSingleton hs]
    exact filter_replaceOrAppend_of_ne h clauses.nodes

/-- Predicates and references accumulate. -/
theorem ofKind_push_self {node : Clause} (h : node.kind.isSingleton = false) (clauses : Clauses) :
    (clauses.push node).ofKind node.kind = clauses.ofKind node.kind ++ [node] := by
  simp [push_of_not_isSingleton h, ofKind]

/-- A clause takes the place of the first one of its kind. -/
theorem find?_replaceOrAppend (node : Clause) (nodes : List Clause) :
    (replaceOrAppend node nodes).find? (·.kind = node.kind) = some node := by
  induction nodes with
  | nil => simp [replaceOrAppend]
  | cons c cs ih =>
      rw [replaceOrAppend]
      split
      · simp
      · next differ => simp [differ, ih]

theorem first?_push_self {node : Clause} (h : node.kind.isSingleton = true) (clauses : Clauses) :
    (clauses.push node).first? node.kind = some node := by
  rw [push_of_isSingleton h]
  exact find?_replaceOrAppend node clauses.nodes

/-- The clauses of a kind stay as they are if none of the kind is added. -/
theorem ofKind_extend_of_ne {kind : ClauseKind} {nodes : List Clause}
    (h : ∀ node ∈ nodes, node.kind ≠ kind) (clauses : Clauses) :
    (clauses.extend nodes).ofKind kind = clauses.ofKind kind := by
  induction nodes generalizing clauses with
  | nil => rfl
  | cons node nodes ih =>
      obtain ⟨hnode, hnodes⟩ := List.forall_mem_cons.1 h
      rw [extend_cons, ih hnodes, ofKind_push_of_ne hnode]

/-- Clauses of a kind that accumulates are added at the end. -/
theorem ofKind_extend {kind : ClauseKind} (h : kind.isSingleton = false) (clauses : Clauses)
    (nodes : List Clause) : (clauses.extend nodes).ofKind kind =
      clauses.ofKind kind ++ nodes.filter (·.kind = kind) := by
  induction nodes generalizing clauses with
  | nil => simp
  | cons node nodes ih =>
      rw [extend_cons, ih, List.filter_cons]
      by_cases hkind : node.kind = kind
      · subst hkind
        rw [ofKind_push_self h]
        simp
      · rw [ofKind_push_of_ne hkind]
        simp [hkind]

theorem first?_eq_head? (clauses : Clauses) (kind : ClauseKind) :
    clauses.first? kind = (clauses.ofKind kind).head? := by
  rw [first?, ofKind, List.head?_filter]

end Clauses

end EntityQuery
