import EntityQuery.Proofs.Query.Collecting
import EntityQuery.Proofs.Sql.FragmentState
import EntityQuery.Query.Basic
import Mathlib.Data.List.Basic
import Mathlib.Data.List.DropRight
import Mathlib.Data.List.Induction

/-!
# Histories of queries

A query is declared and compiled in turns, any number of times. Each compilation uses up what has
been declared since the one before it, also if it fails, and nothing older comes back: from a
compilation on, a query compiles like a new one. What it includes stays, however, since the related
entities are listed apart from the clauses.
-/
namespace EntityQuery

/-- What can be declared on a query. -/
inductive Declaration where
  | filter (predicate : Expr)
  | orderBy (projection : Expr)
  | orderByDescending (projection : Expr)
  | groupBy (projection : Expr)
  | distinctBy (projection : Expr)
  | set (assignments : Expr)
  | take (n : UInt64)
  | count (projection : Expr)
  | including (target field : String) (constraints : List Clause)

namespace Declaration

/-- The query with one more declaration. -/
def addTo (q : Query) : Declaration → Query
  | .filter predicate => q.filter predicate
  | .orderBy projection => q.orderBy projection
  | .orderByDescending projection => q.orderByDescending projection
  | .groupBy projection => q.groupBy projection
  | .distinctBy projection => q.distinctBy projection
  | .set assignments => q.set assignments
  | .take n => q.take n
  | .count projection => q.count projection
  | .including target field constraints => q.including target field constraints

/-- The clause that is declared. -/
def clause : Declaration → Clause
  | .filter predicate => .of .filter predicate
  | .orderBy projection => .of .orderBy projection
  | .orderByDescending projection => .of .orderByDescending projection
  | .groupBy projection => .of .groupBy projection
  | .distinctBy projection => .of .distinctBy projection
  | .set assignments => .of .set assignments
  | .take n => .of .limit (.literal (.uint64 n))
  | .count projection => .of .count projection
  | .including _ field constraints => .reference field constraints

/-- The related entity that is included, if one is. -/
def include? : Declaration → Option Include
  | .including target field constraints => some ⟨target, .reference field constraints⟩
  | _ => none

/-- A declaration adds its clause, and what it includes. -/
theorem addTo_eq (q : Query) (declaration : Declaration) :
    declaration.addTo q = ⟨q.entity, q.clauses.push declaration.clause, q.lastCompiled,
      q.includes ++ declaration.include?.toList⟩ := by
  cases declaration with
  | including target field constraints => rfl
  | _ =>
    refine Eq.trans ?_ (congrArg (Query.mk _ _ _) (List.append_nil q.includes).symm)
    rfl

end Declaration

/-- A collection of the clauses that are declared. -/
def declaredClauses (declarations : List Declaration) : Clauses :=
  .ofList (declarations.map Declaration.clause)

/-- A step in the history of a query. -/
inductive Action where
  | declare (declaration : Declaration)
  | compile

namespace Action

def declaration? : Action → Option Declaration
  | .declare declaration => some declaration
  | .compile => none

end Action

/-- What is declared since the last compilation of a history, or since its start. -/
def pending (history : List Action) : List Declaration :=
  (history.rtakeWhile (·.declaration?.isSome)).filterMap Action.declaration?

/-- What is declared before the last compilation of a history. -/
def usedUp (history : List Action) : List Declaration :=
  (history.rdropWhile (·.declaration?.isSome)).filterMap Action.declaration?

/-- What is declared for each compilation of a history: since the one before it. -/
def segments (history : List Action) : List (List Declaration) :=
  history.zipIdx.filterMap fun entry =>
    match entry.1 with
    | .declare _ => none
    | .compile => some (pending (history.take entry.2))

theorem usedUp_append_pending (history : List Action) :
    usedUp history ++ pending history = history.filterMap Action.declaration? := by
  rw [usedUp, pending, ← List.filterMap_append, List.rdropWhile_append_rtakeWhile]

theorem pending_concat_declare (history : List Action) (declaration : Declaration) :
    pending (history ++ [.declare declaration]) = pending history ++ [declaration] := by
  simp [pending, Action.declaration?]

theorem pending_concat_compile (history : List Action) : pending (history ++ [.compile]) = [] := by
  simp [pending, Action.declaration?]

theorem segments_concat (history : List Action) (action : Action) :
    segments (history ++ [action]) = segments history ++
      match action with
      | .declare _ => []
      | .compile => [pending history] := by
  have hearlier : history.zipIdx.filterMap (fun entry =>
      match entry.1 with
      | .declare _ => none
      | .compile => some (pending ((history ++ [action]).take entry.2))) = segments history := by
    refine List.filterMap_congr fun entry hmem => ?_
    have hplace := List.mk_mem_zipIdx_iff_getElem?.1 hmem
    obtain ⟨hlt, -⟩ := List.getElem?_eq_some_iff.1 hplace
    rw [List.take_append_of_le_length (Nat.le_of_lt hlt)]
  rw [segments, List.zipIdx_append, List.filterMap_append, hearlier, Nat.zero_add]
  cases action with
  | declare declaration => rfl
  | compile => simp

namespace Query

/-- The query after a step. -/
def perform (registry : Registry) (q : Query) : Action → Query
  | .declare declaration => declaration.addTo q
  | .compile => (q.toSql registry).2

/-- The query after several steps. -/
def after (registry : Registry) (q : Query) (history : List Action) : Query :=
  history.foldl (perform registry) q

/-- What the compilations in a history result in, in order. -/
def compiled (registry : Registry) (q : Query) : List Action → List (Except QueryError SqlQuery)
  | [] => []
  | .declare declaration :: history => compiled registry (declaration.addTo q) history
  | .compile :: history => (q.toSql registry).1 :: compiled registry (q.toSql registry).2 history

variable {registry : Registry}

theorem after_append (registry : Registry) (q : Query) (earlier later : List Action) :
    q.after registry (earlier ++ later) = (q.after registry earlier).after registry later :=
  List.foldl_append

theorem after_concat (registry : Registry) (q : Query) (history : List Action) (action : Action) :
    q.after registry (history ++ [action]) = (q.after registry history).perform registry action :=
  q.after_append registry history [action]

theorem compiled_append (registry : Registry) (q : Query) (earlier later : List Action) :
    q.compiled registry (earlier ++ later) =
      q.compiled registry earlier ++ (q.after registry earlier).compiled registry later := by
  induction earlier generalizing q with
  | nil => rfl
  | cons action earlier ih =>
    cases action with
    | declare declaration => exact ih _
    | compile => exact congrArg ((q.toSql registry).1 :: ·) (ih _)

/-- A query is known from its history: it has the clauses declared since the last compilation, those
of the last compilation on record, and everything that was ever included. -/
theorem after_of (registry : Registry) (entity : String) (history : List Action) :
    (Query.of entity).after registry history =
      ⟨entity, declaredClauses (pending history),
        (segments history).getLast?.map declaredClauses,
        (history.filterMap Action.declaration?).filterMap Declaration.include?⟩ := by
  induction history using List.reverseRecOn with
  | nil => rfl
  | append_singleton history action ih =>
    rw [after_concat, ih, segments_concat, List.filterMap_append, List.filterMap_append]
    cases action with
    | declare declaration =>
      rw [perform, Declaration.addTo_eq, pending_concat_declare, List.append_nil, declaredClauses,
        declaredClauses, List.map_append, List.map_singleton, Clauses.ofList_concat]
      cases hinclude : declaration.include? <;> simp [Action.declaration?, hinclude]
    | compile =>
      rw [perform, toSql, pending_concat_compile]
      simp [Action.declaration?, declaredClauses, Clauses.ofList]

/-- The record of the last compilation stays while clauses are declared. -/
theorem lastCompiled_after_declarations (q : Query) (declarations : List Declaration) :
    (q.after registry (declarations.map .declare)).lastCompiled = q.lastCompiled := by
  induction declarations generalizing q with
  | nil => rfl
  | cons declaration declarations ih =>
    refine (ih _).trans ?_
    rw [perform, Declaration.addTo_eq]

/-- A history results in what its segments result in, each for itself. -/
theorem compiled_of (registry : Registry) (entity : String) (history : List Action) :
    (Query.of entity).compiled registry history =
      (segments history).map fun declarations =>
        Sql.compile registry entity (declaredClauses declarations) := by
  induction history using List.reverseRecOn with
  | nil => rfl
  | append_singleton history action ih =>
    rw [compiled_append, ih, segments_concat, List.map_append, after_of]
    cases action <;> rfl

/-- The results depend only on the entity and on the clauses at the start. -/
theorem compiled_congr {q q' : Query} (hentity : q.entity = q'.entity)
    (hclauses : q.clauses = q'.clauses) (history : List Action) :
    q.compiled registry history = q'.compiled registry history := by
  induction history generalizing q q' with
  | nil => rfl
  | cons action history ih =>
    cases action with
    | declare declaration =>
      apply ih
      · rw [Declaration.addTo_eq, Declaration.addTo_eq, hentity]
      · rw [Declaration.addTo_eq, Declaration.addTo_eq, hclauses]
    | compile =>
      rw [compiled, compiled, toSql, toSql, hentity, hclauses]
      exact congrArg (_ :: ·) (ih rfl rfl)

end Query

namespace Sql

/-- The selection of everything of an entity: without clauses and parameters. -/
def bareSelection (schema : Schema) : SqlQuery where
  sql := "SELECT " ++
    (if schema.storedFields.isEmpty then "a.*"
      else ", ".intercalate (schema.storedFields.map fun field => "a." ++ field.column)) ++
    " FROM " ++ schema.table ++ " a"
  params := .empty
  table := schema.table
  kind := .select

/-- The statement that selects everything of an entity. -/
def bareStatement (schema : Schema) : Statement where
  head := .select (selectedColumns schema)
  table := schema.table
  qualifier := Aliases.primary
  joins := []
  assignments := none
  wherePieces := []
  orderPieces := []
  groupPieces := []
  limit := none

theorem text_bareStatement (schema : Schema) :
    (bareStatement schema).text = (bareSelection schema).sql := by
  have hparts : (bareStatement schema).parts.filter (!·.isEmpty) = [] := by rfl
  have hcolumns : (selectedColumns schema).map Column.text =
      schema.storedFields.map fun field => "a." ++ field.column := by
    rw [selectedColumns, List.map_map, Aliases.primary_eq]
    rfl
  have hnone : (selectedColumns schema).isEmpty = schema.storedFields.isEmpty := List.isEmpty_map
  have hhead : (bareStatement schema).headText =
      selectText "a" (selectedColumns schema) ++ " FROM " ++ (schema.table ++ " " ++ "a") := by
    rw [← Aliases.primary_eq]
    rfl
  rw [Statement.text, hparts, hhead, selectText, hnone, hcolumns]
  simp [bareSelection, commas, String.append_assoc]

/-- Without clauses, everything of the entity is selected. -/
theorem compile_empty (registry : Registry) (root : String) :
    compile registry root .empty = (registry.get root).map bareSelection := by
  rw [compile, plan, Context.of]
  cases registry.get root with
  | error e => rfl
  | ok schema =>
    show Except.ok (queryOf (bareStatement schema) .empty) = Except.ok (bareSelection schema)
    rw [queryOf, text_bareStatement]
    rfl

end Sql

namespace Query

/-- After any history, compiling a query gives what its clauses give that were declared since the
last compilation, leaves no clause, and puts these clauses on record until the next compilation. So
the results in a history are those of its segments, each for itself, whether they succeed or fail.
From a compilation on, whatever was declared before it, a query compiles like a new one, and with
nothing declared in between it selects everything of its entity. -/
theorem compiled_of_history (registry : Registry) (entity : String) (history : List Action) :
    let q := (Query.of entity).after registry history
    (q.toSql registry).1 = Sql.compile registry entity (declaredClauses (pending history)) ∧
    (q.toSql registry).2.clauses = .empty ∧
    (∀ declarations : List Declaration,
      ((q.toSql registry).2.after registry (declarations.map .declare)).lastCompiled =
        some (declaredClauses (pending history))) ∧
    (Query.of entity).compiled registry history =
      (segments history).map (fun declarations =>
        Sql.compile registry entity (declaredClauses declarations)) ∧
    (∀ later, (Query.of entity).compiled registry (history ++ .compile :: later) =
      (Query.of entity).compiled registry (history ++ [.compile]) ++
        (Query.of entity).compiled registry later) ∧
    ((q.toSql registry).2.toSql registry).1 =
      (registry.get entity).map Sql.bareSelection := by
  intro q
  have hq : q = _ := after_of registry entity history
  have hcompile : (q.toSql registry).1 =
      Sql.compile registry entity (declaredClauses (pending history)) := by
    rw [hq]
    rfl
  refine ⟨hcompile, rfl, fun declarations => ?_, ?_, fun later => ?_, ?_⟩
  · rw [lastCompiled_after_declarations, hq]
    rfl
  · exact compiled_of registry entity history
  · have hlike : (q.toSql registry).2.compiled registry later =
        (Query.of entity).compiled registry later := by
      apply compiled_congr
      · rw [hq]
        rfl
      · rfl
    rw [compiled_append, compiled_append, List.append_assoc, ← hlike]
    rfl
  · rw [← Sql.compile_empty, hq]
    rfl

end Query

end EntityQuery
