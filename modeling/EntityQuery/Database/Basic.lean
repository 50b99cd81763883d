import EntityQuery.Database.Calls
import EntityQuery.Reference.Attach

/-!
# Databases

A database is a registry with an executor. On it, related entities are loaded onto items that were
fetched elsewhere.
-/
namespace EntityQuery

/-- A registry with an executor. -/
structure Database where
  registry : Registry
  executor : Executor

namespace Database

/-- A database without schemas. -/
def ofExecutor (executor : Executor) : Database := ⟨.empty, executor⟩

/-- Adds the schema of an entity type under the name of the type. -/
def register (db : Database) (name : String) (schema : Schema) : Database :=
  { db with registry := db.registry.register name schema }

variable (M : Model)

/-- The field readers of items. -/
def readers {source : String} (items : List (M.Item source)) : List FieldReader :=
  items.map fun item => M.field? item

/-- Loads what a reference clause asks for onto items, with one lookup. The items are touched only
after all rows have been read. -/
def resolve (db : Database) (mode : CallMode) {source : String} (target : String) (node : Clause)
    (items : List (M.Item source)) : StateM (List Call) (Attached (M.Item source)) := do
  match PreparedLookup.of db.registry source target node (readers M items) with
  | .error e => return (.error e, items)
  | .ok prepared =>
      match ← (db.executor.fetchOptional mode prepared.query).run with
      | .error e => return (.error e, items)
      | .ok rows => return prepared.lookup.attach M db.registry target rows items

section

variable {db : Database} {mode : CallMode} {source target : String} {node : Clause}
  {items : List (M.Item source)} {calls later : List Call} {e : QueryError}

theorem run_resolve_of_prepare_error
    (h : PreparedLookup.of db.registry source target node (readers M items) = .error e) :
    (db.resolve M mode target node items).run calls = ((.error e, items), calls) := by
  rw [resolve, h]
  rfl

variable {prepared : PreparedLookup}

theorem run_resolve_of_fetch_error
    (hprepared : PreparedLookup.of db.registry source target node (readers M items) = .ok prepared)
    (h : (db.executor.fetchOptional mode prepared.query).runAfter calls = (.error e, later)) :
    (db.resolve M mode target node items).run calls = ((.error e, items), later) := by
  have hrun : (db.executor.fetchOptional mode prepared.query).run.run calls = (.error e, later) := h
  rw [resolve, hprepared]
  dsimp only
  rw [StateT.run_bind, hrun]
  rfl

theorem run_resolve_of_fetch {rows : List Row}
    (hprepared : PreparedLookup.of db.registry source target node (readers M items) = .ok prepared)
    (h : (db.executor.fetchOptional mode prepared.query).runAfter calls = (.ok rows, later)) :
    (db.resolve M mode target node items).run calls =
      (prepared.lookup.attach M db.registry target rows items, later) := by
  have hrun : (db.executor.fetchOptional mode prepared.query).run.run calls = (.ok rows, later) := h
  rw [resolve, hprepared]
  dsimp only
  rw [StateT.run_bind, hrun]
  rfl

end

end Database

end EntityQuery
