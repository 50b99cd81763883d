import EntityQuery.Query.Basic

/-!
# Running queries

A query runs on a database, for rows, for a count, or for an update. Related entities are loaded
after the rows: in turn, or in the concurrent mode all together.
-/
namespace EntityQuery.Query

/-- The instances of an entity that rows hold. -/
def ofRows (M : Model) (entity : String) (schema : Schema) :
    List Row → Except QueryError (List (M.Item entity))
  | [] => .ok []
  | row :: rows => do
      let item ← M.ofRow entity row schema
      let items ← ofRows M entity schema rows
      return item :: items

/-- The instances of a known entity that rows hold. -/
def materialize (M : Model) (registry : Registry) (entity : String) (rows : List Row) :
    Except QueryError (List (M.Item entity)) := do
  let schema ← registry.get entity
  ofRows M entity schema rows

/-- The number in the first column of the first row. -/
def countOf (rows : List Row) : Except QueryError UInt64 :=
  match rows.head?.bind (·.columns.head?) with
  | none => .error .notFound
  | some (_, value) =>
      match value.toInt?.bind fun n => FieldType.uint64.ofInt? n with
      | some (.uint64 n) => .ok n
      | _ => .error (.mapping (.countValue value))

/-- The items that a query selects, before anything related is loaded. -/
def selected (M : Model) (db : Database) (mode : CallMode) (q : Query) :
    Session (List (M.Item q.entity)) := do
  let query ← Session.ofExcept (q.compileAs db.registry .select)
  let rows ← db.executor.fetch mode query
  Session.ofExcept (materialize M db.registry q.entity rows)

/-- Loads related entities in turn, up to the first failure. -/
def loadInTurn (M : Model) (db : Database) {entity : String} :
    List Include → List (M.Item entity) → Session (List (M.Item entity))
  | [], items => return items
  | related :: rest, items => do
      let (result, items) ← db.resolve M .blocking related.target related.node items
      Session.ofExcept result
      loadInTurn M db rest items

/-- Prepares the lookups of several related entities. -/
def prepareAll (registry : Registry) (entity : String) (items : List FieldReader) :
    List Include → Except QueryError (List PreparedLookup)
  | [] => .ok []
  | related :: rest => do
      let first ← PreparedLookup.of registry entity related.target related.node items
      let prepared ← prepareAll registry entity items rest
      return first :: prepared

/-- Attaches the rows of several lookups in turn, up to the first failure. -/
def attachAll (M : Model) (registry : Registry) {entity : String} :
    List (Include × PreparedLookup × List Row) → List (M.Item entity) →
      Except QueryError (List (M.Item entity))
  | [], items => .ok items
  | (related, prepared, rows) :: rest, items => do
      let (result, items) := prepared.lookup.attach M registry related.target rows items
      result
      attachAll M registry rest items

/-- Loads related entities together: every lookup is prepared before the first one starts, and the
rows are attached once all have arrived. -/
def loadTogether (M : Model) (db : Database) (completion : Completion) {entity : String}
    (includes : List Include) (items : List (M.Item entity)) : Session (List (M.Item entity)) := do
  let prepared ← Session.ofExcept
    (prepareAll db.registry entity (Database.readers M items) includes)
  let rows ← db.executor.fetchAll completion (prepared.map (·.query))
  Session.ofExcept (attachAll M db.registry (includes.zip (prepared.zip rows)) items)

/-- The items that a query selects, with what it includes, loaded in turn. -/
def all (M : Model) (db : Database) (q : Query) : Session (List (M.Item q.entity)) := do
  loadInTurn M db q.includes (← q.selected M db .blocking)

/-- The items that a query selects, with what it includes, loaded together. -/
def allConcurrently (M : Model) (db : Database) (completion : Completion) (q : Query) :
    Session (List (M.Item q.entity)) := do
  loadTogether M db completion q.includes (← q.selected M db .concurrent)

/-- The first item, if there is one. -/
def first (M : Model) (db : Database) (q : Query) : Session (Option (M.Item q.entity)) := do
  return (← (q.take 1).all M db).head?

/-- The first item, if there is one, with what it includes loaded together. -/
def firstConcurrently (M : Model) (db : Database) (completion : Completion) (q : Query) :
    Session (Option (M.Item q.entity)) := do
  return (← (q.take 1).allConcurrently M db completion).head?

/-- The number that the query counts, or else the number of rows. -/
def countRows (db : Database) (mode : CallMode) (q : Query) : Session UInt64 := do
  let query ← Session.ofExcept (q.ensureCount.compileAs db.registry .count)
  let rows ← db.executor.fetch mode query
  Session.ofExcept (countOf rows)

/-- Runs the assignments of a query, and gives the number of rows that it changes. -/
def update (db : Database) (mode : CallMode) (q : Query) : Session UInt64 := do
  if !q.clauses.has .set then throw (.compile .missingSet)
  let query ← Session.ofExcept (q.compileAs db.registry .update)
  db.executor.change mode query

end EntityQuery.Query
