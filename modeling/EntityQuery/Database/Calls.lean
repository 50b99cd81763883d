import EntityQuery.Schema.Row
import EntityQuery.Sql.Query

/-!
# Calls of an executor

An executor is known only by what it answers, and an answer may depend on all calls that were made
before. A session records the calls in order. Lookups that run together are called in order. They
give their rows by position if all of them succeed, and fail if any of them fails. Which failure is
reported then, and how many of them were called by that time, is left open.
-/
namespace EntityQuery

/-- How an executor is called. -/
inductive CallMode where
  | blocking
  | concurrent
  deriving DecidableEq, Repr, Inhabited

/-- What an executor is asked for: the rows of a query, or the number of rows that it changes. -/
inductive EntryPoint where
  | query
  | execute
  deriving DecidableEq, Repr, Inhabited

/-- A call of an executor. -/
structure Call where
  mode : CallMode
  entry : EntryPoint
  query : SqlQuery
  deriving Repr, Inhabited

/-- An executor: its answers, given the calls made before. -/
structure Executor where
  rows : List Call → CallMode → SqlQuery → Except QueryError (List Row)
  changed : List Call → CallMode → SqlQuery → Except QueryError UInt64

/-- A computation that calls an executor. -/
abbrev Session (α : Type) := ExceptT QueryError (StateM (List Call)) α

/-- A step that calls no executor. -/
def Session.ofExcept {α : Type} (x : Except QueryError α) : Session α := ExceptT.mk (pure x)

/-- Runs a session after some calls. -/
def Session.runAfter {α : Type} (session : Session α) (calls : List Call) :
    Except QueryError α × List Call :=
  session.run.run calls

namespace Executor

/-- Asks for the rows of a query. -/
def fetch (executor : Executor) (mode : CallMode) (query : SqlQuery) : Session (List Row) := do
  let calls ← get
  set (calls ++ [(⟨mode, .query, query⟩ : Call)])
  Session.ofExcept (executor.rows calls mode query)

/-- Asks for the number of rows that a query changes. -/
def change (executor : Executor) (mode : CallMode) (query : SqlQuery) : Session UInt64 := do
  let calls ← get
  set (calls ++ [(⟨mode, .execute, query⟩ : Call)])
  Session.ofExcept (executor.changed calls mode query)

/-- The rows of a lookup. Without a query there are none, and the executor is not called. -/
def fetchOptional (executor : Executor) (mode : CallMode) : Option SqlQuery → Session (List Row)
  | none => return []
  | some query => executor.fetch mode query

/-- Calls several lookups in order, and gives the answer of each. -/
def fetchEach (executor : Executor) :
    List (Option SqlQuery) → StateM (List Call) (List (Except QueryError (List Row)))
  | [] => return []
  | query :: queries => do
      let answer ← (executor.fetchOptional .concurrent query).run
      let answers ← fetchEach executor queries
      return answer :: answers

end Executor

/-- How lookups that run together are done, given what each of them answers if it is called. -/
structure Completion where
  /-- The outcome of the group. -/
  gather : List (Except QueryError (List Row)) → Except QueryError (List (List Row))
  /-- How many of the lookups, from the first on, are called before the outcome is known. -/
  started : List (Except QueryError (List Row)) → Nat
  /-- The rows of all lookups by position, if each of them succeeds; a failure otherwise. -/
  gather_eq_ok_iff : ∀ answers rows, gather answers = .ok rows ↔ answers = rows.map .ok
  /-- A group that succeeds has called all lookups. -/
  started_of_ok : ∀ answers rows, gather answers = .ok rows → answers.length ≤ started answers

/-- All answers succeed if and only if each does. -/
theorem mapM_id_eq_ok_iff {ε α : Type} {answers : List (Except ε α)} {xs : List α} :
    answers.mapM id = .ok xs ↔ answers = xs.map .ok := by
  induction answers generalizing xs with
  | nil => cases xs <;> simp [pure, Except.pure]
  | cons answer answers ih =>
      rw [List.mapM_cons]
      rcases answer with e | x
      · cases xs <;> simp [bind, Except.bind]
      · rcases xs with _ | ⟨y, ys⟩
        · cases answers.mapM id <;> simp [bind, Except.bind, pure, Except.pure]
        · rw [List.map_cons, List.cons.injEq, ← ih]
          cases answers.mapM id <;> simp [bind, Except.bind, pure, Except.pure]

/-- All lookups are called before the first of them is done, and they are done in order. -/
def Completion.inOrder : Completion where
  gather answers := answers.mapM id
  started answers := answers.length
  gather_eq_ok_iff _ _ := mapM_id_eq_ok_iff
  started_of_ok _ _ _ := Nat.le_refl _

/-- All lookups are called before the first of them is done, and the last is done first. -/
def Completion.lastFirst : Completion where
  gather answers := (answers.reverse.mapM id).map List.reverse
  started answers := answers.length
  gather_eq_ok_iff answers rows := by
    have hmap : ∀ x : Except QueryError (List (List Row)),
        x.map List.reverse = .ok rows ↔ x = .ok rows.reverse := by
      rintro (e | xs)
      · simp [Except.map]
      · simp [Except.map, List.reverse_eq_iff]
    rw [hmap, mapM_id_eq_ok_iff, List.map_reverse, List.reverse_inj]
  started_of_ok _ _ _ := Nat.le_refl _

/-- The rows of several lookups that run together. -/
def Executor.fetchAll (executor : Executor) (completion : Completion)
    (queries : List (Option SqlQuery)) : Session (List (List Row)) := do
  let answers := ((executor.fetchEach queries).run (← get)).1
  -- The answers of the first lookups do not depend on whether the later ones are called.
  let _ ← executor.fetchEach (queries.take (completion.started answers))
  Session.ofExcept (completion.gather answers)

end EntityQuery
