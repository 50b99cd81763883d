import EntityQuery.Database.Calls
import Mathlib.Data.List.Basic

/-!
# Sessions

What a session returns and which calls it makes, step by step. Lookups that run together succeed if
and only if each of them does when they are called in order; with an executor that answers by the
query alone, they return what they return one by one.
-/
namespace EntityQuery

namespace Session

variable {α β : Type}

@[simp] theorem runAfter_ofExcept (x : Except QueryError α) (calls : List Call) :
    (Session.ofExcept x).runAfter calls = (x, calls) := rfl

/-- Nothing is called after a step that fails. -/
theorem runAfter_bind (session : Session α) (next : α → Session β) (calls : List Call) :
    (session >>= next).runAfter calls =
      match session.runAfter calls with
      | (.ok x, later) => (next x).runAfter later
      | (.error e, later) => (.error e, later) := by
  show (ExceptT.bindCont next (session.runAfter calls).1) (session.runAfter calls).2 = _
  rcases session.runAfter calls with ⟨e | x, later⟩ <;> rfl

/-- Two steps succeed in turn if the first does and the second does after its calls. -/
theorem runAfter_bind_eq_ok {session : Session α} {next : α → Session β}
    {calls later : List Call} {y : β} :
    (session >>= next).runAfter calls = (.ok y, later) ↔
      ∃ x between, session.runAfter calls = (.ok x, between) ∧
        (next x).runAfter between = (.ok y, later) := by
  rw [runAfter_bind]
  rcases session.runAfter calls with ⟨e | x, between⟩
  · constructor
    · intro h
      cases h
    · rintro ⟨x, between', h, -⟩
      cases h
  · constructor
    · exact fun h => ⟨x, between, rfl, h⟩
    · rintro ⟨x', between', h, hnext⟩
      cases h
      exact hnext

theorem runAfter_ofExcept_eq_ok {x : Except QueryError α} {y : α} {calls later : List Call} :
    (Session.ofExcept x).runAfter calls = (.ok y, later) ↔ x = .ok y ∧ calls = later := by
  rw [runAfter_ofExcept, Prod.mk.injEq]

/-- A part that cannot fail is run for its result. -/
theorem runAfter_lift_bind (part : StateM (List Call) α) (next : α → Session β)
    (calls : List Call) :
    (((part : Session α) >>= next) : Session β).runAfter calls =
      (next (part.run calls).1).runAfter (part.run calls).2 := rfl

/-- Whether a session succeeds, with a result and calls that pass a test. -/
def succeedsWith (session : Session α) (calls : List Call) (test : α → List Call → Bool) : Bool :=
  match session.runAfter calls with
  | (.ok x, later) => test x later
  | (.error _, _) => false

theorem exists_of_succeedsWith {session : Session α} {calls : List Call}
    {test : α → List Call → Bool} (h : session.succeedsWith calls test = true) :
    ∃ x later, session.runAfter calls = (.ok x, later) ∧ test x later = true := by
  unfold succeedsWith at h
  rcases hrun : session.runAfter calls with ⟨e | x, later⟩
  · simp [hrun] at h
  · rw [hrun] at h
    exact ⟨x, later, rfl, h⟩

end Session

/-- The executor answers by the query alone, however and whenever it is called. -/
def Executor.AnswersByQuery (executor : Executor)
    (answer : SqlQuery → Except QueryError (List Row)) : Prop :=
  ∀ calls mode query, executor.rows calls mode query = answer query

/-- The rows of a lookup that may need no query. -/
def answerOptional (answer : SqlQuery → Except QueryError (List Row)) :
    Option SqlQuery → Except QueryError (List Row)
  | none => .ok []
  | some query => answer query

/-- The calls for some lookups, in order; a lookup without a query makes none. -/
def lookupCalls (mode : CallMode) (queries : List (Option SqlQuery)) : List Call :=
  (queries.filterMap id).map (Call.mk mode .query)

theorem lookupCalls_cons (mode : CallMode) (query : Option SqlQuery)
    (queries : List (Option SqlQuery)) :
    lookupCalls mode (query :: queries) = lookupCalls mode [query] ++ lookupCalls mode queries := by
  rw [lookupCalls, lookupCalls, lookupCalls, ← List.map_append, ← List.filterMap_append]
  rfl

namespace Executor

variable {executor : Executor} {answer : SqlQuery → Except QueryError (List Row)}

theorem runAfter_fetch (h : executor.AnswersByQuery answer) (mode : CallMode) (query : SqlQuery)
    (calls : List Call) :
    (executor.fetch mode query).runAfter calls =
      (answer query, calls ++ [⟨mode, .query, query⟩]) := by
  rw [← h calls mode query]
  rfl

theorem runAfter_fetchOptional (h : executor.AnswersByQuery answer) (mode : CallMode)
    (query : Option SqlQuery) (calls : List Call) :
    (executor.fetchOptional mode query).runAfter calls =
      (answerOptional answer query, calls ++ lookupCalls mode [query]) := by
  cases query with
  | none =>
      rw [lookupCalls, List.filterMap_cons_none rfl, List.filterMap_nil, List.map_nil,
        List.append_nil]
      rfl
  | some query => exact runAfter_fetch h mode query calls

theorem run_fetchEach (h : executor.AnswersByQuery answer) (queries : List (Option SqlQuery))
    (calls : List Call) :
    (executor.fetchEach queries).run calls =
      (queries.map (answerOptional answer), calls ++ lookupCalls .concurrent queries) := by
  induction queries generalizing calls with
  | nil => exact congrArg (Prod.mk []) (List.append_nil calls).symm
  | cons query queries ih =>
      have hfirst : (executor.fetchOptional .concurrent query).run.run calls =
          (answerOptional answer query, calls ++ lookupCalls .concurrent [query]) :=
        runAfter_fetchOptional h .concurrent query calls
      rw [fetchEach, StateT.run_bind, hfirst, lookupCalls_cons _ query queries, ← List.append_assoc]
      exact congrArg (fun run => (answerOptional answer query :: run.1, run.2)) (ih _)

theorem length_fetchEach (executor : Executor) (queries : List (Option SqlQuery))
    (calls : List Call) : ((executor.fetchEach queries).run calls).1.length = queries.length := by
  induction queries generalizing calls with
  | nil => rfl
  | cons query queries ih => exact congrArg (· + 1) (ih _)

/-- Of lookups that run together those are called that are started. -/
theorem runAfter_fetchAll (executor : Executor) (completion : Completion)
    (queries : List (Option SqlQuery)) (calls : List Call) :
    (executor.fetchAll completion queries).runAfter calls =
      (completion.gather ((executor.fetchEach queries).run calls).1,
        ((executor.fetchEach (queries.take
          (completion.started ((executor.fetchEach queries).run calls).1))).run calls).2) :=
  rfl

/-- They succeed together if and only if each of them does, and then all of them are called. -/
theorem runAfter_fetchAll_eq_ok {completion : Completion} {queries : List (Option SqlQuery)}
    {rows : List (List Row)} {calls later : List Call} :
    (executor.fetchAll completion queries).runAfter calls = (.ok rows, later) ↔
      (executor.fetchEach queries).run calls = (rows.map .ok, later) := by
  have hall (hanswers : ((executor.fetchEach queries).run calls).1 = rows.map .ok) :
      queries.take (completion.started ((executor.fetchEach queries).run calls).1) = queries := by
    have hstarted := completion.started_of_ok _ _ ((completion.gather_eq_ok_iff _ _).2 hanswers)
    rw [length_fetchEach] at hstarted
    exact List.take_of_length_le hstarted
  rw [runAfter_fetchAll, Prod.mk.injEq, completion.gather_eq_ok_iff, Prod.ext_iff]
  refine and_congr_right fun hanswers => ?_
  rw [hall hanswers]

end Executor

end EntityQuery
