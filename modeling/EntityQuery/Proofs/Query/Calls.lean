import EntityQuery.Proofs.Query.Loading
import EntityQuery.Proofs.Sql.Layout

/-!
# Calls of operations

Which calls the operations of a query make, on any database and whatever it answers. An operation
calls nothing unless its clauses compile to a statement of the kind that it needs. That statement is
its first call, at the entry point for its kind, and after it there are only lookups, which select.
A selection that succeeds makes one lookup for each related entity of which some item has a key.
-/
namespace EntityQuery

/-- A statement that is compiled is of the kind that its clauses ask for. -/
theorem Sql.kind_of_compile {registry : Registry} {root : String} {clauses : Clauses}
    {query : SqlQuery} (h : Sql.compile registry root clauses = .ok query) :
    query.kind = clauses.statementKind := by
  obtain ⟨ctx, hctx, hcompile⟩ := compile_ok h
  obtain ⟨statement, t, hrun, rfl⟩ := compileOn_ok hcompile
  obtain ⟨references, headed, assigned, filtered, ordered, steps⟩ := statementSteps_of_ok hrun
  exact headOf_ok steps.head

/-- The query of a lookup selects. -/
theorem PreparedLookup.kind_of_query {registry : Registry} {source target : String} {node : Clause}
    {items : List FieldReader} {prepared : PreparedLookup} {query : SqlQuery}
    (h : PreparedLookup.of registry source target node items = .ok prepared)
    (hquery : prepared.query = some query) : query.kind = .select := by
  obtain ⟨-, hfound⟩ := Lookup.derived_of_prepared h
  rw [hquery] at hfound
  obtain ⟨predicate, -, hchildren, hcompile⟩ := Lookup.predicate_of_query? hfound
  rw [Sql.kind_of_compile hcompile, Clauses.statementKind, Clauses.has, Clauses.has,
    Lookup.first?_clausesFor hchildren rfl, Lookup.first?_clausesFor hchildren rfl]
  rfl

/-- A call that a lookup makes. -/
def Call.IsLookup (mode : CallMode) (call : Call) : Prop :=
  call.mode = mode ∧ call.entry = .query ∧ call.query.kind = .select

/-- The query of the lookup for a reference clause over items; none if it cannot be prepared. -/
def lookupQuery? (registry : Registry) (source target : String) (node : Clause)
    (items : List FieldReader) : Option SqlQuery :=
  match PreparedLookup.of registry source target node items with
  | .ok prepared => prepared.query
  | .error _ => none

theorem kind_of_lookupQuery? {registry : Registry} {source target : String} {node : Clause}
    {items : List FieldReader} {query : SqlQuery}
    (h : lookupQuery? registry source target node items = some query) : query.kind = .select := by
  unfold lookupQuery? at h
  split at h
  · next prepared hprepared => exact PreparedLookup.kind_of_query hprepared h
  · cases h

theorem isLookup_of_mem {mode : CallMode} {queries : List (Option SqlQuery)}
    (h : ∀ query, some query ∈ queries → query.kind = .select) :
    ∀ call ∈ lookupCalls mode queries, call.IsLookup mode := by
  intro call hmem
  obtain ⟨query, hquery, rfl⟩ := List.mem_map.1 hmem
  obtain ⟨_, hsome, rfl⟩ := List.mem_filterMap.1 hquery
  exact ⟨rfl, rfl, h query hsome⟩

theorem length_lookupCalls_singleton (mode : CallMode) (query : Option SqlQuery) :
    (lookupCalls mode [query]).length = if query.isSome then 1 else 0 := by
  cases query <;> rfl

namespace Executor

variable (executor : Executor)

theorem calls_fetchOptional (mode : CallMode) (query : Option SqlQuery) (calls : List Call) :
    ((executor.fetchOptional mode query).runAfter calls).2 = calls ++ lookupCalls mode [query] := by
  cases query with
  | none => exact (List.append_nil calls).symm
  | some query => rfl

/-- Lookups that run together are called in order, whatever the answers are. -/
theorem calls_fetchEach (queries : List (Option SqlQuery)) (calls : List Call) :
    ((executor.fetchEach queries).run calls).2 = calls ++ lookupCalls .concurrent queries := by
  induction queries generalizing calls with
  | nil => exact (List.append_nil calls).symm
  | cons query queries ih =>
    have hfirst := executor.calls_fetchOptional .concurrent query calls
    have hrest := ih (calls ++ lookupCalls .concurrent [query])
    rw [lookupCalls_cons, ← List.append_assoc, ← hrest, ← hfirst]
    rfl

/-- Of lookups that run together the first ones are called. -/
theorem calls_fetchAll (completion : Completion) (queries : List (Option SqlQuery))
    (calls : List Call) :
    ∃ called, called <+: queries ∧
      ((executor.fetchAll completion queries).runAfter calls).2 =
        calls ++ lookupCalls .concurrent called := by
  rw [runAfter_fetchAll]
  exact ⟨_, List.take_prefix _ _, executor.calls_fetchEach _ calls⟩

end Executor

section Resolve

variable {M : Model} {db : Database} {mode : CallMode} {source target : String} {node : Clause}
  {items : List (M.Item source)} {calls : List Call}

/-- Loading a related entity makes the call of its lookup and no other. -/
theorem calls_resolve (M : Model) (db : Database) (mode : CallMode) (target : String)
    (node : Clause) (items : List (M.Item source)) (calls : List Call) :
    ((db.resolve M mode target node items).run calls).2 =
      calls ++ lookupCalls mode
        [lookupQuery? db.registry source target node (Database.readers M items)] := by
  cases hprepared : PreparedLookup.of db.registry source target node (Database.readers M items) with
  | error e =>
    rw [Database.run_resolve_of_prepare_error M hprepared, lookupQuery?, hprepared]
    exact (List.append_nil calls).symm
  | ok prepared =>
    have hcalls := db.executor.calls_fetchOptional mode prepared.query calls
    rw [lookupQuery?, hprepared]
    rcases hfetch : (db.executor.fetchOptional mode prepared.query).runAfter calls with
      ⟨e | rows, later⟩
    · rw [hfetch] at hcalls
      rw [Database.run_resolve_of_fetch_error M hprepared hfetch]
      exact hcalls
    · rw [hfetch] at hcalls
      rw [Database.run_resolve_of_fetch M hprepared hfetch]
      exact hcalls

/-- If it succeeds, its lookup was prepared. -/
theorem exists_prepared_of_resolve {items' : List (M.Item source)} {later : List Call}
    (h : (db.resolve M mode target node items).run calls = ((.ok (), items'), later)) :
    ∃ prepared,
      PreparedLookup.of db.registry source target node (Database.readers M items) =
        .ok prepared := by
  cases hprepared : PreparedLookup.of db.registry source target node (Database.readers M items) with
  | error e =>
    rw [Database.run_resolve_of_prepare_error M hprepared] at h
    cases h
  | ok prepared => exact ⟨prepared, rfl⟩

/-- The items show the same stored fields afterwards, if what is put into them leaves these. -/
theorem readers_resolve (hset : M.SettersKeepFields source) (db : Database) (mode : CallMode)
    (target : String) (node : Clause) (items : List (M.Item source)) (calls : List Call) :
    Database.readers M ((db.resolve M mode target node items).run calls).1.2 =
      Database.readers M items := by
  cases hprepared : PreparedLookup.of db.registry source target node (Database.readers M items) with
  | error e => rw [Database.run_resolve_of_prepare_error M hprepared]
  | ok prepared =>
    rcases hfetch : (db.executor.fetchOptional mode prepared.query).runAfter calls with
      ⟨e | rows, later⟩
    · rw [Database.run_resolve_of_fetch_error M hprepared hfetch]
    · rw [Database.run_resolve_of_fetch M hprepared hfetch]
      exact Lookup.readers_attach hset db.registry target prepared.lookup rows items

end Resolve

/-- Whether a related entity is looked up for some items: whether one of them has a complete key. -/
def Include.keyed (registry : Registry) (entity : String) (items : List FieldReader)
    (related : Include) : Bool :=
  match Lookup.derive registry entity related.target related.node items with
  | .ok lookup => lookup.hasKeys
  | .error _ => false

/-- A lookup that is prepared is called for if some item has a key. -/
theorem isSome_query_eq_keyed {registry : Registry} {entity : String} {items : List FieldReader}
    {related : Include} {prepared : PreparedLookup}
    (h : PreparedLookup.of registry entity related.target related.node items = .ok prepared) :
    prepared.query.isSome = related.keyed registry entity items := by
  have hsome := Lookup.isSome_query_of_prepared h
  obtain ⟨lookup, hderived, h⟩ := except_bind_eq_ok_iff.1 h
  obtain ⟨query, -, h⟩ := except_bind_eq_ok_iff.1 h
  cases h
  rw [hsome, Include.keyed, hderived]

namespace Query

variable {M : Model} {db : Database}

/-- The related entities with the items as they are when each is loaded in turn. -/
def turnsFrom (M : Model) (db : Database) {entity : String} :
    List Include → List (M.Item entity) → List Call → List (Include × List FieldReader)
  | [], _, _ => []
  | related :: rest, items, calls =>
      let run := (db.resolve M .blocking related.target related.node items).run calls
      (related, Database.readers M items) :: turnsFrom M db rest run.1.2 run.2

/-- The related entities with the items that each is looked up for. Those that are loaded together
are looked up for the items as they were selected. -/
def turns (M : Model) (db : Database) (mode : CallMode) {entity : String}
    (includes : List Include) (items : List (M.Item entity)) (calls : List Call) :
    List (Include × List FieldReader) :=
  match mode with
  | .blocking => turnsFrom M db includes items calls
  | .concurrent => includes.map fun related => (related, Database.readers M items)

/-- The items that a query selects, with what it includes, loaded in either mode. -/
def allIn (M : Model) (db : Database) (completion : Completion) (mode : CallMode) (q : Query) :
    Session (List (M.Item q.entity)) :=
  match mode with
  | .blocking => q.all M db
  | .concurrent => q.allConcurrently M db completion

/-- The first item in either mode. -/
def firstIn (M : Model) (db : Database) (completion : Completion) (mode : CallMode) (q : Query) :
    Session (Option (M.Item q.entity)) :=
  match mode with
  | .blocking => q.first M db
  | .concurrent => q.firstConcurrently M db completion

/-- What loads the related entities in a mode. -/
def loadIn (M : Model) (db : Database) (completion : Completion) (mode : CallMode) {entity : String}
    (includes : List Include) (items : List (M.Item entity)) : Session (List (M.Item entity)) :=
  match mode with
  | .blocking => loadInTurn M db includes items
  | .concurrent => loadTogether M db completion includes items

theorem allIn_eq (completion : Completion) (mode : CallMode) (q : Query) :
    q.allIn M db completion mode =
      q.selected M db mode >>= loadIn M db completion mode q.includes := by
  cases mode <;> rfl

/-- Loading related entities makes lookups only, also if it fails. -/
theorem calls_loadIn (M : Model) (db : Database) (completion : Completion) (mode : CallMode)
    {entity : String} (includes : List Include) (items : List (M.Item entity)) (calls : List Call) :
    ∃ made, ((loadIn M db completion mode includes items).runAfter calls).2 = calls ++ made ∧
      ∀ call ∈ made, call.IsLookup mode := by
  cases mode with
  | blocking =>
    induction includes generalizing items calls with
    | nil => exact ⟨[], (List.append_nil calls).symm, by simp⟩
    | cons related includes ih =>
      have hfirst := calls_resolve M db .blocking related.target related.node items calls
      have hlookup : ∀ call ∈ lookupCalls .blocking [lookupQuery? db.registry entity related.target
          related.node (Database.readers M items)], call.IsLookup .blocking := by
        apply isLookup_of_mem
        intro query hmem
        exact kind_of_lookupQuery? (List.mem_singleton.1 hmem).symm
      show ∃ made, ((loadInTurn M db (related :: includes) items).runAfter calls).2 = _ ∧ _
      rw [loadInTurn, Session.runAfter_lift_bind]
      rcases hrun : (db.resolve M .blocking related.target related.node items).run calls with
        ⟨⟨result, between⟩, middle⟩
      rw [hrun] at hfirst
      dsimp only at hfirst ⊢
      rw [Session.runAfter_bind, Session.runAfter_ofExcept]
      cases result with
      | error e => exact ⟨_, hfirst, hlookup⟩
      | ok =>
        obtain ⟨made, hmade, hrest⟩ := ih between middle
        refine ⟨_ ++ made, ?_, List.forall_mem_append.2 ⟨hlookup, hrest⟩⟩
        rw [← List.append_assoc, ← hfirst]
        exact hmade
  | concurrent =>
    show ∃ made, ((loadTogether M db completion includes items).runAfter calls).2 = _ ∧ _
    rw [loadTogether, Session.runAfter_bind, Session.runAfter_ofExcept]
    cases hprepared : prepareAll db.registry entity (Database.readers M items) includes with
    | error e => exact ⟨[], (List.append_nil calls).symm, by simp⟩
    | ok prepared =>
      obtain ⟨called, hcalled, hcalls⟩ :=
        db.executor.calls_fetchAll completion (prepared.map (·.query)) calls
      have hlookup : ∀ call ∈ lookupCalls .concurrent called, call.IsLookup .concurrent := by
        apply isLookup_of_mem
        intro query hmem
        obtain ⟨lookup, hlookup, hquery⟩ := List.mem_map.1 (hcalled.subset hmem)
        obtain ⟨related, -, hof⟩ := forall₂_exists_left (prepareAll_eq_ok_iff.1 hprepared) lookup
          hlookup
        exact PreparedLookup.kind_of_query hof hquery
      refine ⟨_, ?_, hlookup⟩
      dsimp only
      rw [Session.runAfter_bind, ← hcalls]
      rcases hfetch : (db.executor.fetchAll completion (prepared.map (·.query))).runAfter calls
        with ⟨e | rows, later⟩
      · rw [hfetch]
      · rw [hfetch]
        rfl

theorem length_lookupCalls (mode : CallMode) (queries : List (Option SqlQuery)) :
    (lookupCalls mode queries).length = queries.countP (·.isSome) := by
  induction queries with
  | nil => rfl
  | cons query queries ih =>
    rw [lookupCalls_cons, List.length_append, ih, List.countP_cons]
    cases query with
    | none => simp [lookupCalls]
    | some query => simp [lookupCalls, Nat.add_comm]

/-- Of the lookups that are prepared for some items, those are called for that have a key. -/
theorem Prepares.countP_query {registry : Registry} {entity : String} {items : List FieldReader}
    {includes : List Include} {prepared : List PreparedLookup}
    (h : Prepares registry entity items includes prepared) :
    prepared.countP (·.query.isSome) = includes.countP (Include.keyed registry entity items) := by
  induction h with
  | nil => rfl
  | cons hfirst _ ih => rw [List.countP_cons, List.countP_cons, ih, isSome_query_eq_keyed hfirst]

/-- A load that succeeds makes one call for each related entity of which some item had a key when it
was looked up. -/
theorem length_calls_loadIn {completion : Completion} {mode : CallMode} {entity : String}
    {includes : List Include} {items items' : List (M.Item entity)} {calls later : List Call}
    (h : (loadIn M db completion mode includes items).runAfter calls = (.ok items', later)) :
    later.length = calls.length + (turns M db mode includes items calls).countP fun turn =>
      turn.1.keyed db.registry entity turn.2 := by
  cases mode with
  | blocking =>
    induction includes generalizing items calls with
    | nil =>
      cases h
      rfl
    | cons related includes ih =>
      have hload : (loadInTurn M db (related :: includes) items).runAfter calls =
          (.ok items', later) := h
      rw [loadInTurn, Session.runAfter_lift_bind] at hload
      have hcalls := calls_resolve M db .blocking related.target related.node items calls
      rw [turns, turnsFrom, List.countP_cons]
      rcases hrun : (db.resolve M .blocking related.target related.node items).run calls with
        ⟨⟨result, between⟩, middle⟩
      rw [hrun] at hload hcalls
      dsimp only at hload hcalls ⊢
      obtain ⟨⟨⟩, _, hresult, hload⟩ := Session.runAfter_bind_eq_ok.1 hload
      obtain ⟨rfl, rfl⟩ := Session.runAfter_ofExcept_eq_ok.1 hresult
      obtain ⟨prepared, hprepared⟩ := exists_prepared_of_resolve hrun
      have hkeyed := isSome_query_eq_keyed hprepared
      have hrest := ih (show (loadIn M db completion .blocking includes between).runAfter middle =
        (.ok items', later) from hload)
      rw [turns] at hrest
      rw [hrest, hcalls, List.length_append, lookupQuery?, hprepared, length_lookupCalls_singleton,
        hkeyed]
      omega
  | concurrent =>
    have hload : (loadTogether M db completion includes items).runAfter calls =
        (.ok items', later) := h
    obtain ⟨prepared, _, hprepare, hload⟩ := Session.runAfter_bind_eq_ok.1 hload
    obtain ⟨hprepared, rfl⟩ := Session.runAfter_ofExcept_eq_ok.1 hprepare
    obtain ⟨rows, between, hfetch, hload⟩ := Session.runAfter_bind_eq_ok.1 hload
    obtain ⟨-, rfl⟩ := Session.runAfter_ofExcept_eq_ok.1 hload
    have hcalls := db.executor.calls_fetchEach (prepared.map (·.query)) calls
    have hprepares := prepareAll_eq_ok_iff.1 hprepared
    rw [Executor.runAfter_fetchAll_eq_ok.1 hfetch] at hcalls
    dsimp only at hcalls
    rw [hcalls, List.length_append, length_lookupCalls, List.countP_map, turns, List.countP_map]
    exact congrArg (calls.length + ·) hprepares.countP_query

/-- If what is put into items leaves their stored fields, every related entity is looked up for the
items as they were selected. -/
theorem turns_eq_map {entity : String} (hset : M.SettersKeepFields entity) (mode : CallMode)
    (includes : List Include) (items : List (M.Item entity)) (calls : List Call) :
    turns M db mode includes items calls =
      includes.map fun related => (related, Database.readers M items) := by
  cases mode with
  | blocking =>
    rw [turns]
    induction includes generalizing items calls with
    | nil => rfl
    | cons related includes ih => rw [turnsFrom, ih, readers_resolve hset, List.map_cons]
  | concurrent => rfl

/-- And the loaded items show the same stored fields. -/
theorem readers_of_loadIn {entity : String} (hset : M.SettersKeepFields entity)
    {completion : Completion} {mode : CallMode} {includes : List Include}
    {items items' : List (M.Item entity)} {calls later : List Call}
    (h : (loadIn M db completion mode includes items).runAfter calls = (.ok items', later)) :
    Database.readers M items' = Database.readers M items := by
  cases mode with
  | blocking =>
    induction includes generalizing items calls with
    | nil =>
      cases h
      rfl
    | cons related includes ih =>
      have hload : (loadInTurn M db (related :: includes) items).runAfter calls =
          (.ok items', later) := h
      rw [loadInTurn, Session.runAfter_lift_bind] at hload
      have hreaders := readers_resolve hset db .blocking related.target related.node items calls
      rcases hrun : (db.resolve M .blocking related.target related.node items).run calls with
        ⟨⟨result, between⟩, middle⟩
      rw [hrun] at hload hreaders
      obtain ⟨_, _, -, hload⟩ := Session.runAfter_bind_eq_ok.1 hload
      exact (ih hload).trans hreaders
  | concurrent =>
    have hload : (loadTogether M db completion includes items).runAfter calls =
        (.ok items', later) := h
    obtain ⟨prepared, _, -, hload⟩ := Session.runAfter_bind_eq_ok.1 hload
    obtain ⟨rows, between, -, hload⟩ := Session.runAfter_bind_eq_ok.1 hload
    obtain ⟨hattach, -⟩ := Session.runAfter_ofExcept_eq_ok.1 hload
    exact readers_attachAll hset hattach

theorem compileAs_eq (q : Query) (registry : Registry) (kind : StatementKind) :
    q.compileAs registry kind =
      match Sql.compile registry q.entity q.clauses with
      | .ok query =>
          if query.kind = kind then .ok query
          else .error (.compile (.statementKind kind query.kind))
      | .error e => .error e := by
  unfold compileAs toSql
  cases Sql.compile registry q.entity q.clauses with
  | error e => rfl
  | ok query =>
    by_cases hkind : query.kind = kind
    · exact (if_neg (not_not.2 hkind)).trans (if_pos hkind).symm
    · exact (if_pos hkind).trans (if_neg hkind).symm

/-- A statement of a kind is compiled if the clauses compile and the statement is of this kind. -/
theorem compileAs_eq_ok_iff {q : Query} {registry : Registry} {kind : StatementKind}
    {query : SqlQuery} : q.compileAs registry kind = .ok query ↔
      Sql.compile registry q.entity q.clauses = .ok query ∧ query.kind = kind := by
  rw [compileAs_eq]
  cases Sql.compile registry q.entity q.clauses with
  | error e => simp
  | ok compiled =>
    dsimp only
    split
    · next hkind =>
      constructor
      · rintro ⟨⟩
        exact ⟨rfl, hkind⟩
      · exact And.left
    · next hother =>
      constructor
      · intro h
        cases h
      · rintro ⟨⟨⟩, hkind⟩
        exact absurd hkind hother

/-- Clauses without an assignment compile to no update. -/
theorem has_set_of_compileAs {q : Query} {registry : Registry} {query : SqlQuery}
    (h : q.compileAs registry .update = .ok query) : q.clauses.has .set = true := by
  obtain ⟨hcompile, hkind⟩ := compileAs_eq_ok_iff.1 h
  rw [Sql.kind_of_compile hcompile] at hkind
  by_contra hset
  rw [Clauses.statementKind, if_neg hset] at hkind
  split at hkind <;> cases hkind

/-- A selection that succeeds is one call, for the statement that the clauses compile to. -/
theorem compile_of_selected {mode : CallMode} {q : Query} {items : List (M.Item q.entity)}
    {calls later : List Call} (h : (q.selected M db mode).runAfter calls = (.ok items, later)) :
    ∃ primary, Sql.compile db.registry q.entity q.clauses = .ok primary ∧
      later = calls ++ [⟨mode, .query, primary⟩] := by
  obtain ⟨primary, _, hcompile, h⟩ := Session.runAfter_bind_eq_ok.1 h
  obtain ⟨hcompiled, rfl⟩ := Session.runAfter_ofExcept_eq_ok.1 hcompile
  obtain ⟨rows, between, hfetch, h⟩ := Session.runAfter_bind_eq_ok.1 h
  obtain ⟨-, rfl⟩ := Session.runAfter_ofExcept_eq_ok.1 h
  obtain ⟨-, rfl⟩ := Prod.mk.inj hfetch
  exact ⟨primary, (compileAs_eq_ok_iff.1 hcompiled).1, rfl⟩

theorem length_calls_selected {mode : CallMode} {q : Query} {items : List (M.Item q.entity)}
    {calls later : List Call}
    (h : (q.selected M db mode).runAfter calls = (.ok items, later)) :
    later.length = calls.length + 1 := by
  obtain ⟨primary, -, rfl⟩ := compile_of_selected h
  exact List.length_append

end Query

/-- The operations that run a query. -/
inductive Operation where
  | all
  | first
  | countRows
  | update
  deriving DecidableEq, Repr

namespace Operation

/-- The query that an operation compiles. -/
def declared (q : Query) : Operation → Query
  | .all => q
  | .first => q.take 1
  | .countRows => q.ensureCount
  | .update => q

/-- The kind of statement that an operation needs. -/
def kind : Operation → StatementKind
  | .all => .select
  | .first => .select
  | .countRows => .count
  | .update => .update

/-- What an operation asks the executor for. -/
def entry : Operation → EntryPoint
  | .all => .query
  | .first => .query
  | .countRows => .query
  | .update => .execute

/-- Whether an operation loads related entities. -/
def loads : Operation → Bool
  | .all => true
  | .first => true
  | .countRows => false
  | .update => false

/-- All calls made once an operation has run after others. -/
def callsAfter (M : Model) (db : Database) (completion : Completion) (mode : CallMode) (q : Query)
    (calls : List Call) : Operation → List Call
  | .all => ((q.allIn M db completion mode).runAfter calls).2
  | .first => ((q.firstIn M db completion mode).runAfter calls).2
  | .countRows => ((q.countRows db mode).runAfter calls).2
  | .update => ((q.update db mode).runAfter calls).2

/-- What the calls of an operation have in common. -/
structure Routes (op : Operation) (mode : CallMode) (registry : Registry) (q : Query)
    (made : List Call) : Prop where
  /-- Every call is made in the mode of the run, at the entry point of the operation, with a
  statement of the kind that it needs. -/
  entries : ∀ call ∈ made, call.mode = mode ∧ call.entry = op.entry ∧ call.query.kind = op.kind
  /-- A statement of this kind is the first call; only lookups of related entities follow. -/
  started : ∀ query, Sql.compile registry q.entity (op.declared q).clauses = .ok query →
    query.kind = op.kind → ∃ later, made = ⟨mode, op.entry, query⟩ :: later ∧
      (op.loads = false → later = [])
  /-- Without one there is no call. -/
  refused : (∀ query, Sql.compile registry q.entity (op.declared q).clauses = .ok query →
    query.kind ≠ op.kind) → made = []

variable {M : Model} {db : Database} {completion : Completion} {mode : CallMode} {q : Query}
  {calls : List Call}

theorem entity_declared (op : Operation) (q : Query) : (op.declared q).entity = q.entity := by
  cases op with
  | all => rfl
  | first => rfl
  | countRows =>
    show q.ensureCount.entity = q.entity
    unfold Query.ensureCount
    split <;> rfl
  | update => rfl

/-- An operation routes its calls if it makes none until its statement is compiled and then calls
for it. -/
theorem routes_of_compiled (op : Operation) (q : Query) {after : List Call}
    (hnone : ∀ e, (op.declared q).compileAs db.registry op.kind = .error e → after = calls)
    (hstart : ∀ query, (op.declared q).compileAs db.registry op.kind = .ok query →
      ∃ later, after = calls ++ ⟨mode, op.entry, query⟩ :: later ∧
        (op.loads = false → later = []) ∧
        ∀ call ∈ later, call.mode = mode ∧ call.entry = op.entry ∧ call.query.kind = op.kind) :
    ∃ made, after = calls ++ made ∧ op.Routes mode db.registry q made := by
  rw [Query.compileAs_eq, op.entity_declared] at hnone hstart
  cases hcompile : Sql.compile db.registry q.entity (op.declared q).clauses with
  | error e =>
    rw [hcompile] at hnone
    refine ⟨[], by rw [hnone e rfl, List.append_nil], ⟨by simp, ?_, fun _ => rfl⟩⟩
    intro query hquery
    rw [hcompile] at hquery
    cases hquery
  | ok query =>
    rw [hcompile] at hnone hstart
    dsimp only at hnone hstart
    by_cases hkind : query.kind = op.kind
    · rw [if_pos hkind] at hstart
      obtain ⟨later, hafter, hlater, hentries⟩ := hstart query rfl
      refine ⟨_, hafter, ⟨?_, ?_, ?_⟩⟩
      · exact List.forall_mem_cons.2 ⟨⟨rfl, rfl, hkind⟩, hentries⟩
      · intro query' hquery _
        rw [hcompile] at hquery
        cases hquery
        exact ⟨later, rfl, hlater⟩
      · intro hother
        exact absurd hkind (hother query hcompile)
    · rw [if_neg hkind] at hnone
      refine ⟨[], by rw [hnone _ rfl, List.append_nil], ⟨by simp, ?_, fun _ => rfl⟩⟩
      intro query' hquery hsame
      rw [hcompile] at hquery
      cases hquery
      exact absurd hsame hkind

/-- A selection makes no call, or calls for its statement and then for lookups. -/
theorem calls_allIn (M : Model) (db : Database) (completion : Completion) (mode : CallMode)
    (q : Query) (calls : List Call) :
    (∀ e, q.compileAs db.registry .select = .error e →
      ((q.allIn M db completion mode).runAfter calls).2 = calls) ∧
    ∀ query, q.compileAs db.registry .select = .ok query →
      ∃ later, ((q.allIn M db completion mode).runAfter calls).2 =
          calls ++ ⟨mode, .query, query⟩ :: later ∧ ∀ call ∈ later, call.IsLookup mode := by
  rw [Query.allIn_eq, Session.runAfter_bind, Query.selected, Session.runAfter_bind,
    Session.runAfter_ofExcept]
  constructor
  · intro e hcompile
    rw [hcompile]
  · intro query hcompile
    rw [hcompile]
    dsimp only
    rw [Session.runAfter_bind]
    have hfetch : (db.executor.fetch mode query).runAfter calls =
        (db.executor.rows calls mode query, calls ++ [⟨mode, .query, query⟩]) := rfl
    rw [hfetch]
    cases db.executor.rows calls mode query with
    | error e => exact ⟨[], rfl, by simp⟩
    | ok rows =>
      dsimp only
      rw [Session.runAfter_ofExcept]
      cases Query.materialize M db.registry q.entity rows with
      | error e => exact ⟨[], rfl, by simp⟩
      | ok items =>
        obtain ⟨later, hlater, hlookups⟩ := Query.calls_loadIn M db completion mode
          q.includes items (calls ++ [⟨mode, .query, query⟩])
        refine ⟨later, ?_, hlookups⟩
        dsimp only
        rw [hlater, List.append_assoc]
        rfl

theorem calls_firstIn : ((q.firstIn M db completion mode).runAfter calls).2 =
    (((q.take 1).allIn M db completion mode).runAfter calls).2 := by
  have hhead : ∀ session : Session (List (M.Item (q.take 1).entity)),
      ((do return (← session).head? : Session (Option (M.Item (q.take 1).entity))).runAfter
        calls).2 = (session.runAfter calls).2 := by
    intro session
    rw [Session.runAfter_bind]
    rcases session.runAfter calls with ⟨e | items, later⟩ <;> rfl
  cases mode with
  | blocking => exact hhead _
  | concurrent => exact hhead _

theorem routes_of_callsAfter (op : Operation) :
    ∃ made, op.callsAfter M db completion mode q calls = calls ++ made ∧
      op.Routes mode db.registry q made := by
  cases op with
  | all =>
    obtain ⟨hnone, hstart⟩ := calls_allIn M db completion mode q calls
    apply routes_of_compiled .all q hnone
    intro query hcompile
    obtain ⟨later, hafter, hlookups⟩ := hstart query hcompile
    exact ⟨later, hafter, by simp [loads], hlookups⟩
  | first =>
    obtain ⟨hnone, hstart⟩ := calls_allIn M db completion mode (q.take 1) calls
    rw [callsAfter, calls_firstIn]
    apply routes_of_compiled .first q hnone
    intro query hcompile
    obtain ⟨later, hafter, hlookups⟩ := hstart query hcompile
    exact ⟨later, hafter, by simp [loads], hlookups⟩
  | countRows =>
    rw [callsAfter, Query.countRows, Session.runAfter_bind, Session.runAfter_ofExcept]
    apply routes_of_compiled .countRows q
    · intro e hcompile
      have hcompile : q.ensureCount.compileAs db.registry .count = .error e := hcompile
      rw [hcompile]
    · intro query hcompile
      have hcompile : q.ensureCount.compileAs db.registry .count = .ok query := hcompile
      have hfetch : (db.executor.fetch mode query).runAfter calls =
          (db.executor.rows calls mode query, calls ++ [⟨mode, .query, query⟩]) := rfl
      refine ⟨[], ?_, fun _ => rfl, by simp⟩
      rw [hcompile]
      dsimp only
      rw [Session.runAfter_bind, hfetch]
      cases db.executor.rows calls mode query <;> rfl
  | update =>
    rw [callsAfter, Query.update]
    by_cases hset : q.clauses.has .set = true
    · rw [hset, Bool.not_true, if_neg Bool.false_ne_true, Session.runAfter_bind,
        Session.runAfter_ofExcept]
      apply routes_of_compiled .update q
      · intro e hcompile
        have hcompile : q.compileAs db.registry .update = .error e := hcompile
        rw [hcompile]
      · intro query hcompile
        have hcompile : q.compileAs db.registry .update = .ok query := hcompile
        refine ⟨[], ?_, fun _ => rfl, by simp⟩
        rw [hcompile]
        rfl
    · rw [Bool.eq_false_iff.2 hset, Bool.not_false, if_pos rfl]
      apply routes_of_compiled .update q
      · exact fun _ _ => rfl
      · intro query hcompile
        exact absurd (Query.has_set_of_compileAs hcompile) hset

end Operation

/-- Statements reach the executor at the entry point for their kind, on any database. The calls of
an operation are those that `Operation.Routes` describes, whatever becomes of it. Loading a related
entity makes at most one call, with a selection. A selection that succeeds makes one call for its
statement and one for each related entity that is looked up for items of which some has a complete
key; if what is put into items leaves their stored fields, these items are those it returns. -/
theorem calls_of_operations (M : Model) (db : Database) (completion : Completion)
    (mode : CallMode) (calls : List Call) :
    (∀ (op : Operation) (q : Query), ∃ made,
      op.callsAfter M db completion mode q calls = calls ++ made ∧
        op.Routes mode db.registry q made) ∧
    (∀ (source target : String) (node : Clause) (items : List (M.Item source)), ∃ made,
      ((db.resolve M mode target node items).run calls).2 = calls ++ made ∧ made.length ≤ 1 ∧
        (∀ call ∈ made, call.IsLookup mode) ∧
        (made ≠ [] ↔ (Include.keyed db.registry source (Database.readers M items) ⟨target, node⟩ ∧
          ∃ prepared, PreparedLookup.of db.registry source target node (Database.readers M items) =
            .ok prepared))) ∧
    ∀ (q : Query) (items : List (M.Item q.entity)) (later : List Call),
      (q.allIn M db completion mode).runAfter calls = (.ok items, later) →
      (∃ selected between, (q.selected M db mode).runAfter calls = (.ok selected, between) ∧
        later.length = calls.length + (1 +
          (Query.turns M db mode q.includes selected between).countP fun turn =>
            turn.1.keyed db.registry q.entity turn.2)) ∧
      (M.SettersKeepFields q.entity → later.length = calls.length + (1 +
        q.includes.countP (Include.keyed db.registry q.entity (Database.readers M items)))) := by
  refine ⟨fun op q => op.routes_of_callsAfter, ?_, ?_⟩
  · intro source target node items
    refine ⟨_, calls_resolve M db mode target node items calls, ?_, ?_, ?_⟩
    · rw [length_lookupCalls_singleton]
      split <;> simp
    · apply isLookup_of_mem
      intro query hmem
      exact kind_of_lookupQuery? (List.mem_singleton.1 hmem).symm
    · cases hprepared : PreparedLookup.of db.registry source target node
        (Database.readers M items) with
      | error e => simp [lookupQuery?, hprepared, lookupCalls]
      | ok prepared =>
        have hkeyed : prepared.query.isSome = Include.keyed db.registry source
            (Database.readers M items) ⟨target, node⟩ := isSome_query_eq_keyed hprepared
        rw [← hkeyed, ← List.length_pos_iff, length_lookupCalls_singleton, lookupQuery?, hprepared]
        cases hquery : prepared.query <;> simp [hquery]
  · intro q items later h
    rw [Query.allIn_eq] at h
    obtain ⟨selected, between, hselected, hload⟩ := Session.runAfter_bind_eq_ok.1 h
    have hbetween := Query.length_calls_selected hselected
    have hlength := Query.length_calls_loadIn hload
    refine ⟨⟨selected, between, hselected, by omega⟩, fun hset => ?_⟩
    rw [Query.turns_eq_map hset, List.countP_map] at hlength
    rw [Query.readers_of_loadIn hset hload]
    have hsame : (fun turn : Include × List FieldReader =>
        turn.1.keyed db.registry q.entity turn.2) ∘
          (fun related => (related, Database.readers M selected)) =
        Include.keyed db.registry q.entity (Database.readers M selected) := rfl
    rw [hsame] at hlength
    omega

/-- All sales with their customers take three calls. As an update, the same query takes none. -/
theorem calls_of_operations_sample :
    (∃ sales later,
      (Query.sampleSalesQuery.allIn Query.sampleShop Query.sampleShopDatabase .inOrder
        .blocking).runAfter [] = (.ok sales, later) ∧
      later.length = 1 + Query.sampleSalesQuery.includes.countP (Include.keyed
        Query.sampleShopDatabase.registry "Sale" (Database.readers Query.sampleShop sales)) ∧
      later.length = 3) ∧
    Operation.update.callsAfter Query.sampleShop Query.sampleShopDatabase .inOrder .blocking
      Query.sampleSalesQuery [] = [] := by
  obtain ⟨hroutes, -, hcounts⟩ := calls_of_operations Query.sampleShop Query.sampleShopDatabase
    .inOrder .blocking []
  constructor
  · have hloaded : (Query.sampleSalesQuery.all Query.sampleShop
        Query.sampleShopDatabase).succeedsWith [] (fun _ later => later.length = 3) = true := by
      decide +kernel
    obtain ⟨sales, later, hrun, hlength⟩ := Session.exists_of_succeedsWith hloaded
    obtain ⟨-, hkept⟩ := hcounts Query.sampleSalesQuery sales later hrun
    have hcount := hkept (Query.sampleShop_settersKeepFields _)
    exact ⟨sales, later, hrun, hcount.trans (Nat.zero_add _), of_decide_eq_true hlength⟩
  · obtain ⟨made, hmade, hroute⟩ := hroutes .update Query.sampleSalesQuery
    rw [hmade, hroute.refused, List.append_nil]
    intro query hcompile
    have hkind : Query.sampleSalesQuery.clauses.statementKind = .select := by decide
    rw [Sql.kind_of_compile hcompile]
    exact fun hupdate => absurd (hkind.symm.trans hupdate) (by decide)

/-- A shop where a sale without a customer loses its reference to one. Region zero is none. -/
def clearingShop : Model :=
  { Query.sampleShop with
    field? := fun item name => if item.region = 0 then none else readSale item.region item.no name
    setOne := fun _ item _ found =>
      match found with
      | none => .ok { item with region := 0 }
      | some customer => .ok { item with customers := [(customer.region, customer.no)] } }

/-- A database with one sale, to a customer that it does not have. -/
def danglingDatabase : Database where
  registry := sampleRegistry
  executor :=
    { rows := fun _ _ query =>
        if query.table = "sales" then .ok [⟨[("region", .int32 5), ("customer_no", .int32 7)]⟩]
        else .ok []
      changed := fun _ _ _ => .error .notFound }

/-- All sales with those of their customers that satisfy some conditions. -/
def salesIncluding (conditions : List Clause) : Query :=
  (Query.of "Sale").including "Customer" "Customer" conditions

/-- The items that are looked up for need not show their keys when they are returned. And the first
call is made before the lookups are compiled: it stays if one of them turns out not to compile. -/
theorem lookups_beyond_returned_items :
    (∃ sales later,
      ((salesIncluding []).allIn clearingShop danglingDatabase .inOrder .blocking).runAfter [] =
        (.ok sales, later) ∧
      (salesIncluding []).includes.countP (Include.keyed danglingDatabase.registry "Sale"
        (Database.readers clearingShop sales)) = 0 ∧
      later.length = 2) ∧
    ∃ fault later,
      ((salesIncluding [.of .filter (.literal (.int32 1))]).allIn Query.sampleShop danglingDatabase
        .inOrder .blocking).runAfter [] = (.error (.compile fault), later) ∧
      later.length = 1 := by
  constructor
  · have hloaded : ((salesIncluding []).all clearingShop danglingDatabase).succeedsWith []
        (fun sales later =>
          (salesIncluding []).includes.countP (Include.keyed danglingDatabase.registry "Sale"
            (Database.readers clearingShop sales)) = 0 ∧ later.length = 2) = true := by
      decide +kernel
    obtain ⟨sales, later, hrun, hcounts⟩ := Session.exists_of_succeedsWith hloaded
    exact ⟨sales, later, hrun, of_decide_eq_true hcounts⟩
  · have hfails : (match ((salesIncluding [.of .filter (.literal (.int32 1))]).all Query.sampleShop
          danglingDatabase).runAfter [] with
        | (.error (.compile _), later) => decide (later.length = 1)
        | _ => false) = true := by
      decide +kernel
    rcases hrun : ((salesIncluding [.of .filter (.literal (.int32 1))]).all Query.sampleShop
      danglingDatabase).runAfter [] with ⟨e | sales, later⟩
    · rw [hrun] at hfails
      cases e with
      | compile fault => exact ⟨fault, later, hrun, of_decide_eq_true hfails⟩
      | _ => cases hfails
    · simp [hrun] at hfails

end EntityQuery
