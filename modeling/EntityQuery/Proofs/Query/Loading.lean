import EntityQuery.Proofs.Database.Session
import EntityQuery.Proofs.Reference.Batch
import EntityQuery.Query.Run

/-!
# Loading in turn and loading together

The related entities of a query are loaded one after the other onto items that earlier ones have
changed, or all together for the items as they were selected. What is put into an item does not
change its stored fields, so both ways prepare the same lookups; and with an executor that answers
by the query alone they receive the same rows and attach them in the same order. A failure anywhere
on one way is a failure on the other.
-/
namespace EntityQuery

/-- What is put into an item leaves its stored fields as they are. -/
structure Model.SettersKeepFields (M : Model) (source : String) : Prop where
  one : ∀ {target : String} {item item' : M.Item source} {field : String}
    {found : Option (M.Item target)}, M.setOne target item field found = .ok item' →
      M.field? item' = M.field? item
  many : ∀ {target : String} {item item' : M.Item source} {field : String}
    {found : List (M.Item target)}, M.setMany target item field found = .ok item' →
      M.field? item' = M.field? item

namespace Lookup

section

variable {M : Model} {source entity : String}

theorem field?_place (hset : M.SettersKeepFields source) {lookup : Lookup}
    {item item' : M.Item source} {found : List (M.Item entity)}
    (h : place M lookup entity item found = .ok item') : M.field? item' = M.field? item := by
  unfold place at h
  split at h
  · exact hset.many h
  · exact hset.one h

/-- Items that are set show the same stored fields, also if a later one refuses. -/
theorem readers_setItems (hset : M.SettersKeepFields source) (lookup : Lookup)
    (index : Index (M.Item entity)) (items : List (M.Item source))
    (keys : List (Option (List Value))) :
    Database.readers M (setItems lookup entity index items keys).2 = Database.readers M items := by
  induction items generalizing keys with
  | nil => rfl
  | cons item items ih =>
      cases keys with
      | nil => rfl
      | cons key keys =>
          rcases hitem : place M lookup entity item (index.matching key) with e | item'
          · rw [setItems_cons_of_error hitem]
          · rw [setItems_cons_of_ok hitem]
            exact congrArg₂ List.cons (field?_place hset hitem) (ih keys)

/-- Attaching rows leaves the stored fields of the items as they are. -/
theorem readers_attach (hset : M.SettersKeepFields source) (registry : Registry) (target : String)
    (lookup : Lookup) (rows : List Row) (items : List (M.Item source)) :
    Database.readers M (lookup.attach M registry target rows items).2 =
      Database.readers M items := by
  unfold attach
  split
  · rfl
  · exact readers_setItems hset lookup _ items _

end

end Lookup

namespace Query

variable {M : Model} {db : Database} {answer : SqlQuery → Except QueryError (List Row)}

/-- The lookups of several related entities, each prepared for the same items. -/
def Prepares (registry : Registry) (entity : String) (items : List FieldReader)
    (includes : List Include) (prepared : List PreparedLookup) : Prop :=
  List.Forall₂ (fun related lookup =>
    PreparedLookup.of registry entity related.target related.node items = .ok lookup)
    includes prepared

theorem prepareAll_eq_ok_iff {registry : Registry} {entity : String} {items : List FieldReader}
    {includes : List Include} {prepared : List PreparedLookup} :
    prepareAll registry entity items includes = .ok prepared ↔
      Prepares registry entity items includes prepared := by
  induction includes generalizing prepared with
  | nil =>
      rw [Prepares, List.forall₂_nil_left_iff, prepareAll, Except.ok.injEq, eq_comm]
  | cons related includes ih =>
      rw [Prepares, List.forall₂_cons_left_iff, prepareAll, except_bind_eq_ok_iff]
      constructor
      · rintro ⟨first, hfirst, h⟩
        obtain ⟨rest, hrest, h⟩ := except_bind_eq_ok_iff.1 h
        cases h
        exact ⟨first, rest, hfirst, ih.1 hrest, rfl⟩
      · rintro ⟨first, rest, hfirst, hrest, rfl⟩
        exact ⟨first, hfirst, except_bind_eq_ok_iff.2 ⟨rest, ih.2 hrest, rfl⟩⟩

theorem attachAll_cons_eq_ok_iff {registry : Registry} {entity : String} {related : Include}
    {prepared : PreparedLookup} {rows : List Row}
    {rest : List (Include × PreparedLookup × List Row)} {items items' : List (M.Item entity)} :
    attachAll M registry ((related, prepared, rows) :: rest) items = .ok items' ↔
      ∃ between, prepared.lookup.attach M registry related.target rows items = (.ok (), between) ∧
        attachAll M registry rest between = .ok items' := by
  rw [attachAll]
  rcases prepared.lookup.attach M registry related.target rows items with ⟨result, between⟩
  rw [except_bind_eq_ok_iff]
  constructor
  · rintro ⟨⟨⟩, rfl, h⟩
    exact ⟨between, rfl, h⟩
  · rintro ⟨between', hattach, h⟩
    cases hattach
    exact ⟨⟨⟩, rfl, h⟩

/-- What a load of related entities comes to: the lookups prepared for the items, the rows that the
executor has for them, and the items after all rows have been attached in order. -/
structure Loaded (M : Model) (registry : Registry)
    (answer : SqlQuery → Except QueryError (List Row)) {entity : String} (includes : List Include)
    (items items' : List (M.Item entity)) (prepared : List PreparedLookup)
    (rows : List (List Row)) : Prop where
  prepares : Prepares registry entity (Database.readers M items) includes prepared
  answers : prepared.map (fun lookup => answerOptional answer lookup.query) = rows.map .ok
  attaches : attachAll M registry (includes.zip (prepared.zip rows)) items = .ok items'

theorem Loaded.exists_rows {registry : Registry} {entity : String} {includes : List Include}
    {items items' : List (M.Item entity)} {first : PreparedLookup} {prepared : List PreparedLookup}
    {rows : List (List Row)}
    (h : Loaded M registry answer includes items items' (first :: prepared) rows) :
    ∃ found later, rows = found :: later := by
  cases rows with
  | nil => cases h.answers
  | cons found later => exact ⟨found, later, rfl⟩

/-- Loading one related entity succeeds if its lookup is prepared, its rows are fetched and they are
attached. -/
theorem run_resolve_eq_ok_iff (hanswer : db.executor.AnswersByQuery answer) {mode : CallMode}
    {source target : String} {node : Clause} {items items' : List (M.Item source)}
    {calls later : List Call} :
    (db.resolve M mode target node items).run calls = ((.ok (), items'), later) ↔
      ∃ prepared rows,
        PreparedLookup.of db.registry source target node (Database.readers M items) =
          .ok prepared ∧
        answerOptional answer prepared.query = .ok rows ∧
        prepared.lookup.attach M db.registry target rows items = (.ok (), items') ∧
        later = calls ++ lookupCalls mode [prepared.query] := by
  rcases hprepared : PreparedLookup.of db.registry source target node (Database.readers M items)
    with e | prepared
  · rw [Database.run_resolve_of_prepare_error M hprepared]
    constructor
    · intro h
      cases h
    · rintro ⟨_, _, h, -⟩
      cases h
  have hfetch := Executor.runAfter_fetchOptional hanswer mode prepared.query calls
  rcases hrows : answerOptional answer prepared.query with e | rows
  · rw [hrows] at hfetch
    rw [Database.run_resolve_of_fetch_error M hprepared hfetch]
    constructor
    · intro h
      cases h
    · rintro ⟨_, _, h, hanswered, -⟩
      cases h
      rw [hrows] at hanswered
      cases hanswered
  · rw [hrows] at hfetch
    rw [Database.run_resolve_of_fetch M hprepared hfetch]
    constructor
    · intro h
      obtain ⟨hattach, hlater⟩ := Prod.mk.inj h
      exact ⟨prepared, rows, rfl, hrows, hattach, hlater.symm⟩
    · rintro ⟨_, rows', h, hanswered, hattach, rfl⟩
      cases h
      rw [hrows] at hanswered
      cases hanswered
      exact congrArg (·, _) hattach

theorem Loaded.nil {registry : Registry} {entity : String} (items : List (M.Item entity)) :
    Loaded M registry answer [] items items [] [] :=
  ⟨.nil, rfl, rfl⟩

/-- A load starts with its first related entity. Since the stored fields stay as they are, the later
lookups are prepared for the items as they were. -/
theorem loaded_cons_iff {registry : Registry} {entity : String}
    (hset : M.SettersKeepFields entity) {related : Include} {includes : List Include}
    {items items' : List (M.Item entity)} {first : PreparedLookup} {prepared : List PreparedLookup}
    {found : List Row} {rows : List (List Row)} :
    Loaded M registry answer (related :: includes) items items' (first :: prepared)
        (found :: rows) ↔
      ∃ between,
        PreparedLookup.of registry entity related.target related.node
          (Database.readers M items) = .ok first ∧
        answerOptional answer first.query = .ok found ∧
        first.lookup.attach M registry related.target found items = (.ok (), between) ∧
        Loaded M registry answer includes between items' prepared rows := by
  have hreaders : ∀ {between : List (M.Item entity)},
      first.lookup.attach M registry related.target found items = (.ok (), between) →
        Database.readers M between = Database.readers M items := by
    intro between hattach
    have h := Lookup.readers_attach hset registry related.target first.lookup found items
    rwa [hattach] at h
  constructor
  · rintro ⟨hprepares, hanswers, hattaches⟩
    obtain ⟨hfirst, hprepares⟩ := List.forall₂_cons.1 hprepares
    obtain ⟨hfound, hanswers⟩ := List.cons.inj hanswers
    obtain ⟨between, hattach, hattaches⟩ := attachAll_cons_eq_ok_iff.1 hattaches
    rw [← hreaders hattach] at hprepares
    exact ⟨between, hfirst, hfound, hattach, hprepares, hanswers, hattaches⟩
  · rintro ⟨between, hfirst, hfound, hattach, hprepares, hanswers, hattaches⟩
    rw [hreaders hattach] at hprepares
    exact ⟨.cons hfirst hprepares, congrArg₂ List.cons hfound hanswers,
      attachAll_cons_eq_ok_iff.2 ⟨between, hattach, hattaches⟩⟩

theorem loadInTurn_eq_ok_iff (hanswer : db.executor.AnswersByQuery answer) {entity : String}
    (hset : M.SettersKeepFields entity) {includes : List Include}
    {items items' : List (M.Item entity)} {calls later : List Call} :
    (loadInTurn M db includes items).runAfter calls = (.ok items', later) ↔
      ∃ prepared rows, Loaded M db.registry answer includes items items' prepared rows ∧
        later = calls ++ lookupCalls .blocking (prepared.map (·.query)) := by
  induction includes generalizing items calls with
  | nil =>
      constructor
      · intro h
        cases h
        exact ⟨[], [], .nil _, (List.append_nil _).symm⟩
      · rintro ⟨prepared, rows, ⟨hprepares, -, hattaches⟩, rfl⟩
        obtain rfl : prepared = [] := List.forall₂_nil_left_iff.1 hprepares
        obtain rfl : items = items' := Except.ok.inj hattaches
        rw [List.map_nil, lookupCalls, List.filterMap_nil, List.map_nil, List.append_nil]
        rfl
  | cons related includes ih =>
      rw [loadInTurn, Session.runAfter_lift_bind]
      constructor
      · rcases hrun : (db.resolve M .blocking related.target related.node items).run calls with
          ⟨⟨result, between⟩, middle⟩
        intro h
        dsimp only at h
        obtain ⟨⟨⟩, _, hresult, h⟩ := Session.runAfter_bind_eq_ok.1 h
        obtain ⟨rfl, rfl⟩ := Session.runAfter_ofExcept_eq_ok.1 hresult
        obtain ⟨first, found, hfirst, hfound, hattach, rfl⟩ :=
          (run_resolve_eq_ok_iff hanswer).1 hrun
        obtain ⟨prepared, rows, hloaded, rfl⟩ := ih.1 h
        refine ⟨first :: prepared, found :: rows,
          (loaded_cons_iff hset).2 ⟨_, hfirst, hfound, hattach, hloaded⟩, ?_⟩
        rw [List.map_cons, lookupCalls_cons _ first.query (prepared.map _), List.append_assoc]
      · rintro ⟨prepared, rows, hloaded, rfl⟩
        obtain ⟨first, prepared, hfirst, hrest, rfl⟩ :=
          List.forall₂_cons_left_iff.1 hloaded.prepares
        obtain ⟨found, rows, rfl⟩ := hloaded.exists_rows
        obtain ⟨between, hfirst, hfound, hattach, hloaded⟩ := (loaded_cons_iff hset).1 hloaded
        have hresolve : (db.resolve M .blocking related.target related.node items).run calls =
            ((.ok (), between), calls ++ lookupCalls .blocking [first.query]) :=
          (run_resolve_eq_ok_iff hanswer).2 ⟨first, found, hfirst, hfound, hattach, rfl⟩
        rw [hresolve]
        refine Session.runAfter_bind_eq_ok.2 ⟨⟨⟩, _, rfl, ih.2 ⟨prepared, rows, hloaded, ?_⟩⟩
        rw [List.map_cons, lookupCalls_cons _ first.query (prepared.map _), List.append_assoc]

theorem loadTogether_eq_ok_iff (hanswer : db.executor.AnswersByQuery answer) {entity : String}
    {completion : Completion} {includes : List Include} {items items' : List (M.Item entity)}
    {calls later : List Call} :
    (loadTogether M db completion includes items).runAfter calls = (.ok items', later) ↔
      ∃ prepared rows, Loaded M db.registry answer includes items items' prepared rows ∧
        later = calls ++ lookupCalls .concurrent (prepared.map (·.query)) := by
  have hfetch (queries : List (Option SqlQuery)) (rows : List (List Row)) (between : List Call) :
      (db.executor.fetchAll completion queries).runAfter calls = (.ok rows, between) ↔
        queries.map (answerOptional answer) = rows.map .ok ∧
          calls ++ lookupCalls .concurrent queries = between := by
    rw [Executor.runAfter_fetchAll_eq_ok, Executor.run_fetchEach hanswer, Prod.mk.injEq]
  unfold loadTogether
  constructor
  · intro h
    obtain ⟨prepared, between, hprepare, h⟩ := Session.runAfter_bind_eq_ok.1 h
    obtain ⟨hprepared, rfl⟩ := Session.runAfter_ofExcept_eq_ok.1 hprepare
    obtain ⟨rows, between, hrows, h⟩ := Session.runAfter_bind_eq_ok.1 h
    obtain ⟨hanswers, rfl⟩ := (hfetch _ _ _).1 hrows
    obtain ⟨hattaches, rfl⟩ := Session.runAfter_ofExcept_eq_ok.1 h
    rw [List.map_map] at hanswers
    exact ⟨prepared, rows, ⟨prepareAll_eq_ok_iff.1 hprepared, hanswers, hattaches⟩, rfl⟩
  · rintro ⟨prepared, rows, ⟨hprepares, hanswers, hattaches⟩, rfl⟩
    refine Session.runAfter_bind_eq_ok.2 ⟨prepared, calls,
      Session.runAfter_ofExcept_eq_ok.2 ⟨prepareAll_eq_ok_iff.2 hprepares, rfl⟩, ?_⟩
    refine Session.runAfter_bind_eq_ok.2 ⟨rows, _,
      (hfetch _ _ _).2 ⟨by rw [List.map_map]; exact hanswers, rfl⟩, ?_⟩
    exact Session.runAfter_ofExcept_eq_ok.2 ⟨hattaches, rfl⟩

/-- Attaching all rows leaves the stored fields of the items as they are. -/
theorem readers_attachAll {registry : Registry} {entity : String}
    (hset : M.SettersKeepFields entity) {parts : List (Include × PreparedLookup × List Row)}
    {items items' : List (M.Item entity)} (h : attachAll M registry parts items = .ok items') :
    Database.readers M items' = Database.readers M items := by
  induction parts generalizing items with
  | nil => rw [Except.ok.inj h]
  | cons part parts ih =>
      obtain ⟨between, hfirst, hrest⟩ := attachAll_cons_eq_ok_iff.1 h
      have hreaders := Lookup.readers_attach hset registry part.1.target part.2.1.lookup part.2.2
        items
      rw [hfirst] at hreaders
      exact (ih hrest).trans hreaders

theorem selected_eq_ok_iff (hanswer : db.executor.AnswersByQuery answer) {mode : CallMode}
    {q : Query} {items : List (M.Item q.entity)} {calls later : List Call} :
    (q.selected M db mode).runAfter calls = (.ok items, later) ↔
      ∃ primary rows, q.compileAs db.registry .select = .ok primary ∧ answer primary = .ok rows ∧
        materialize M db.registry q.entity rows = .ok items ∧
        later = calls ++ [⟨mode, .query, primary⟩] := by
  unfold selected
  constructor
  · intro h
    obtain ⟨primary, _, hcompile, h⟩ := Session.runAfter_bind_eq_ok.1 h
    obtain ⟨hcompiled, rfl⟩ := Session.runAfter_ofExcept_eq_ok.1 hcompile
    obtain ⟨rows, _, hfetch, h⟩ := Session.runAfter_bind_eq_ok.1 h
    rw [Executor.runAfter_fetch hanswer] at hfetch
    obtain ⟨hrows, rfl⟩ := Prod.mk.inj hfetch
    obtain ⟨hitems, rfl⟩ := Session.runAfter_ofExcept_eq_ok.1 h
    exact ⟨primary, rows, hcompiled, hrows, hitems, rfl⟩
  · rintro ⟨primary, rows, hcompiled, hrows, hitems, rfl⟩
    refine Session.runAfter_bind_eq_ok.2 ⟨primary, calls,
      Session.runAfter_ofExcept_eq_ok.2 ⟨hcompiled, rfl⟩, ?_⟩
    refine Session.runAfter_bind_eq_ok.2 ⟨rows, calls ++ [⟨mode, .query, primary⟩], ?_,
      Session.runAfter_ofExcept_eq_ok.2 ⟨hitems, rfl⟩⟩
    rw [Executor.runAfter_fetch hanswer, hrows]

/-- What a run of a query comes to, whichever way its related entities are loaded: its compiled
query, the lookups prepared for the selected items, and the items with everything attached. -/
def Finishes (M : Model) (db : Database) (answer : SqlQuery → Except QueryError (List Row))
    (q : Query) (primary : SqlQuery) (prepared : List PreparedLookup)
    (items : List (M.Item q.entity)) : Prop :=
  q.compileAs db.registry .select = .ok primary ∧
    ∃ found selected rows, answer primary = .ok found ∧
      materialize M db.registry q.entity found = .ok selected ∧
      Loaded M db.registry answer q.includes selected items prepared rows

/-- The calls of a run: the query itself, and then the lookups that need a query. -/
def runCalls (mode : CallMode) (primary : SqlQuery) (prepared : List PreparedLookup) : List Call :=
  (primary :: prepared.filterMap (·.query)).map (Call.mk mode .query)

theorem runCalls_eq (mode : CallMode) (primary : SqlQuery) (prepared : List PreparedLookup) :
    runCalls mode primary prepared =
      [⟨mode, .query, primary⟩] ++ lookupCalls mode (prepared.map (·.query)) := by
  rw [runCalls, lookupCalls, List.filterMap_map]
  rfl

section

variable {q : Query} {items : List (M.Item q.entity)} {calls later : List Call}

/-- A run selects items and then loads onto them. -/
theorem selected_bind_eq_ok_iff (hanswer : db.executor.AnswersByQuery answer) {mode : CallMode}
    {load : List (M.Item q.entity) → Session (List (M.Item q.entity))}
    (hload : ∀ {selected items : List (M.Item q.entity)} {calls later : List Call},
      (load selected).runAfter calls = (.ok items, later) ↔
        ∃ prepared rows, Loaded M db.registry answer q.includes selected items prepared rows ∧
          later = calls ++ lookupCalls mode (prepared.map (·.query))) :
    (q.selected M db mode >>= load).runAfter calls = (.ok items, later) ↔
      ∃ primary prepared, Finishes M db answer q primary prepared items ∧
        later = calls ++ runCalls mode primary prepared := by
  constructor
  · intro h
    obtain ⟨selected, _, hselect, h⟩ := Session.runAfter_bind_eq_ok.1 h
    obtain ⟨primary, found, hcompiled, hfound, hselected, rfl⟩ :=
      (selected_eq_ok_iff hanswer).1 hselect
    obtain ⟨prepared, rows, hloaded, rfl⟩ := hload.1 h
    refine ⟨primary, prepared, ⟨hcompiled, found, selected, rows, hfound, hselected, hloaded⟩, ?_⟩
    rw [runCalls_eq, List.append_assoc]
  · rintro ⟨primary, prepared, ⟨hcompiled, found, selected, rows, hfound, hselected, hloaded⟩, rfl⟩
    refine Session.runAfter_bind_eq_ok.2 ⟨selected, _, (selected_eq_ok_iff hanswer).2
      ⟨primary, found, hcompiled, hfound, hselected, rfl⟩, ?_⟩
    rw [hload, runCalls_eq, ← List.append_assoc]
    exact ⟨prepared, rows, hloaded, rfl⟩

theorem all_eq_ok_iff (hanswer : db.executor.AnswersByQuery answer)
    (hset : M.SettersKeepFields q.entity) :
    (q.all M db).runAfter calls = (.ok items, later) ↔
      ∃ primary prepared, Finishes M db answer q primary prepared items ∧
        later = calls ++ runCalls .blocking primary prepared :=
  selected_bind_eq_ok_iff hanswer (loadInTurn_eq_ok_iff hanswer hset)

theorem allConcurrently_eq_ok_iff (hanswer : db.executor.AnswersByQuery answer)
    {completion : Completion} :
    (q.allConcurrently M db completion).runAfter calls = (.ok items, later) ↔
      ∃ primary prepared, Finishes M db answer q primary prepared items ∧
        later = calls ++ runCalls .concurrent primary prepared :=
  selected_bind_eq_ok_iff hanswer (loadTogether_eq_ok_iff hanswer)

/-- The lookups of a finished run are those for the items that it returns. -/
theorem Finishes.prepares (hset : M.SettersKeepFields q.entity) {primary : SqlQuery}
    {prepared : List PreparedLookup} (h : Finishes M db answer q primary prepared items) :
    Prepares db.registry q.entity (Database.readers M items) q.includes prepared := by
  obtain ⟨-, found, selected, rows, -, -, hloaded⟩ := h
  rw [readers_attachAll hset hloaded.attaches]
  exact hloaded.prepares

end

theorem Prepares.isSome_query {registry : Registry} {entity : String} {items : List FieldReader}
    {includes : List Include} {prepared : List PreparedLookup}
    (h : Prepares registry entity items includes prepared) :
    ∀ lookup ∈ prepared, lookup.query.isSome = lookup.lookup.hasKeys := by
  intro lookup hmem
  obtain ⟨related, -, hprepared⟩ := forall₂_exists_left h lookup hmem
  exact Lookup.isSome_query_of_prepared hprepared

/-- Loading related entities in turn and loading them together, in whatever order the lookups are
done, return the same items or both fail. If they succeed, both make the same calls but for the
mode: the compiled query first, and then one lookup for each related entity of which some item has a
key. -/
theorem all_agrees_with_allConcurrently {M : Model} {db : Database}
    {answer : SqlQuery → Except QueryError (List Row)}
    (hanswer : db.executor.AnswersByQuery answer) {q : Query}
    (hset : M.SettersKeepFields q.entity) (completion : Completion) (calls calls' : List Call)
    (items : List (M.Item q.entity)) :
    (((q.all M db).runAfter calls).1 = .ok items ↔
        ((q.allConcurrently M db completion).runAfter calls').1 = .ok items) ∧
      (((q.all M db).runAfter calls).1 = .ok items →
        ∃ primary prepared,
          q.compileAs db.registry .select = .ok primary ∧
          Prepares db.registry q.entity (Database.readers M items) q.includes prepared ∧
          (∀ lookup ∈ prepared, lookup.query.isSome = lookup.lookup.hasKeys) ∧
          ((q.all M db).runAfter calls).2 = calls ++ runCalls .blocking primary prepared ∧
          ((q.allConcurrently M db completion).runAfter calls').2 =
            calls' ++ runCalls .concurrent primary prepared) := by
  have hblocking {primary : SqlQuery} {prepared : List PreparedLookup}
      (h : Finishes M db answer q primary prepared items) :
      (q.all M db).runAfter calls = (.ok items, calls ++ runCalls .blocking primary prepared) :=
    (all_eq_ok_iff hanswer hset).2 ⟨primary, prepared, h, rfl⟩
  have hconcurrent {primary : SqlQuery} {prepared : List PreparedLookup}
      (h : Finishes M db answer q primary prepared items) :
      (q.allConcurrently M db completion).runAfter calls' =
        (.ok items, calls' ++ runCalls .concurrent primary prepared) :=
    (allConcurrently_eq_ok_iff hanswer).2 ⟨primary, prepared, h, rfl⟩
  refine ⟨⟨fun hok => ?_, fun hok => ?_⟩, fun hok => ?_⟩
  · obtain ⟨primary, prepared, h, -⟩ := (all_eq_ok_iff hanswer hset).1 (Prod.ext hok rfl)
    rw [hconcurrent h]
  · obtain ⟨primary, prepared, h, -⟩ := (allConcurrently_eq_ok_iff hanswer).1 (Prod.ext hok rfl)
    rw [hblocking h]
  · obtain ⟨primary, prepared, h, -⟩ := (all_eq_ok_iff hanswer hset).1 (Prod.ext hok rfl)
    have hprepares := h.prepares hset
    exact ⟨primary, prepared, h.1, hprepares, hprepares.isSome_query, by rw [hblocking h],
      by rw [hconcurrent h]⟩

/-- The sample model of sales and customers, both read from a row of two numbers. -/
def sampleShop : Model :=
  { sampleModel with
    ofRow := fun _ row _ =>
      match row.columns with
      | [(_, .int32 region), (_, .int32 no)] => .ok (⟨region, no, []⟩ : SampleItem)
      | _ => .error .notFound }

/-- Customers are kept apart from the fields of a sale. -/
theorem sampleShop_settersKeepFields (entity : String) : sampleShop.SettersKeepFields entity := by
  constructor
  · rintro target item item' field found h
    cases h
    rfl
  · rintro target item item' field found h
    cases h
    rfl

/-- The answers of a database with two sales and the customers of the sample table. -/
def sampleAnswer (query : SqlQuery) : Except QueryError (List Row) :=
  if query.table = "sales" then
    .ok [⟨[("region", .int32 2), ("customer_no", .int32 9)]⟩,
      ⟨[("region", .int32 5), ("customer_no", .int32 7)]⟩]
  else
    .ok (sampleTable.filter fun row =>
      (sampleTuples query.params.entries).contains (row.columns.map fun c => c.2.key))

def sampleShopDatabase : Database where
  registry := sampleRegistry
  executor := ⟨fun _ _ query => sampleAnswer query, fun _ _ _ => .error .notFound⟩

/-- All sales with their customers, asked for twice, the second time in an order. -/
def sampleSalesQuery : Query :=
  ((Query.of "Sale").including "Customer" "Customer" []).including "Customer" "Customer"
    [.of .orderBy (.rootField "No")]

/-- The sales of the sample query with their customers. -/
def sampleShopSales : List (sampleShop.Item sampleSalesQuery.entity) :=
  ([⟨2, 9, [(2, 9)]⟩, ⟨5, 7, []⟩] : List SampleItem)

instance (entity : String) : DecidableEq (sampleShop.Item entity) :=
  inferInstanceAs (DecidableEq SampleItem)

/-- Loaded together, with the last lookup done first, the sales get the customers that they get in
turn, by three calls. -/
theorem all_agrees_with_allConcurrently_sample :
    ((sampleSalesQuery.all sampleShop sampleShopDatabase).runAfter []).1 = .ok sampleShopSales ∧
      ((sampleSalesQuery.allConcurrently sampleShop sampleShopDatabase .lastFirst).runAfter
        []).1 = .ok sampleShopSales ∧
      ∃ primary prepared,
        ((sampleSalesQuery.allConcurrently sampleShop sampleShopDatabase .lastFirst).runAfter
          []).2 = runCalls .concurrent primary prepared ∧
        (runCalls .concurrent primary prepared).length = 3 := by
  have hanswer : sampleShopDatabase.executor.AnswersByQuery sampleAnswer := fun _ _ _ => rfl
  have hset := sampleShop_settersKeepFields sampleSalesQuery.entity
  have hloaded : (sampleSalesQuery.all sampleShop sampleShopDatabase).succeedsWith []
      (fun sales calls => sales = sampleShopSales ∧ calls.length = 3) = true := by
    decide +kernel
  obtain ⟨sales, calls, hrun, hloaded⟩ := Session.exists_of_succeedsWith hloaded
  obtain ⟨rfl, hlength⟩ := of_decide_eq_true hloaded
  obtain ⟨hagree, hcalls⟩ := all_agrees_with_allConcurrently hanswer hset .lastFirst [] []
    sampleShopSales
  rw [hrun] at hagree hcalls ⊢
  obtain ⟨primary, prepared, -, -, -, hblocking, hconcurrent⟩ := hcalls rfl
  refine ⟨rfl, hagree.1 rfl, primary, prepared, hconcurrent, ?_⟩
  have hsame : (runCalls .concurrent primary prepared).length =
      (runCalls .blocking primary prepared).length := by
    rw [runCalls, runCalls, List.length_map, List.length_map]
  rw [hsame, ← hlength]
  exact congrArg List.length hblocking.symm

end Query

end EntityQuery
