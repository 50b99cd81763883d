import EntityQuery.Proofs.Query.Calls
import EntityQuery.Proofs.Query.History

/-!
# Included entities over histories

A load compiles the clauses that were declared since the last compilation, and then looks up every
related entity that was ever included, each once and in order. A compilation uses up the references
among the clauses but not the list of what to load. So the lookups are those of the references that
the load has compiled if and only if nothing was included before the last compilation.
-/
namespace EntityQuery

/-- The answers to lookups that run together are those that the executor gives to each. -/
theorem Executor.forall₂_fetchEach (executor : Executor) (queries : List (Option SqlQuery))
    (calls : List Call) :
    List.Forall₂ (fun query answer =>
        ∃ made, ((executor.fetchOptional .concurrent query).runAfter made).1 = answer)
      queries ((executor.fetchEach queries).run calls).1 := by
  induction queries generalizing calls with
  | nil => exact .nil
  | cons query queries ih => exact .cons ⟨calls, rfl⟩ (ih _)

namespace Query

/-- The executor gives rows for a lookup that is prepared, after some calls. -/
def Fetches (db : Database) (mode : CallMode) (prepared : PreparedLookup)
    (rows : List Row) : Prop :=
  ∃ calls, ((db.executor.fetchOptional mode prepared.query).runAfter calls).1 = .ok rows

/-- A related entity that is loaded, the lookup that is prepared for it, and the rows that are
attached. -/
abbrev LoadPart := Include × PreparedLookup × List Row

/-- The part of a load for a related entity at its turn: its lookup is prepared for the items of the
turn, and the rows are those that the executor has for the lookup. -/
structure IsPart (db : Database) (mode : CallMode) (entity : String)
    (turn : Include × List FieldReader) (part : LoadPart) : Prop where
  related : turn.1 = part.1
  prepared : PreparedLookup.of db.registry entity part.1.target part.1.node turn.2 = .ok part.2.1
  fetched : Fetches db mode part.2.1 part.2.2

/-- A load that succeeds, by its parts: there is one for each related entity in turn, all of them
are attached in order, and their lookups are the calls. -/
structure LoadsInParts (M : Model) (db : Database) (mode : CallMode) {entity : String}
    (includes : List Include) (selected items : List (M.Item entity)) (calls later : List Call)
    (parts : List LoadPart) : Prop where
  turnwise : List.Forall₂ (IsPart db mode entity) (turns M db mode includes selected calls) parts
  attached : attachAll M db.registry parts selected = .ok items
  called : later = calls ++ lookupCalls mode (parts.map (·.2.1.query))

variable {M : Model} {db : Database} {mode : CallMode} {entity : String}

theorem map_fst_turns (includes : List Include) (items : List (M.Item entity))
    (calls : List Call) : (turns M db mode includes items calls).map (·.1) = includes := by
  cases mode with
  | blocking =>
    rw [turns]
    induction includes generalizing items calls with
    | nil => rfl
    | cons related includes ih => exact congrArg (related :: ·) (ih _ _)
  | concurrent => simp [turns, Function.comp_def]

/-- The parts of a load are for its related entities, in order. -/
theorem LoadsInParts.related {includes : List Include} {selected items : List (M.Item entity)}
    {calls later : List Call} {parts : List LoadPart}
    (h : LoadsInParts M db mode includes selected items calls later parts) :
    parts.map (·.1) = includes := by
  rw [← map_fst_turns includes selected calls]
  exact (map_eq_map_of_forall₂ h.turnwise fun _ _ hpart => hpart.related).symm

/-- A related entity that is loaded has its lookup prepared, fetched and attached. -/
theorem part_of_resolve {source target : String} {node : Clause}
    {items items' : List (M.Item source)} {calls later : List Call}
    (h : (db.resolve M mode target node items).run calls = ((.ok (), items'), later)) :
    ∃ prepared rows,
      PreparedLookup.of db.registry source target node (Database.readers M items) = .ok prepared ∧
      Fetches db mode prepared rows ∧
      prepared.lookup.attach M db.registry target rows items = (.ok (), items') ∧
      later = calls ++ lookupCalls mode [prepared.query] := by
  obtain ⟨prepared, hprepared⟩ := exists_prepared_of_resolve h
  have hcalls := db.executor.calls_fetchOptional mode prepared.query calls
  rcases hfetch : (db.executor.fetchOptional mode prepared.query).runAfter calls with
    ⟨e | rows, between⟩
  · rw [Database.run_resolve_of_fetch_error M hprepared hfetch] at h
    cases h
  · rw [Database.run_resolve_of_fetch M hprepared hfetch] at h
    rw [hfetch] at hcalls
    obtain ⟨hattach, rfl⟩ := Prod.mk.inj h
    exact ⟨prepared, rows, hprepared, ⟨calls, by rw [hfetch]⟩, hattach, hcalls⟩

/-- Lookups that are fetched together have the rows that the executor gives to each. -/
theorem fetched_of_fetchAll {completion : Completion} {prepared : List PreparedLookup}
    {rows : List (List Row)} {calls later : List Call}
    (h : (db.executor.fetchAll completion (prepared.map (·.query))).runAfter calls =
      (.ok rows, later)) :
    List.Forall₂ (Fetches db .concurrent) prepared rows ∧
      later = calls ++ lookupCalls .concurrent (prepared.map (·.query)) := by
  have heach := Executor.runAfter_fetchAll_eq_ok.1 h
  have hcalls := db.executor.calls_fetchEach (prepared.map (·.query)) calls
  have hanswers := db.executor.forall₂_fetchEach (prepared.map (·.query)) calls
  rw [heach] at hcalls hanswers
  rw [List.forall₂_map_left_iff, List.forall₂_map_right_iff] at hanswers
  exact ⟨hanswers, hcalls⟩

/-- Lookups that are prepared for the same items and then fetched are the parts for these. -/
theorem forall₂_isPart {includes : List Include} {readers : List FieldReader}
    {prepared : List PreparedLookup} {rows : List (List Row)}
    (hprepares : Prepares db.registry entity readers includes prepared)
    (hfetched : List.Forall₂ (Fetches db mode) prepared rows) :
    List.Forall₂ (IsPart db mode entity) (includes.map fun related => (related, readers))
      (includes.zip (prepared.zip rows)) := by
  induction hprepares generalizing rows with
  | nil => exact .nil
  | cons hfirst _ ih =>
    obtain ⟨found, rows, hfound, hrest, rfl⟩ := List.forall₂_cons_left_iff.1 hfetched
    exact .cons ⟨rfl, hfirst, hfound⟩ (ih hrest)

/-- A load that succeeds has its parts. -/
theorem loads_of_loadIn {completion : Completion} {includes : List Include}
    {selected items : List (M.Item entity)} {calls later : List Call}
    (h : (loadIn M db completion mode includes selected).runAfter calls = (.ok items, later)) :
    ∃ parts, LoadsInParts M db mode includes selected items calls later parts := by
  cases mode with
  | blocking =>
    induction includes generalizing selected calls with
    | nil =>
      cases h
      exact ⟨[], .nil, rfl, (List.append_nil _).symm⟩
    | cons related includes ih =>
      have hload : (loadInTurn M db (related :: includes) selected).runAfter calls =
          (.ok items, later) := h
      rw [loadInTurn, Session.runAfter_lift_bind] at hload
      rcases hrun : (db.resolve M .blocking related.target related.node selected).run calls with
        ⟨⟨result, between⟩, middle⟩
      rw [hrun] at hload
      obtain ⟨⟨⟩, _, hresult, hload⟩ := Session.runAfter_bind_eq_ok.1 hload
      obtain ⟨rfl, rfl⟩ := Session.runAfter_ofExcept_eq_ok.1 hresult
      obtain ⟨prepared, rows, hprepared, hfetched, hattach, rfl⟩ := part_of_resolve hrun
      obtain ⟨parts, hparts, hattached, rfl⟩ := ih hload
      refine ⟨(related, prepared, rows) :: parts, ?_, ?_, ?_⟩
      · rw [turns, turnsFrom, hrun]
        exact .cons ⟨rfl, hprepared, hfetched⟩ hparts
      · exact attachAll_cons_eq_ok_iff.2 ⟨between, hattach, hattached⟩
      · rw [List.map_cons, lookupCalls_cons _ prepared.query (parts.map _), List.append_assoc]
  | concurrent =>
    have hload : (loadTogether M db completion includes selected).runAfter calls =
        (.ok items, later) := h
    obtain ⟨prepared, _, hprepare, hload⟩ := Session.runAfter_bind_eq_ok.1 hload
    obtain ⟨hprepared, rfl⟩ := Session.runAfter_ofExcept_eq_ok.1 hprepare
    obtain ⟨rows, _, hfetch, hload⟩ := Session.runAfter_bind_eq_ok.1 hload
    obtain ⟨hattached, rfl⟩ := Session.runAfter_ofExcept_eq_ok.1 hload
    have hprepares := prepareAll_eq_ok_iff.1 hprepared
    obtain ⟨hfetched, hcalls⟩ := fetched_of_fetchAll hfetch
    refine ⟨includes.zip (prepared.zip rows), forall₂_isPart hprepares hfetched, hattached, ?_⟩
    have hincludes : includes.length = prepared.length := hprepares.length_eq
    have hrows : prepared.length = rows.length := hfetched.length_eq
    have hqueries : (includes.zip (prepared.zip rows)).map (·.2.1.query) =
        prepared.map (·.query) := by
      have hsnd : (includes.zip (prepared.zip rows)).map Prod.snd = prepared.zip rows :=
        List.map_snd_zip (by simp [hincludes, hrows])
      have hfst := List.map_fst_zip (Nat.le_of_eq hrows)
      calc (includes.zip (prepared.zip rows)).map (·.2.1.query)
        _ = ((includes.zip (prepared.zip rows)).map Prod.snd).map (·.1.query) := by
          rw [List.map_map]
          rfl
        _ = ((prepared.zip rows).map Prod.fst).map (·.query) := by
          rw [hsnd, List.map_map]
          rfl
        _ = prepared.map (·.query) := by rw [hfst]
    rw [hcalls, hqueries]

/-- The related entities that are included, in order. -/
def includesOf (declarations : List Declaration) : List Include :=
  declarations.filterMap Declaration.include?

/-- The references among declared clauses are those of what is included. -/
theorem ofKind_reference_declaredClauses (declarations : List Declaration) :
    (declaredClauses declarations).ofKind .reference = (includesOf declarations).map (·.node) := by
  rw [declaredClauses, Clauses.ofList, Clauses.ofKind_extend rfl]
  refine (List.nil_append _).trans ?_
  induction declarations with
  | nil => rfl
  | cons declaration declarations ih =>
    cases declaration with
    | including target field constraints =>
      exact congrArg (Clause.reference field constraints :: ·) ih
    | _ => exact ih

/-- A load compiles what was declared since the last compilation, and looks up and attaches what was
ever included, before it and since. So its lookups are those of the references that it compiles, in
order, if and only if nothing was included before the last compilation. -/
theorem includes_of_load (M : Model) (db : Database) (completion : Completion) (mode : CallMode)
    (entity : String) (history : List Action) (calls : List Call) :
    let q := (Query.of entity).after db.registry history
    ∀ (items : List (M.Item q.entity)) (later : List Call),
      (q.allIn M db completion mode).runAfter calls = (.ok items, later) →
      ∃ primary selected parts,
        Sql.compile db.registry entity (declaredClauses (pending history)) = .ok primary ∧
        (q.selected M db mode).runAfter calls =
          (.ok selected, calls ++ [⟨mode, .query, primary⟩]) ∧
        LoadsInParts M db mode q.includes selected items (calls ++ [⟨mode, .query, primary⟩]) later
          parts ∧
        parts.map (·.1) = includesOf (usedUp history) ++ includesOf (pending history) ∧
        (declaredClauses (pending history)).ofKind .reference =
          (includesOf (pending history)).map (·.node) ∧
        (parts.map (·.1.node) = (declaredClauses (pending history)).ofKind .reference ↔
          includesOf (usedUp history) = []) := by
  intro q items later h
  have hq : q = _ := after_of db.registry entity history
  rw [allIn_eq] at h
  obtain ⟨selected, between, hselected, hload⟩ := Session.runAfter_bind_eq_ok.1 h
  obtain ⟨primary, hcompile, rfl⟩ := compile_of_selected hselected
  obtain ⟨parts, hloads⟩ := loads_of_loadIn hload
  have hrelated : parts.map (·.1) =
      includesOf (usedUp history) ++ includesOf (pending history) := by
    rw [hloads.related, congrArg includes hq, ← usedUp_append_pending, List.filterMap_append]
    rfl
  have hreferences := ofKind_reference_declaredClauses (pending history)
  refine ⟨primary, selected, parts, ?_, hselected, hloads, hrelated, hreferences, ?_⟩
  · rw [← hcompile, hq]
  · have hnodes : parts.map (·.1.node) = (includesOf (usedUp history)).map (·.node) ++
        (includesOf (pending history)).map (·.node) := by
      rw [← List.map_append, ← hrelated, List.map_map]
      rfl
    rw [hnodes, hreferences, List.append_left_eq_self, List.map_eq_nil_iff]

/-- Sales that are ordered for a first compilation, and then include their customers. -/
def sampleReused : List Action :=
  [.declare (.orderBy (.rootField "No")), .compile,
    .declare (.including "Customer" "Customer" [])]

/-- The sales are then loaded with their customers: one lookup, for the one reference. -/
theorem includes_of_load_sample :
    let q := (Query.of "Sale").after sampleShopDatabase.registry sampleReused
    ∃ sales later primary selected parts,
      (q.allIn sampleShop sampleShopDatabase .inOrder .concurrent).runAfter [] =
        (.ok sales, later) ∧
      LoadsInParts sampleShop sampleShopDatabase .concurrent q.includes selected sales
        [⟨.concurrent, .query, primary⟩] later parts ∧
      parts.map (·.1.node) = [Clause.reference "Customer" []] ∧
      later.length = 2 := by
  intro q
  have hloaded : (q.allIn sampleShop sampleShopDatabase .inOrder .concurrent).succeedsWith []
      (fun _ later => later.length = 2) = true := by
    decide +kernel
  obtain ⟨sales, later, hrun, hlength⟩ := Session.exists_of_succeedsWith hloaded
  obtain ⟨primary, selected, parts, -, -, hloads, -, -, hnodes⟩ := includes_of_load sampleShop
    sampleShopDatabase .inOrder .concurrent "Sale" sampleReused [] sales later hrun
  exact ⟨sales, later, primary, selected, parts, hrun, hloads, hnodes.2 rfl,
    of_decide_eq_true hlength⟩

/-- Sales that include their customers, compiled once. -/
def sampleUsed : List Action :=
  [.declare (.including "Customer" "Customer" []), .compile]

/-- If they are then loaded, no reference is left to be compiled, and yet a second call looks up the
customers, and they are attached. -/
theorem used_include_loaded :
    (declaredClauses (pending sampleUsed)).ofKind .reference = [] ∧
    ∃ sales later,
      (((Query.of "Sale").after sampleShopDatabase.registry sampleUsed).all sampleShop
        sampleShopDatabase).runAfter [] = (.ok sales, later) ∧
      sales.map SampleItem.customers = [[(2, 9)], []] ∧ later.length = 2 := by
  refine ⟨rfl, ?_⟩
  have hloaded : (((Query.of "Sale").after sampleShopDatabase.registry sampleUsed).all sampleShop
      sampleShopDatabase).succeedsWith [] (fun sales later =>
        sales.map SampleItem.customers = [[(2, 9)], []] ∧ later.length = 2) = true := by
    decide +kernel
  obtain ⟨sales, later, hrun, hloaded⟩ := Session.exists_of_succeedsWith hloaded
  exact ⟨sales, later, hrun, of_decide_eq_true hloaded⟩

end Query

end EntityQuery
