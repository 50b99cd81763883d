import EntityQuery.Proofs.Reference.Merge

/-!
# Failures

All rows of a lookup are read before the first item is touched. A failure that is not the refusal of
an item therefore leaves all items as they were, at whatever row it occurs; and no setter has been
called, since with any other setters the same happens.
-/
namespace EntityQuery

namespace Model

/-- What puts related instances into the items of a model. -/
structure Setters (M : Model) where
  setOne : {source : String} → (target : String) → M.Item source → String →
    Option (M.Item target) → Except QueryError (M.Item source)
  setMany : {source : String} → (target : String) → M.Item source → String →
    List (M.Item target) → Except QueryError (M.Item source)

/-- The model with other setters. -/
@[reducible] def withSetters (M : Model) (setters : M.Setters) : Model where
  Item := M.Item
  ofRow := M.ofRow
  field? := M.field?
  setOne := setters.setOne
  setMany := setters.setMany

end Model

namespace Lookup

section

variable (M : Model) {source : String} (registry : Registry) (lookup : Lookup) (entity : String)

/-- Reads all rows, as those of the schema that the target of the lookup has. -/
def read (rows : List Row) (count : Nat) : Except QueryError (Index (M.Item entity)) := do
  let target ← registry.get lookup.target
  readRows M lookup entity target rows count

/-- The setter of an item fails, after those of the items before it have succeeded. -/
inductive Refuses (index : Index (M.Item entity)) (e : QueryError) :
    List (M.Item source) → List (Option (List Value)) → Prop
  | here {item : M.Item source} {key : Option (List Value)} {items : List (M.Item source)}
      {keys : List (Option (List Value))} :
      place M lookup entity item (index.matching key) = .error e →
        Refuses index e (item :: items) (key :: keys)
  | later {item item' : M.Item source} {key : Option (List Value)} {items : List (M.Item source)}
      {keys : List (Option (List Value))} :
      place M lookup entity item (index.matching key) = .ok item' →
        Refuses index e items keys → Refuses index e (item :: items) (key :: keys)

/-- All rows are read, and then the setter of an item fails. -/
def Refused (rows : List Row) (items : List (M.Item source)) (e : QueryError) : Prop :=
  ∃ index, lookup.read M registry entity rows items.length = .ok index ∧
    Refuses M lookup entity index e items lookup.itemKeys

end

variable {M : Model} {source entity : String} {registry : Registry} {lookup : Lookup}
  {rows : List Row} {items items' : List (M.Item source)} {e : QueryError}

/-- Setting items fails only if one of them refuses. -/
theorem refuses_of_setItems {index : Index (M.Item entity)} {keys : List (Option (List Value))}
    (h : setItems lookup entity index items keys = (.error e, items')) :
    Refuses M lookup entity index e items keys := by
  induction items generalizing keys items' with
  | nil => cases keys <;> cases h
  | cons item items ih =>
      cases keys with
      | nil => cases h
      | cons key keys =>
          rcases hplace : place M lookup entity item (index.matching key) with e' | item'
          · rw [setItems_cons_of_error hplace] at h
            cases h
            exact .here hplace
          · rw [setItems_cons_of_ok hplace] at h
            obtain ⟨herror, -⟩ := Prod.mk.inj h
            exact .later hplace (ih (Prod.ext herror rfl))

/-- If the rows cannot be read, the items stay as they are. -/
theorem attach_of_read_error
    (h : lookup.read M registry entity rows items.length = .error e) :
    lookup.attach M registry entity rows items = (.error e, items) := by
  rw [read] at h
  rw [attach, h]

/-- Otherwise they are set. -/
theorem attach_of_read {index : Index (M.Item entity)}
    (h : lookup.read M registry entity rows items.length = .ok index) :
    lookup.attach M registry entity rows items =
      setItems lookup entity index items lookup.itemKeys := by
  rw [read] at h
  rw [attach, h]

/-- Rows that cannot be attached cannot be read, unless an item refuses. -/
theorem read_of_attach_error (h : lookup.attach M registry entity rows items = (.error e, items'))
    (hrefused : ¬ lookup.Refused M registry entity rows items e) :
    lookup.read M registry entity rows items.length = .error e := by
  rcases hread : lookup.read M registry entity rows items.length with e' | index
  · rw [attach_of_read_error hread] at h
    cases h
    rfl
  · rw [attach_of_read hread] at h
    exact absurd ⟨index, hread, refuses_of_setItems h⟩ hrefused

/-- Rows are indexed without any setter. -/
theorem indexRows_withSetters (setters : M.Setters) {target : Schema} {many : Bool}
    {fields : List (String × FieldType)} {index : Index (M.Item entity)} :
    indexRows (M.withSetters setters) entity target many fields index rows =
      indexRows M entity target many fields index rows := by
  induction rows generalizing index with
  | nil => rfl
  | cons row rows ih => simp only [indexRows, ih]

theorem read_withSetters (setters : M.Setters) (count : Nat) :
    lookup.read (M.withSetters setters) registry entity rows count =
      lookup.read M registry entity rows count := by
  simp only [read, readRows, indexRows_withSetters]

theorem attach_of_failure (h : lookup.attach M registry entity rows items = (.error e, items'))
    (hrefused : ¬ lookup.Refused M registry entity rows items e) :
    items' = items ∧ ∀ setters : M.Setters,
      lookup.attach (M.withSetters setters) registry entity rows items = (.error e, items) := by
  have hread := read_of_attach_error h hrefused
  rw [attach_of_read_error hread] at h
  refine ⟨(Prod.mk.inj h).2.symm, fun setters => attach_of_read_error ?_⟩
  rw [read_withSetters, hread]

end Lookup

namespace Database

/-- The lookup for a reference clause succeeds and all its rows are read, and then the setter of an
item fails. -/
def Refused (db : Database) (M : Model) (mode : CallMode) {source : String} (target : String)
    (node : Clause) (items : List (M.Item source)) (calls : List Call) (e : QueryError) : Prop :=
  ∃ prepared rows later,
    PreparedLookup.of db.registry source target node (readers M items) = .ok prepared ∧
      (db.executor.fetchOptional mode prepared.query).runAfter calls = (.ok rows, later) ∧
      prepared.lookup.Refused M db.registry target rows items e

theorem run_resolve_of_failure {db : Database} {M : Model} {mode : CallMode}
    {source target : String} {node : Clause} {items items' : List (M.Item source)}
    {calls later : List Call} {e : QueryError}
    (h : (db.resolve M mode target node items).run calls = ((.error e, items'), later))
    (hrefused : ¬ db.Refused M mode target node items calls e) :
    items' = items ∧ ∀ setters : M.Setters,
      (db.resolve (M.withSetters setters) mode target node items).run calls =
        ((.error e, items), later) := by
  rcases hprepared : PreparedLookup.of db.registry source target node (readers M items)
    with failed | prepared
  · rw [run_resolve_of_prepare_error M hprepared] at h
    cases h
    exact ⟨rfl, fun setters => run_resolve_of_prepare_error (M.withSetters setters) hprepared⟩
  rcases hfetch : (db.executor.fetchOptional mode prepared.query).runAfter calls
    with ⟨failed | rows, between⟩
  · rw [run_resolve_of_fetch_error M hprepared hfetch] at h
    cases h
    exact ⟨rfl,
      fun setters => run_resolve_of_fetch_error (M.withSetters setters) hprepared hfetch⟩
  · rw [run_resolve_of_fetch M hprepared hfetch] at h
    obtain ⟨hrun, rfl⟩ := Prod.mk.inj h
    obtain ⟨hsame, hsetters⟩ := Lookup.attach_of_failure hrun fun hattached =>
      hrefused ⟨prepared, rows, between, hprepared, hfetch, hattached⟩
    refine ⟨hsame, fun setters => ?_⟩
    rw [run_resolve_of_fetch (M.withSetters setters) hprepared hfetch, hsetters setters]

end Database

/-- A failure that is not the refusal of an item leaves all items as they were, and no setter has
been called: with other setters the same happens. This is so when rows are attached, and when a
reference is loaded, whatever fails and whatever the executor answers. -/
theorem failure_touches_no_item (M : Model) {source : String} (items items' : List (M.Item source))
    (e : QueryError) :
    (∀ (registry : Registry) (lookup : Lookup) (entity : String) (rows : List Row),
      lookup.attach M registry entity rows items = (.error e, items') →
      ¬ lookup.Refused M registry entity rows items e →
      items' = items ∧ ∀ setters : M.Setters,
        lookup.attach (M.withSetters setters) registry entity rows items = (.error e, items)) ∧
    ∀ (db : Database) (mode : CallMode) (target : String) (node : Clause) (calls later : List Call),
      (db.resolve M mode target node items).run calls = ((.error e, items'), later) →
      ¬ db.Refused M mode target node items calls e →
      items' = items ∧ ∀ setters : M.Setters,
        (db.resolve (M.withSetters setters) mode target node items).run calls =
          ((.error e, items), later) :=
  ⟨fun _ _ _ _ => Lookup.attach_of_failure, fun _ _ _ _ _ _ => Database.run_resolve_of_failure⟩

/-- The rows of two customers, of which the second comes twice. -/
def sampleDuplicates : List Row :=
  [⟨[("region", .int32 1), ("no", .int32 7)]⟩, ⟨[("region", .int32 2), ("no", .int32 9)]⟩,
    ⟨[("region", .int32 2), ("no", .int32 9)]⟩]

/-- A database that finds a customer twice. -/
def sampleDuplicating : Database where
  registry := sampleRegistry
  executor :=
    { rows := fun _ _ _ => .ok sampleDuplicates
      changed := fun _ _ _ => .error .notFound }

/-- Whether the lookup for the customers of the sample sales asks for rows and cannot read the
duplicates. -/
def sampleDuplicatesCheck : Bool :=
  match PreparedLookup.of sampleRegistry "Sale" "Customer" (.reference "Customer" [])
      (Database.readers sampleModel sampleSales) with
  | .ok ⟨lookup, some _⟩ =>
      !(lookup.read sampleModel sampleRegistry "Customer" sampleDuplicates
        sampleSales.length).isOk
  | _ => false

/-- When a customer is found twice, no sale is touched. -/
theorem failure_touches_no_item_sample :
    (∃ e, Lookup.sampleMerge.attach sampleModel sampleRegistry "Customer" sampleDuplicates
        sampleSales = (.error e, sampleSales)) ∧
      ∃ e later, (sampleDuplicating.resolve sampleModel .blocking "Customer"
        (.reference "Customer" []) sampleSales).run [] = ((.error e, sampleSales), later) := by
  constructor
  · have hfailed : (Lookup.sampleMerge.attach sampleModel sampleRegistry "Customer"
        sampleDuplicates sampleSales).1.isOk = false := by
      decide +kernel
    have hunread : (Lookup.sampleMerge.read sampleModel sampleRegistry "Customer" sampleDuplicates
        sampleSales.length).isOk = false := by
      decide +kernel
    rcases hrun : Lookup.sampleMerge.attach sampleModel sampleRegistry "Customer"
      sampleDuplicates sampleSales with ⟨e | _, items'⟩
    · obtain ⟨rfl, -⟩ := (failure_touches_no_item sampleModel sampleSales items' e).1 _ _ _ _ hrun
        fun ⟨index, hread, _⟩ => by simp [hread, Except.isOk, Except.toBool] at hunread
      exact ⟨e, rfl⟩
    · rw [hrun] at hfailed
      cases hfailed
  · have hfailed : ((sampleDuplicating.resolve sampleModel .blocking "Customer"
        (.reference "Customer" []) sampleSales).run []).1.1.isOk = false := by
      decide +kernel
    have hcheck : sampleDuplicatesCheck = true := by decide +kernel
    rcases hrun : (sampleDuplicating.resolve sampleModel .blocking "Customer"
      (.reference "Customer" []) sampleSales).run [] with ⟨⟨e | _, items'⟩, later⟩
    · have hread : ¬ sampleDuplicating.Refused sampleModel .blocking "Customer"
          (.reference "Customer" []) sampleSales [] e := by
        rintro ⟨⟨lookup, query⟩, rows, later, hprepared, hfetch, index, hread, -⟩
        have hprepared : PreparedLookup.of sampleRegistry "Sale" "Customer"
            (.reference "Customer" []) (Database.readers sampleModel sampleSales) =
              .ok ⟨lookup, query⟩ := hprepared
        cases query with
        | none => simp [sampleDuplicatesCheck, hprepared] at hcheck
        | some query =>
            cases hfetch
            have hread : lookup.read sampleModel sampleRegistry "Customer" sampleDuplicates
              sampleSales.length = .ok index := hread
            simp [sampleDuplicatesCheck, hprepared, hread, Except.isOk, Except.toBool] at hcheck
      obtain ⟨rfl, -⟩ :=
        (failure_touches_no_item sampleModel sampleSales items' e).2 _ _ _ _ _ _ hrun hread
      exact ⟨e, later, rfl⟩
    · rw [hrun] at hfailed
      cases hfailed

end EntityQuery
