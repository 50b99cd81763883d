import EntityQuery.Database.Basic
import EntityQuery.Proofs.Reference.Index
import EntityQuery.Proofs.Reference.LookupQuery

/-!
# Batches

Loading a reference for a batch of items comes out as if each item was loaded alone. What a batch
needs in order to succeed, that its keys can be looked up and the rows it asks for indexed, is what
each of its items needs; and the rows with the key of an item are the same in the larger index.
-/
namespace EntityQuery

open Sql

/-- Whether a row has one of the tuples that a lookup asks for. -/
def Lookup.wants (lookup : Lookup) (schema : Schema) (row : Row) : Bool :=
  match schema.rowTuple? row lookup.foreignKeys with
  | some tuple => (lookup.distinctKeys.map keyTuple).contains tuple
  | none => false

/-- The executor answers the lookup for some items with exactly the rows of a table that it asks
for, in the order of the table. -/
def Database.Answers (db : Database) (source target : String) (node : Clause) (table : List Row)
    (items : List FieldReader) : Prop :=
  ∀ lookup query schema,
    PreparedLookup.of db.registry source target node items = .ok ⟨lookup, some query⟩ →
    db.registry.get target = .ok schema →
    ∀ calls mode, db.executor.rows calls mode query = .ok (table.filter (lookup.wants schema))

/-- Items of the source take whatever of the target is put into them. -/
structure Model.SettersSucceed (M : Model) (source target : String) : Prop where
  one : ∀ (item : M.Item source) (field : String) (found : Option (M.Item target)),
    ∃ item', M.setOne target item field found = .ok item'
  many : ∀ (item : M.Item source) (field : String) (found : List (M.Item target)),
    ∃ item', M.setMany target item field found = .ok item'

/-- What becomes of items for which a reference is loaded after some calls. -/
def Database.loaded (db : Database) (M : Model) (mode : CallMode) {source : String}
    (target : String) (node : Clause) (items : List (M.Item source)) (calls : List Call) :
    Attached (M.Item source) :=
  ((db.resolve M mode target node items).run calls).1

namespace Lookup

theorem exists_place {M : Model} {source target : String} (h : M.SettersSucceed source target)
    (lookup : Lookup) (item : M.Item source) (found : List (M.Item target)) :
    ∃ item', place M lookup target item found = .ok item' := by
  unfold place
  split
  · exact h.many item lookup.field found
  · exact h.one item lookup.field found.head?

variable {M : Model} {db : Database} {source target : String} {node : Clause} {table : List Row}
  {schema : Schema} {shape : Lookup} {fields : List (String × FieldType)}
  {items : List (M.Item source)}

/-- The lookup over some items. -/
def itemLookup (M : Model) {source : String} (shape : Lookup) (fields : List (String × FieldType))
    (items : List (M.Item source)) : Lookup :=
  withItems (shape, fields) (Database.readers M items)

theorem mem_itemKeys_itemLookup {key : List Value} :
    some key ∈ (itemLookup M shape fields items).itemKeys ↔
      ∃ item ∈ items, itemKey? (M.field? item) fields = some key := by
  simp [itemLookup, mem_itemKeys_withItems, Database.readers]

/-- A row is wanted if and only if it has the tuple of an item. -/
theorem wants_iff {row : Row} : (itemLookup M shape fields items).wants schema row = true ↔
    ∃ item ∈ items, ∃ key, itemKey? (M.field? item) fields = some key ∧
      schema.rowTuple? row shape.foreignKeys = some (keyTuple key) := by
  have hforeign : (itemLookup M shape fields items).foreignKeys = shape.foreignKeys := rfl
  unfold wants
  rw [hforeign]
  rcases htuple : schema.rowTuple? row shape.foreignKeys with _ | tuple
  · simp
  · dsimp only
    rw [List.contains_iff_mem, mem_tuples_iff]
    constructor
    · rintro ⟨key, hmem, rfl⟩
      obtain ⟨item, hitem, hkey⟩ := mem_itemKeys_itemLookup.1 hmem
      exact ⟨item, hitem, key, hkey, rfl⟩
    · rintro ⟨item, hitem, key, hkey, hsame⟩
      exact ⟨key, mem_itemKeys_itemLookup.2 ⟨item, hitem, hkey⟩, (Option.some.inj hsame).symm⟩

/-- The rows of a table that items want. -/
def wanted (M : Model) {source : String} (shape : Lookup) (fields : List (String × FieldType))
    (schema : Schema) (table : List Row) (items : List (M.Item source)) : List Row :=
  table.filter ((itemLookup M shape fields items).wants schema)

/-- What a batch of items needs in order to be loaded. -/
structure Loads (M : Model) (db : Database) {source : String} (target : String) (shape : Lookup)
    (fields : List (String × FieldType)) (schema : Schema) (table : List Row)
    (items : List (M.Item source)) : Prop where
  stored : ∀ item ∈ items, ∀ key, itemKey? (M.field? item) fields = some key →
    Context.Stores ⟨db.registry, schema⟩ shape.foreignKeys
  indexable : Indexable M target schema shape.foreignKeys shape.many []
    (wanted M shape fields schema table items)

/-- An item wants what every batch with it wants. -/
theorem wanted_sublist {item : M.Item source} (hitem : item ∈ items) :
    (wanted M shape fields schema table [item]).Sublist
      (wanted M shape fields schema table items) := by
  refine List.monotone_filter_right table fun row hrow => ?_
  obtain ⟨found, hfound, key, hkey, htuple⟩ := wants_iff.1 hrow
  obtain rfl := List.mem_singleton.1 hfound
  exact wants_iff.2 ⟨found, hitem, key, hkey, htuple⟩

/-- What a batch wants one of its items wants, with all rows of the same key. -/
theorem exists_wants {row : Row} (h : (itemLookup M shape fields items).wants schema row = true) :
    ∃ item ∈ items, (itemLookup M shape fields [item]).wants schema row = true ∧
      ∀ row' tuple, schema.keyOf? row shape.foreignKeys = some tuple →
        schema.keyOf? row' shape.foreignKeys = some tuple →
          (itemLookup M shape fields [item]).wants schema row' = true := by
  obtain ⟨item, hitem, key, hkey, htuple⟩ := wants_iff.1 h
  refine ⟨item, hitem, wants_iff.2 ⟨item, by simp, key, hkey, htuple⟩, fun row' tuple hrow hrow' =>
    wants_iff.2 ⟨item, by simp, key, hkey, ?_⟩⟩
  rw [(Schema.keyOf?_eq_some_iff.1 hrow').1, ← htuple, (Schema.keyOf?_eq_some_iff.1 hrow).1]

/-- A batch can be loaded if and only if each of its items can be alone. Two rows with the same
key that are both wanted are both wanted by one item. -/
theorem loads_iff_each : Loads M db target shape fields schema table items ↔
    ∀ item ∈ items, Loads M db target shape fields schema table [item] := by
  constructor
  · intro h item hitem
    have hsublist : (wanted M shape fields schema table [item]).Sublist _ := wanted_sublist hitem
    refine ⟨?_, fun row hrow => h.indexable.keyed row (hsublist.subset hrow),
      fun row hrow => h.indexable.readable row (hsublist.subset hrow), fun hmany => ?_⟩
    · intro found hfound key hkey
      obtain rfl := List.mem_singleton.1 hfound
      exact h.stored found hitem key hkey
    · exact (h.indexable.distinct hmany).sublist (hsublist.filterMap _)
  · intro h
    have hwants : ∀ row ∈ wanted M shape fields schema table items, ∃ item ∈ items,
        row ∈ wanted M shape fields schema table [item] := by
      intro row hrow
      obtain ⟨htable, hwants⟩ := List.mem_filter.1 hrow
      obtain ⟨item, hitem, halone, -⟩ := exists_wants hwants
      exact ⟨item, hitem, List.mem_filter.2 ⟨htable, halone⟩⟩
    refine ⟨fun item hitem => (h item hitem).stored item (by simp), fun row hrow => ?_,
      fun row hrow => ?_, fun hmany => ?_⟩
    · obtain ⟨item, hitem, halone⟩ := hwants row hrow
      exact (h item hitem).indexable.keyed row halone
    · obtain ⟨item, hitem, halone⟩ := hwants row hrow
      exact (h item hitem).indexable.readable row halone
    · rw [List.nil_append, List.Nodup, List.pairwise_filterMap, List.pairwise_iff_forall_sublist]
      rintro row row' hsublist tuple htuple _ htuple' rfl
      have hrow : row ∈ wanted M shape fields schema table items := hsublist.subset (by simp)
      obtain ⟨item, hitem, halone, hsame⟩ := exists_wants (List.mem_filter.1 hrow).2
      have htable : [row, row'].Sublist table := hsublist.trans List.filter_sublist
      have hboth : [row, row'].Sublist (wanted M shape fields schema table [item]) := by
        have hfiltered := htable.filter ((itemLookup M shape fields [item]).wants schema)
        rwa [List.filter_eq_self.2 (by simp [halone, hsame row' tuple htuple htuple'])] at hfiltered
      have hdistinct := (h item hitem).indexable.distinct hmany
      rw [List.nil_append, List.Nodup, List.pairwise_filterMap,
        List.pairwise_iff_forall_sublist] at hdistinct
      exact hdistinct hboth tuple htuple tuple htuple' rfl

/-- What belongs to an item: what the rows of the table with its key hold. -/
def belonging (M : Model) {source : String} (target : String) (shape : Lookup)
    (fields : List (String × FieldType)) (schema : Schema) (table : List Row)
    (item : M.Item source) : List (M.Item target) :=
  (schema.rowsWith shape.foreignKeys table (itemKey? (M.field? item) fields)).filterMap fun row =>
    (M.ofRow target row schema).toOption

/-- The index of the rows that a batch wants has for an item what belongs to it. -/
theorem matching_wanted {item : M.Item source} (hitem : item ∈ items) :
    Index.matching ((wanted M shape fields schema table items).filterMap
        (keyedItem? M target schema shape.foreignKeys)) (itemKey? (M.field? item) fields) =
      belonging M target shape fields schema table item := by
  rw [matching_entries, belonging]
  rcases hkey : itemKey? (M.field? item) fields with _ | key
  · rfl
  · unfold Schema.rowsWith wanted
    dsimp only
    rw [List.filter_filter]
    refine congrArg _ (List.filter_congr fun row _ => ?_)
    by_cases htuple : schema.keyOf? row shape.foreignKeys = some (keyTuple key)
    · have hwants : (itemLookup M shape fields items).wants schema row = true :=
        wants_iff.2 ⟨item, hitem, key, hkey, (Schema.keyOf?_eq_some_iff.1 htuple).1⟩
      simp [htuple, hwants]
    · simp [htuple]

/-- If there is no outline, the items stay as they are. -/
theorem loaded_of_outline_error {e : QueryError}
    (houtline : outline db.registry source target node = .error e) (mode : CallMode)
    (calls : List Call) : db.loaded M mode target node items calls = (.error e, items) := by
  rw [Database.loaded,
    Database.run_resolve_of_prepare_error M (prepared_of_outline_error houtline _)]

/-- What is prepared for items is their lookup, with its query. -/
theorem prepared_itemLookup {query : Except QueryError (Option SqlQuery)}
    (houtline : outline db.registry source target node = .ok (shape, fields))
    (hquery : (itemLookup M shape fields items).query? db.registry node.children = query) :
    PreparedLookup.of db.registry source target node (Database.readers M items) =
      PreparedLookup.mk (itemLookup M shape fields items) <$> query := by
  rw [prepared_eq houtline, ← hquery]
  rfl

/-- If the query cannot be made, the items stay as they are. -/
theorem loaded_of_query_error {mode : CallMode} {calls : List Call} {e : QueryError}
    (houtline : outline db.registry source target node = .ok (shape, fields))
    (hquery : (itemLookup M shape fields items).query? db.registry node.children = .error e) :
    db.loaded M mode target node items calls = (.error e, items) := by
  rw [Database.loaded,
    Database.run_resolve_of_prepare_error M (prepared_itemLookup houtline hquery)]

/-- Without keys no row is wanted. -/
theorem wanted_of_no_keys (h : (itemLookup M shape fields items).distinctKeys = []) :
    wanted M shape fields schema table items = [] := by
  refine List.filter_eq_nil_iff.2 fun row _ => ?_
  unfold wants
  rw [h]
  split <;> simp

/-- Otherwise the rows that the items want are attached. -/
theorem loaded_of_query {mode : CallMode} {calls : List Call} {query : Option SqlQuery}
    (houtline : outline db.registry source target node = .ok (shape, fields))
    (h : OutlineOf db.registry target schema shape fields) (hchildren : node.children = [])
    (hanswers : db.Answers source target node table (Database.readers M items))
    (hquery : (itemLookup M shape fields items).query? db.registry node.children = .ok query) :
    db.loaded M mode target node items calls =
      (itemLookup M shape fields items).attach M db.registry target
        (wanted M shape fields schema table items) items := by
  have hprepared : PreparedLookup.of db.registry source target node (Database.readers M items) =
      .ok ⟨itemLookup M shape fields items, query⟩ := prepared_itemLookup houtline hquery
  rw [Database.loaded]
  cases query with
  | none =>
      -- Nothing is asked for, and nothing is wanted either.
      rw [hchildren] at hquery
      have hfetch : (db.executor.fetchOptional mode none).runAfter calls = (.ok [], calls) := rfl
      rw [wanted_of_no_keys (distinctKeys_of_query?_none h hquery),
        Database.run_resolve_of_fetch M hprepared hfetch]
  | some query =>
      have hrows : db.executor.rows calls mode query =
          .ok (wanted M shape fields schema table items) :=
        hanswers _ _ _ hprepared h.schema_eq calls mode
      have hfetch : (db.executor.fetchOptional mode (some query)).runAfter calls =
          (.ok (wanted M shape fields schema table items),
            calls ++ [⟨mode, .query, query⟩]) := by
        rw [← hrows]
        rfl
      rw [Database.run_resolve_of_fetch M hprepared hfetch]

/-- The rows that a batch wants are attached if and only if they can be indexed, and then every item
takes what belongs to it. -/
theorem attach_wanted (hset : M.SettersSucceed source target)
    (h : OutlineOf db.registry target schema shape fields) :
    (((itemLookup M shape fields items).attach M db.registry target
        (wanted M shape fields schema table items) items).1 = .ok () ↔
      Indexable M target schema shape.foreignKeys shape.many []
        (wanted M shape fields schema table items)) ∧
    (((itemLookup M shape fields items).attach M db.registry target
        (wanted M shape fields schema table items) items).1 = .ok () →
      List.Forall₂ (fun item item' => place M shape target item
        (belonging M target shape fields schema table item) = .ok item') items
        ((itemLookup M shape fields items).attach M db.registry target
          (wanted M shape fields schema table items) items).2) := by
  obtain ⟨types, htypes, -⟩ := h.fields_eq
  obtain ⟨keys, hkeys⟩ := exists_keyFields htypes
  have htarget : db.registry.get (itemLookup M shape fields items).target = .ok schema := by
    have hname : (itemLookup M shape fields items).target = target := h.target_eq
    rw [hname, h.schema_eq]
  have hlength : items.length = (itemLookup M shape fields items).itemKeys.length := by
    simp [itemLookup, withItems, Database.readers]
  have hitemKeys : (itemLookup M shape fields items).itemKeys =
      items.map fun item => itemKey? (M.field? item) fields := by
    simp [itemLookup, withItems, Database.readers]
  have hzip : items.zip (itemLookup M shape fields items).itemKeys =
      items.map fun item => (item, itemKey? (M.field? item) fields) := by
    have hmap : (items.map id).zip (items.map fun item => itemKey? (M.field? item) fields) =
        items.map fun item => (item, itemKey? (M.field? item) fields) := List.zip_map'
    rwa [List.map_id, ← hitemKeys] at hmap
  obtain ⟨hiff, hplaced⟩ := merge_spec (exists_place hset (itemLookup M shape fields items)) hlength
  rw [attach_eq_merge htarget]
  refine ⟨hiff.trans (and_iff_right ⟨keys, hkeys⟩), fun hok => ?_⟩
  have hplaced := hplaced hok
  rw [hzip, List.forall₂_map_left_iff] at hplaced
  have hmem := (List.forall₂_and_left items _).2 ⟨fun item hitem => hitem, hplaced⟩
  refine hmem.imp fun item item' hboth => ?_
  obtain ⟨hitem, hplace⟩ := hboth
  exact matching_wanted hitem ▸ hplace

/-- A batch is loaded if and only if it can be, and then every item takes what belongs to it. -/
theorem loaded_spec (hset : M.SettersSucceed source target)
    (houtline : outline db.registry source target node = .ok (shape, fields))
    (h : OutlineOf db.registry target schema shape fields) (hchildren : node.children = [])
    (hanswers : db.Answers source target node table (Database.readers M items)) (mode : CallMode)
    (calls : List Call) :
    ((db.loaded M mode target node items calls).1 = .ok () ↔
        Loads M db target shape fields schema table items) ∧
      ((db.loaded M mode target node items calls).1 = .ok () →
        List.Forall₂ (fun item item' => place M shape target item
          (belonging M target shape fields schema table item) = .ok item')
          items (db.loaded M mode target node items calls).2) := by
  have hstored : (∃ query, (itemLookup M shape fields items).query? db.registry [] = .ok query) ↔
      ∀ item ∈ items, ∀ key, itemKey? (M.field? item) fields = some key →
        Context.Stores ⟨db.registry, schema⟩ shape.foreignKeys := by
    have hquery := exists_query?_iff h (Database.readers M items)
    simpa [Database.readers, itemLookup] using hquery
  rcases hquery : (itemLookup M shape fields items).query? db.registry [] with e | query
  · rw [loaded_of_query_error houtline (hchildren ▸ hquery)]
    refine ⟨iff_of_false (by simp) fun hloads => ?_, by simp⟩
    obtain ⟨query, hok⟩ := hstored.2 hloads.stored
    rw [hquery] at hok
    cases hok
  · rw [loaded_of_query houtline h hchildren hanswers (hchildren ▸ hquery)]
    obtain ⟨hiff, hplaced⟩ := attach_wanted hset h
    have hloads : Loads M db target shape fields schema table items ↔ _ :=
      ⟨Loads.indexable, fun hindexable => ⟨hstored.1 ⟨query, hquery⟩, hindexable⟩⟩
    exact ⟨hiff.trans hloads.symm, hplaced⟩

end Lookup

/-- Loading a reference without children for a batch of items succeeds if and only if it does for
each item alone, and then every item comes out as it does alone. -/
theorem batch_agrees_with_each {M : Model} {db : Database} {source target : String} {node : Clause}
    (hchildren : node.children = []) (hset : M.SettersSucceed source target) {table : List Row}
    {items : List (M.Item source)} (hne : items ≠ [])
    (hbatch : db.Answers source target node table (Database.readers M items))
    (heach : ∀ item ∈ items, db.Answers source target node table (Database.readers M [item]))
    (mode : CallMode) (calls calls' : List Call) :
    ((db.loaded M mode target node items calls).1 = .ok () ↔
        ∀ item ∈ items, (db.loaded M mode target node [item] calls').1 = .ok ()) ∧
      ((db.loaded M mode target node items calls).1 = .ok () →
        List.Forall₂ (fun item item' =>
          db.loaded M mode target node [item] calls' = (.ok (), [item']))
          items (db.loaded M mode target node items calls).2) := by
  rcases houtline : Lookup.outline db.registry source target node with e | ⟨shape, fields⟩
  · have hfailed (items : List (M.Item source)) (calls : List Call) :
        db.loaded M mode target node items calls = (.error e, items) :=
      Lookup.loaded_of_outline_error houtline mode calls
    obtain ⟨item, hitem⟩ := List.exists_mem_of_ne_nil items hne
    rw [hfailed items calls]
    refine ⟨iff_of_false (by simp) fun h => ?_, by simp⟩
    have hok := h item hitem
    rw [hfailed [item] calls'] at hok
    cases hok
  obtain ⟨schema, h⟩ := Lookup.outlineOf_of_ok houtline
  have hspec := Lookup.loaded_spec hset houtline h hchildren hbatch mode calls
  have hspecs := fun item hitem =>
    Lookup.loaded_spec hset houtline h hchildren (heach item hitem) mode calls'
  have hagree : (db.loaded M mode target node items calls).1 = .ok () ↔
      ∀ item ∈ items, (db.loaded M mode target node [item] calls').1 = .ok () := by
    rw [hspec.1, Lookup.loads_iff_each]
    exact forall₂_congr fun item hitem => (hspecs item hitem).1.symm
  refine ⟨hagree, fun hok => ?_⟩
  have hmem := (List.forall₂_and_left items _).2 ⟨fun item hitem => hitem, hspec.2 hok⟩
  refine hmem.imp fun item item' hboth => ?_
  obtain ⟨hitem, hplace⟩ := hboth
  have hsingle := hagree.1 hok item hitem
  have hplaced := (hspecs item hitem).2 hsingle
  obtain ⟨placed, rest, hplaced, hrest, htwo⟩ := List.forall₂_cons_left_iff.1 hplaced
  obtain rfl : rest = [] := List.forall₂_nil_left_iff.1 hrest
  obtain rfl : item' = placed := Except.ok.inj (hplace.symm.trans hplaced)
  exact Prod.ext hsingle htwo

/-- A sample item: a sale or a customer, with the customers that were put into it. -/
structure SampleItem where
  region : Int32
  no : Int32
  customers : List (Int32 × Int32)
  deriving DecidableEq

def sampleModel : Model where
  Item _ := SampleItem
  ofRow _ row _ :=
    match row.get? "region", row.get? "no" with
    | some (.int32 region), some (.int32 no) => .ok ⟨region, no, []⟩
    | _, _ => .error .notFound
  field? item := readSale item.region item.no
  setOne _ item _ found :=
    .ok { item with customers := found.toList.map fun c => (c.region, c.no) }
  setMany _ item _ found :=
    .ok { item with customers := found.map fun c => (c.region, c.no) }

instance (entity : String) : DecidableEq (sampleModel.Item entity) :=
  inferInstanceAs (DecidableEq SampleItem)

/-- The rows of three customers. -/
def sampleTable : List Row :=
  [⟨[("region", .int32 1), ("no", .int32 7)]⟩, ⟨[("region", .int32 1), ("no", .int32 9)]⟩,
    ⟨[("region", .int32 2), ("no", .int32 9)]⟩]

/-- The tuples that the parameters of a lookup hold, two by two. -/
def sampleTuples : List (String × Value) → List (List KeyPart)
  | (_, region) :: (_, no) :: entries => keyTuple [region, no] :: sampleTuples entries
  | _ => []

/-- A database that finds customers by region and number. -/
def sampleDatabase : Database where
  registry := sampleRegistry
  executor :=
    { rows := fun _ _ query => .ok (sampleTable.filter fun row =>
        (sampleTuples query.params.entries).contains (row.columns.map fun c => c.2.key))
      changed := fun _ _ _ => .error .notFound }

/-- Two sales to one customer, and a sale without a customer. -/
def sampleSales : List (sampleModel.Item "Sale") :=
  ([⟨2, 9, []⟩, ⟨5, 7, []⟩, ⟨2, 9, []⟩] : List SampleItem)

/-- Whether the sample database answers the lookup for items as it should. -/
def sampleCheck (items : List FieldReader) : Bool :=
  match PreparedLookup.of sampleRegistry "Sale" "Customer" (.reference "Customer" []) items with
  | .ok ⟨lookup, some query⟩ =>
      sampleTable.filter (fun row =>
        (sampleTuples query.params.entries).contains (row.columns.map fun c => c.2.key)) =
      sampleTable.filter (lookup.wants sampleCustomer)
  | _ => true

theorem sampleDatabase_answers {items : List FieldReader} (h : sampleCheck items = true) :
    sampleDatabase.Answers "Sale" "Customer" (.reference "Customer" []) sampleTable items := by
  intro lookup query schema hprepared hschema calls mode
  obtain rfl : sampleCustomer = schema := Except.ok.inj hschema
  have hprepared : PreparedLookup.of sampleRegistry "Sale" "Customer" (.reference "Customer" [])
      items = .ok ⟨lookup, some query⟩ := hprepared
  rw [sampleCheck, hprepared] at h
  exact congrArg Except.ok (of_decide_eq_true h)

/-- The sales after their customers have been loaded. -/
def sampleLoaded : List (sampleModel.Item "Sale") :=
  ([⟨2, 9, [(2, 9)]⟩, ⟨5, 7, []⟩, ⟨2, 9, [(2, 9)]⟩] : List SampleItem)

theorem batch_agrees_with_each_sample :
    sampleDatabase.loaded sampleModel .blocking "Customer" (.reference "Customer" []) sampleSales
        [] = (.ok (), sampleLoaded) ∧
      List.Forall₂ (fun sale sale' =>
        sampleDatabase.loaded sampleModel .blocking "Customer" (.reference "Customer" []) [sale]
          [] = (.ok (), [sale'])) sampleSales sampleLoaded := by
  have hset : sampleModel.SettersSucceed "Sale" "Customer" :=
    ⟨fun _ _ _ => ⟨_, rfl⟩, fun _ _ _ => ⟨_, rfl⟩⟩
  have hbatch : sampleCheck (Database.readers sampleModel sampleSales) = true := by decide +kernel
  have heach : ∀ sale ∈ sampleSales,
      sampleCheck (Database.readers sampleModel [sale]) = true :=
    List.forall_mem_cons.2 ⟨by decide +kernel, List.forall_mem_cons.2 ⟨by decide +kernel,
      List.forall_mem_cons.2 ⟨by decide +kernel, fun _ h => absurd h List.not_mem_nil⟩⟩⟩
  have hloaded : (match sampleDatabase.loaded sampleModel .blocking "Customer"
      (.reference "Customer" []) sampleSales [] with
    | (.ok _, sales) => decide (sales = sampleLoaded)
    | _ => false) = true := by
    decide +kernel
  have hagrees := batch_agrees_with_each rfl hset (show sampleSales ≠ [] by decide)
    (sampleDatabase_answers hbatch) (fun sale hmem => sampleDatabase_answers (heach sale hmem))
    .blocking [] []
  rcases hwhole : sampleDatabase.loaded sampleModel .blocking "Customer" (.reference "Customer" [])
    sampleSales [] with ⟨e | ⟨⟩, sales⟩
  · simp [hwhole] at hloaded
  · rw [hwhole] at hloaded hagrees
    obtain rfl : sales = sampleLoaded := of_decide_eq_true hloaded
    exact ⟨rfl, hagrees.2 rfl⟩

end EntityQuery
