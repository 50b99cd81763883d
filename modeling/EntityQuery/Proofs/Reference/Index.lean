import EntityQuery.Proofs.Reference.Derive
import EntityQuery.Proofs.Reference.RowKeys
import Mathlib.Data.List.Nodup

/-!
# Rows and items

The rows of a lookup are indexed by their keys; those without a key are skipped. What the index has
for an item is what the rows with its key hold, in their order.
-/
namespace EntityQuery

/-- The rows that have the key of an item, in their order. -/
def Schema.rowsWith (schema : Schema) (names : List String) (rows : List Row) :
    Option (List Value) → List Row
  | none => []
  | some key => rows.filter fun row => schema.keyOf? row names = some (keyTuple key)

namespace Lookup

section

variable {schema : Schema} {names : List String} {row : Row} {fields : List (String × FieldType)}

/-- Fields that have types are key fields. -/
theorem exists_keyFields {types : List FieldType}
    (h : fieldTypes schema names = .ok types) : ∃ fields, keyFields schema names = .ok fields := by
  refine exists_keyFields_iff.2 fun name hname => ?_
  obtain ⟨type, -, field, hfield, -⟩ := forall₂_exists_right (forall₂_fieldTypes h) name hname
  exact ⟨field, hfield⟩

end

section

variable (M : Model) (entity : String) (schema : Schema) (names : List String)

/-- The entry of a row in the index; none if the row has no key or cannot be read. -/
def keyedItem? (row : Row) : Option (List KeyPart × M.Item entity) := do
  return (← schema.keyOf? row names, ← (M.ofRow entity row schema).toOption)

/-- Whether rows can be indexed after the keys `taken`: each of them either has no key or can be
read, and for a single instance no key occurs twice. -/
structure Indexable (many : Bool) (taken : List (List KeyPart)) (rows : List Row) : Prop where
  keyed : ∀ row ∈ rows, schema.KeyReadable row names
  readable : ∀ row ∈ rows, schema.keyOf? row names ≠ none →
    ∃ item, M.ofRow entity row schema = .ok item
  distinct : many = false → (taken ++ rows.filterMap (schema.keyOf? · names)).Nodup

end

section

variable {M : Model} {entity : String} {schema : Schema} {names : List String}

/-- The index has for a key what the rows with the key hold. -/
theorem matching_entries (rows : List Row) (key : Option (List Value)) :
    Index.matching (rows.filterMap (keyedItem? M entity schema names)) key =
      (schema.rowsWith names rows key).filterMap fun row =>
        (M.ofRow entity row schema).toOption := by
  cases key with
  | none => rfl
  | some key =>
      unfold Index.matching Schema.rowsWith
      dsimp only
      rw [List.filter_filterMap, List.map_filterMap, List.filterMap_filter]
      refine List.filterMap_congr fun row _ => ?_
      rcases htuple : schema.keyOf? row names with _ | tuple
      · simp [keyedItem?, htuple]
      · rcases hitem : M.ofRow entity row schema with e | item
        · simp [keyedItem?, htuple, hitem, Except.toOption]
        · by_cases hkey : tuple = keyTuple key <;>
            simp [keyedItem?, htuple, hitem, hkey, Except.toOption, Option.filter]

variable {many : Bool} {index index' : Index (M.Item entity)} {tuple : List KeyPart}
  {item : M.Item entity} {row : Row} {rows : List Row} {fields : List (String × FieldType)}

/-- A row without a key is skipped. -/
theorem indexable_cons_of_none {taken : List (List KeyPart)} (hkeyed : schema.KeyReadable row names)
    (hkey : schema.keyOf? row names = none) :
    Indexable M entity schema names many taken (row :: rows) ↔
      Indexable M entity schema names many taken rows := by
  have hkeys : (row :: rows).filterMap (schema.keyOf? · names) =
      rows.filterMap (schema.keyOf? · names) := List.filterMap_cons_none hkey
  constructor
  · intro h
    exact ⟨(List.forall_mem_cons.1 h.keyed).2, (List.forall_mem_cons.1 h.readable).2,
      hkeys ▸ h.distinct⟩
  · intro h
    exact ⟨List.forall_mem_cons.2 ⟨hkeyed, h.keyed⟩,
      List.forall_mem_cons.2 ⟨fun hne => absurd hkey hne, h.readable⟩, hkeys ▸ h.distinct⟩

/-- The key of a row that is read is taken for the rows after it. -/
theorem indexable_cons_of_some {taken : List (List KeyPart)} (hkeyed : schema.KeyReadable row names)
    (hkey : schema.keyOf? row names = some tuple) (hitem : M.ofRow entity row schema = .ok item) :
    Indexable M entity schema names many taken (row :: rows) ↔
      Indexable M entity schema names many (taken ++ [tuple]) rows := by
  have hkeys : taken ++ (row :: rows).filterMap (schema.keyOf? · names) =
      taken ++ [tuple] ++ rows.filterMap (schema.keyOf? · names) := by
    have hcons : (row :: rows).filterMap (schema.keyOf? · names) =
        tuple :: rows.filterMap (schema.keyOf? · names) := List.filterMap_cons_some hkey
    rw [hcons, List.append_assoc, List.singleton_append]
  constructor
  · intro h
    exact ⟨(List.forall_mem_cons.1 h.keyed).2, (List.forall_mem_cons.1 h.readable).2,
      hkeys ▸ h.distinct⟩
  · intro h
    exact ⟨List.forall_mem_cons.2 ⟨hkeyed, h.keyed⟩,
      List.forall_mem_cons.2 ⟨fun _ => ⟨item, hitem⟩, h.readable⟩, hkeys ▸ h.distinct⟩

theorem indexRows_cons_of_none (hkey : rowKey? schema row fields = .ok none) :
    indexRows M entity schema many fields index (row :: rows) =
      indexRows M entity schema many fields index rows := by
  simp only [indexRows, hkey, bind, Except.bind]

theorem indexRows_cons (hkey : rowKey? schema row fields = .ok (some tuple))
    (hitem : M.ofRow entity row schema = .ok item) :
    indexRows M entity schema many fields index (row :: rows) =
      if (!many && index.any (·.1 = tuple)) = true then .error (.duplicateKey entity tuple)
      else indexRows M entity schema many fields (index ++ [(tuple, item)]) rows := by
  simp only [indexRows, hkey, hitem, bind, Except.bind]
  split <;> rfl

theorem indexRows_cons_error {e : QueryError} (hkey : rowKey? schema row fields = .ok (some tuple))
    (hitem : M.ofRow entity row schema = .error e) :
    indexRows M entity schema many fields index (row :: rows) = .error e := by
  simp only [indexRows, hkey, hitem, bind, Except.bind]

/-- The check lets a key pass if and only if the keys of the index stay distinct with it. -/
theorem nodup_concat_iff_of_check (htaken : many = false → (index.map (·.1)).Nodup)
    (tuple : List KeyPart) :
    (many = false → (index.map (·.1) ++ [tuple]).Nodup) ↔
      ¬ (!many && index.any (·.1 = tuple)) = true := by
  have hany : index.any (·.1 = tuple) = true ↔ tuple ∈ index.map (·.1) := by
    simp [List.any_eq_true, List.mem_map]
  cases many with
  | true => simp
  | false =>
      have hnodup := htaken rfl
      rw [Bool.not_false, Bool.true_and, hany]
      constructor
      · intro h hmem
        exact (List.nodup_append.1 (h rfl)).2.2 tuple hmem tuple (by simp) rfl
      · intro hfresh _
        simpa using hnodup.concat hfresh

/-- Rows are indexed if and only if they can be, those with a key under it and in their order. -/
theorem indexRows_eq_ok_iff (hfields : keyFields schema names = .ok fields)
    (htaken : many = false → (index.map (·.1)).Nodup) :
    indexRows M entity schema many fields index rows = .ok index' ↔
      Indexable M entity schema names many (index.map (·.1)) rows ∧
        index' = index ++ rows.filterMap (keyedItem? M entity schema names) := by
  -- The index grows by the row in front, so it is general; its keys stay distinct on the way.
  induction rows generalizing index with
  | nil =>
      have hnone : Indexable M entity schema names many (index.map (·.1)) [] :=
        ⟨by simp, by simp, by simpa using htaken⟩
      simp [indexRows, hnone, eq_comm]
  | cons row rows ih =>
      rcases hrow : rowKey? schema row fields with e | key
      · have herror : indexRows M entity schema many fields index (row :: rows) = .error e := by
          simp only [indexRows, hrow, bind, Except.bind]
        rw [herror]
        refine iff_of_false (by simp) fun h => ?_
        have hok := (rowKey?_eq_ok_iff hfields).2 ⟨h.1.keyed row List.mem_cons_self, rfl⟩
        rw [hrow] at hok
        cases hok
      obtain ⟨hkeyed, hkey⟩ := (rowKey?_eq_ok_iff hfields).1 hrow
      cases key with
      | none =>
          have hentry : keyedItem? M entity schema names row = none := by
            simp [keyedItem?, hkey]
          rw [indexRows_cons_of_none hrow, ih htaken, indexable_cons_of_none hkeyed hkey,
            List.filterMap_cons_none hentry]
      | some tuple =>
          rcases hitem : M.ofRow entity row schema with e | item
          · rw [indexRows_cons_error hrow hitem]
            refine iff_of_false (by simp) fun h => ?_
            obtain ⟨item, hread⟩ := h.1.readable row List.mem_cons_self (by simp [hkey])
            rw [hitem] at hread
            cases hread
          have hentry : keyedItem? M entity schema names row = some (tuple, item) := by
            simp [keyedItem?, hkey, hitem, Except.toOption]
          rw [indexRows_cons hrow hitem, indexable_cons_of_some hkeyed hkey hitem,
            List.filterMap_cons_some hentry]
          have hcheck := nodup_concat_iff_of_check htaken tuple
          by_cases hdup : (!many && index.any (·.1 = tuple)) = true
          · rw [if_pos hdup]
            refine iff_of_false (by simp) fun h => ?_
            exact hcheck.1 (fun hmany => (h.1.distinct hmany).of_append_left) hdup
          · have hkeys : (index ++ [(tuple, item)]).map (·.1) = index.map (·.1) ++ [tuple] := by
              simp
            rw [if_neg hdup, ih (hkeys ▸ hcheck.2 hdup), hkeys, List.append_assoc index]
            rfl

end

section

variable {M : Model} {source entity : String} {lookup : Lookup}

/-- Puts what belongs to an item into its field. -/
def place (M : Model) {source : String} (lookup : Lookup) (entity : String) (item : M.Item source)
    (found : List (M.Item entity)) : Except QueryError (M.Item source) :=
  if lookup.many then M.setMany entity item lookup.field found
  else M.setOne entity item lookup.field found.head?

section

variable {index : Index (M.Item entity)} {item : M.Item source} {key : Option (List Value)}

/-- An item that refuses is left as it is, with all later ones. -/
theorem setItems_cons_of_error {e : QueryError}
    (h : place M lookup entity item (index.matching key) = .error e) (items : List (M.Item source))
    (keys : List (Option (List Value))) :
    setItems lookup entity index (item :: items) (key :: keys) = (.error e, item :: items) := by
  unfold place at h
  rw [setItems]
  simp only [h]

theorem setItems_cons_of_ok {item' : M.Item source}
    (h : place M lookup entity item (index.matching key) = .ok item') (items : List (M.Item source))
    (keys : List (Option (List Value))) :
    setItems lookup entity index (item :: items) (key :: keys) =
      ((setItems lookup entity index items keys).1,
        item' :: (setItems lookup entity index items keys).2) := by
  unfold place at h
  rw [setItems]
  simp only [h]

end

/-- If no item refuses, every item gets what the index has for its key. -/
theorem setItems_ok (hplace : ∀ (item : M.Item source) (found : List (M.Item entity)),
      ∃ item', place M lookup entity item found = .ok item')
    (index : Index (M.Item entity)) {items : List (M.Item source)}
    {keys : List (Option (List Value))} (hlength : items.length = keys.length) :
    ∃ items', setItems lookup entity index items keys = (.ok (), items') ∧
      List.Forall₂ (fun entry item' =>
        place M lookup entity entry.1 (index.matching entry.2) = .ok item')
        (items.zip keys) items' := by
  induction items generalizing keys with
  | nil => exact ⟨[], rfl, .nil⟩
  | cons item items ih =>
      obtain ⟨key, keys, rfl⟩ := List.exists_cons_of_length_eq_add_one hlength.symm
      obtain ⟨item', hitem⟩ := hplace item (index.matching key)
      obtain ⟨items', hitems, hplaced⟩ := ih (by simpa using hlength)
      refine ⟨item' :: items', ?_, .cons hitem hplaced⟩
      rw [setItems_cons_of_ok hitem, hitems]

/-- Puts rows of the schema `target` into the items of a lookup. -/
def merge (M : Model) {source : String} (lookup : Lookup) (entity : String) (target : Schema)
    (rows : List Row) (items : List (M.Item source)) : Attached (M.Item source) :=
  match readRows M lookup entity target rows items.length with
  | .error e => (.error e, items)
  | .ok index => setItems lookup entity index items lookup.itemKeys

/-- Rows are attached as those of the schema that the target of the lookup has. -/
theorem attach_eq_merge {registry : Registry} {target : Schema}
    (htarget : registry.get lookup.target = .ok target) (rows : List Row)
    (items : List (M.Item source)) :
    lookup.attach M registry entity rows items = lookup.merge M entity target rows items := by
  unfold attach
  rw [htarget]
  rfl

variable {target : Schema} {rows : List Row} {items : List (M.Item source)}

/-- All rows are read if and only if the key fields exist and the rows can be indexed. -/
theorem readRows_eq_ok_iff {count : Nat} (hcount : count = lookup.itemKeys.length)
    {index : Index (M.Item entity)} :
    readRows M lookup entity target rows count = .ok index ↔
      ((∃ fields, keyFields target lookup.foreignKeys = .ok fields) ∧
        Indexable M entity target lookup.foreignKeys lookup.many [] rows) ∧
      index = rows.filterMap (keyedItem? M entity target lookup.foreignKeys) := by
  unfold readRows
  rw [if_neg (not_not.2 hcount)]
  constructor
  · intro h
    obtain ⟨fields, hfields, hindex⟩ := except_bind_eq_ok_iff.1 h
    obtain ⟨hindexable, hentries⟩ := (indexRows_eq_ok_iff hfields (by simp)).1 hindex
    exact ⟨⟨⟨fields, hfields⟩, hindexable⟩, hentries⟩
  · rintro ⟨⟨⟨fields, hfields⟩, hindexable⟩, hentries⟩
    have hindex : indexRows M entity target lookup.many fields [] rows = .ok index :=
      (indexRows_eq_ok_iff hfields (by simp)).2 ⟨hindexable, hentries⟩
    exact except_bind_eq_ok_iff.2 ⟨fields, hfields, hindex⟩

/-- Into items that take what is put into them rows are merged if and only if all of them are read,
and then every item gets what the index has for its key. -/
theorem merge_spec (hplace : ∀ (item : M.Item source) (found : List (M.Item entity)),
      ∃ item', place M lookup entity item found = .ok item')
    (hlength : items.length = lookup.itemKeys.length) :
    ((lookup.merge M entity target rows items).1 = .ok () ↔
      (∃ fields, keyFields target lookup.foreignKeys = .ok fields) ∧
        Indexable M entity target lookup.foreignKeys lookup.many [] rows) ∧
    ((lookup.merge M entity target rows items).1 = .ok () →
      List.Forall₂ (fun entry item' => place M lookup entity entry.1 (Index.matching
          (rows.filterMap (keyedItem? M entity target lookup.foreignKeys)) entry.2) = .ok item')
        (items.zip lookup.itemKeys) (lookup.merge M entity target rows items).2) := by
  unfold merge
  rcases hrun : readRows M lookup entity target rows items.length with e | index
  · refine ⟨iff_of_false (by simp) fun hready => ?_, by simp⟩
    have hok := (readRows_eq_ok_iff hlength).2 ⟨hready, rfl⟩
    rw [hrun] at hok
    cases hok
  · obtain ⟨hready, rfl⟩ := (readRows_eq_ok_iff hlength).1 hrun
    dsimp only
    obtain ⟨items', hitems, hplaced⟩ := setItems_ok hplace
      (rows.filterMap (keyedItem? M entity target lookup.foreignKeys)) hlength
    rw [hitems]
    exact ⟨iff_of_true rfl hready, fun _ => hplaced⟩

end

end Lookup

end EntityQuery
