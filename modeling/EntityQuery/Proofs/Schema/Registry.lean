import EntityQuery.Schema.Registry
import Mathlib.Data.Finset.Card

/-!
# Runs of insertions

What a registry answers after any run of insertions. For an entity it is the first schema inserted
for it, which is the one that is kept. For a table it is the kept schema of the entity that was
inserted first for the table. If that insertion came too late for its entity, the answer is a schema
with another table.
-/
namespace EntityQuery.Registry

/-- The known entities, in the order of insertion. -/
def entities (registry : Registry) : List String := registry.schemas.map (·.entity)

theorem contains_eq_true_iff {registry : Registry} {entity : String} :
    registry.contains entity = true ↔ entity ∈ registry.entities := by
  simp [contains, get?, entities]

/-- A known entity is not added again. -/
theorem entities_insert (registry : Registry) (schema : Schema) :
    (registry.insert schema).entities =
      if schema.entity ∈ registry.entities then registry.entities
      else registry.entities ++ [schema.entity] := by
  have known : registry.contains schema.entity = true ↔ schema.entity ∈ registry.entities :=
    contains_eq_true_iff
  by_cases h : schema.entity ∈ registry.entities
  · rw [if_pos h]
    simp [entities, insert, known.2 h]
  · have unknown : registry.contains schema.entity = false := Bool.eq_false_iff.2 (mt known.1 h)
    rw [if_neg h]
    simp [entities, insert, unknown]

/-- A table stays with the entity that it was noted for. -/
theorem lookup_tables_insert (registry : Registry) (schema : Schema) (table : String) :
    (registry.insert schema).tables.lookup table =
      (registry.tables.lookup table).or
        (if schema.table = table then some schema.entity else none) := by
  unfold insert
  by_cases same : schema.table = table
  · subst same
    cases hnoted : registry.tables.lookup schema.table with
    | none => simp [hnoted, List.lookup_append]
    | some entity => simp [hnoted]
  · have differ : (table == schema.table) = false := by simpa using Ne.symm same
    simp only [same, if_false, Option.or_none]
    split
    · rfl
    · simp [List.lookup_append, List.lookup_cons, differ]

/-- Insertions can be made one more at the end. -/
theorem ofList_concat (schemas : List Schema) (schema : Schema) :
    ofList (schemas ++ [schema]) = (ofList schemas).insert schema := by
  simp [ofList, List.foldl_append]

/-- The first schema of an entity is kept. -/
theorem get?_ofList (schemas : List Schema) (entity : String) :
    (ofList schemas).get? entity = schemas.find? (·.entity = entity) := by
  induction schemas using List.reverseRecOn with
  | nil => rfl
  | append_singleton schemas schema ih =>
      rw [ofList_concat, get?_insert, ih, List.find?_append]
      by_cases same : schema.entity = entity <;> simp [same]

/-- A table is noted for the entity that was inserted first for it. -/
theorem lookup_tables_ofList (schemas : List Schema) (table : String) :
    (ofList schemas).tables.lookup table = (schemas.find? (·.table = table)).map (·.entity) := by
  induction schemas using List.reverseRecOn with
  | nil => rfl
  | append_singleton schemas schema ih =>
      rw [ofList_concat, lookup_tables_insert, ih, List.find?_append, Option.map_or]
      by_cases same : schema.table = table <;> simp [same]

theorem byTable?_ofList (schemas : List Schema) (table : String) :
    (ofList schemas).byTable? table =
      (schemas.find? (·.table = table)).bind fun noted =>
        schemas.find? (·.entity = noted.entity) := by
  rw [byTable?, lookup_tables_ofList, Option.bind_map]
  exact congrArg _ (funext fun noted => get?_ofList schemas noted.entity)

/-- No entity is known twice, and those known are those inserted. -/
theorem entities_ofList (schemas : List Schema) :
    (ofList schemas).entities.Nodup ∧
      (ofList schemas).entities.toFinset = (schemas.map (·.entity)).toFinset := by
  induction schemas using List.reverseRecOn with
  | nil => exact ⟨List.nodup_nil, rfl⟩
  | append_singleton schemas schema ih =>
      obtain ⟨distinct, same⟩ := ih
      rw [ofList_concat, entities_insert, List.map_append, List.toFinset_append, ← same]
      by_cases known : schema.entity ∈ (ofList schemas).entities
      · rw [if_pos known]
        refine ⟨distinct, ?_⟩
        ext entity
        simp only [List.mem_toFinset, Finset.mem_union, List.map_cons, List.map_nil,
          List.mem_singleton]
        exact ⟨Or.inl, fun h => h.elim id fun new => new ▸ known⟩
      · rw [if_neg known]
        have fresh : [schema.entity].Disjoint (ofList schemas).entities := by simpa using known
        exact ⟨distinct.append (List.nodup_singleton _) fresh.symm, by simp⟩

theorem size_ofList (schemas : List Schema) :
    (ofList schemas).size = (schemas.map (·.entity)).toFinset.card := by
  obtain ⟨distinct, same⟩ := entities_ofList schemas
  rw [← same, List.toFinset_card_of_nodup distinct, entities, List.length_map, size]

/-- Whether a schema is the first one inserted for its entity. -/
def isKept (inserted : List Schema) (schema : Schema) : Bool :=
  inserted.find? (·.entity = schema.entity) = some schema

/-- The earliest kept schema with a table. -/
def earliestKept? (inserted : List Schema) (table : String) : Option Schema :=
  inserted.find? fun schema => schema.table = table && isKept inserted schema

/-- Of two elements that are each the first of their kind, neither comes before the other if each
is of both kinds. -/
theorem eq_of_find?_eq_some {α : Type} {p q : α → Bool} {xs : List α} {a b : α}
    (ha : xs.find? p = some a) (hb : xs.find? q = some b) (hq : q a = true) (hp : p b = true) :
    a = b := by
  induction xs with
  | nil => simp at ha
  | cons x xs ih =>
      rw [List.find?_cons] at ha hb
      by_cases hpx : p x = true
      · obtain rfl : x = a := by simpa [hpx] using ha
        simpa [hq] using hb
      · have hqx : q x ≠ true := by
          intro hqx
          obtain rfl : x = b := by simpa [hqx] using hb
          exact hpx hp
        exact ih (by simpa [hpx] using ha) (by simpa [hqx] using hb)

/-- A table is known if and only if a schema has been inserted with it, kept or not. -/
theorem isSome_byTable?_ofList (inserted : List Schema) (table : String) :
    ((ofList inserted).byTable? table).isSome = true ↔
      ∃ schema ∈ inserted, schema.table = table := by
  rw [byTable?_ofList]
  cases hnoted : inserted.find? (·.table = table) with
  | none => simpa using hnoted
  | some noted =>
      have hmem : noted ∈ inserted := List.mem_of_find?_eq_some hnoted
      have htable : noted.table = table := by simpa using List.find?_some hnoted
      have hfound : (inserted.find? (·.entity = noted.entity)).isSome = true :=
        List.find?_isSome.2 ⟨noted, hmem, by simp⟩
      exact iff_of_true hfound ⟨noted, hmem, htable⟩

/-- A table leads to the earliest kept schema with it if and only if the first schema inserted with
the table was kept. -/
theorem byTable?_ofList_eq_iff (inserted : List Schema) (table : String) :
    (ofList inserted).byTable? table = earliestKept? inserted table ↔
      ∀ noted, inserted.find? (·.table = table) = some noted → isKept inserted noted = true := by
  rw [byTable?_ofList]
  cases hnoted : inserted.find? (·.table = table) with
  | none =>
      have hnone : earliestKept? inserted table = none := by
        have hother := List.find?_eq_none.1 hnoted
        refine List.find?_eq_none.2 fun schema hmem => ?_
        simpa using fun htable => absurd htable (by simpa using hother schema hmem)
      simp [hnone]
  | some noted =>
      have htable : noted.table = table := by simpa using List.find?_some hnoted
      simp only [Option.bind_some, Option.some.injEq, forall_eq']
      constructor
      · -- The answer has the table, so no schema of its entity precedes the one that was noted.
        intro hsame
        have hmem : noted ∈ inserted := List.mem_of_find?_eq_some hnoted
        obtain ⟨found, hfound⟩ : ∃ found, inserted.find? (·.entity = noted.entity) = some found :=
          Option.isSome_iff_exists.1 (List.find?_isSome.2 ⟨noted, hmem, by simp⟩)
        have hearliest : earliestKept? inserted table = some found := hsame.symm.trans hfound
        have hin : found.table = table := by
          have hboth := List.find?_some hearliest
          simp only [Bool.and_eq_true, decide_eq_true_eq] at hboth
          exact hboth.1
        have heq : noted = found := eq_of_find?_eq_some hnoted hfound (by simp) (by simp [hin])
        simpa [isKept, ← heq] using hfound
      · intro hkept
        have hfound : inserted.find? (·.entity = noted.entity) = some noted := by
          simpa [isKept] using hkept
        obtain ⟨_, before, after, hsplit, hbefore⟩ := List.find?_eq_some_iff_append.1 hnoted
        have hearliest : earliestKept? inserted table = some noted := by
          refine List.find?_eq_some_iff_append.2
            ⟨by simp [htable, hkept], before, after, hsplit, fun schema hmem => ?_⟩
          have hother : schema.table ≠ table := by simpa using hbefore schema hmem
          simp [hother]
        rw [hfound, hearliest]

section

variable {registry : Registry} {schema : Schema}

/-- A schema of a known entity is dropped. -/
theorem schemas_insert_of_known (known : registry.contains schema.entity = true) :
    (registry.insert schema).schemas = registry.schemas := by
  simp [insert, known]

theorem get_insert_of_known (known : registry.contains schema.entity = true) (entity : String) :
    (registry.insert schema).get entity = registry.get entity := by
  simp [get, get?, schemas_insert_of_known known]

/-- Its table is noted all the same. -/
theorem byTable?_insert_of_known (known : registry.contains schema.entity = true)
    (table : String) : (registry.insert schema).byTable? table =
      ((registry.tables.lookup table).or
        (if schema.table = table then some schema.entity else none)).bind registry.get? := by
  have hget : (registry.insert schema).get? = registry.get? := by
    funext entity
    simp [get?, schemas_insert_of_known known]
  rw [byTable?, lookup_tables_insert, hget]

end

/-- A schema of a known entity changes no answer by table if and only if its table is known, too. -/
theorem byTable?_insert_eq_iff {inserted : List Schema} {schema : Schema}
    (known : (ofList inserted).contains schema.entity = true) :
    (∀ table, ((ofList inserted).insert schema).byTable? table = (ofList inserted).byTable? table) ↔
      ((ofList inserted).byTable? schema.table).isSome = true := by
  constructor
  · intro hsame
    rw [← hsame, ← ofList_concat, isSome_byTable?_ofList]
    exact ⟨schema, by simp, rfl⟩
  · intro hknown table
    obtain ⟨found, hfound⟩ := Option.isSome_iff_exists.1 hknown
    obtain ⟨entity, hnoted, -⟩ := Option.bind_eq_some_iff.1 hfound
    rw [byTable?_insert_of_known known, byTable?]
    by_cases htable : schema.table = table
    · rw [← htable, hnoted, Option.some_or]
    · rw [if_neg htable, Option.or_none]

/-- The answers after any run of insertions. By entity they are those of the first schema inserted,
and a schema of a known entity changes none of them. By table it is the entity inserted first for
the table that answers, so the answer is the earliest kept schema with the table exactly as long as
the first one inserted with it was kept. -/
theorem answers_of_insertions (inserted : List Schema) :
    (∀ entity, (ofList inserted).get entity =
      match inserted.find? (·.entity = entity) with
      | some schema => .ok schema
      | none => .error (.schema (.unknownEntity entity))) ∧
    (ofList inserted).size = (inserted.map (·.entity)).toFinset.card ∧
    (∀ schema, (ofList inserted).contains schema.entity = true →
      (∀ entity, ((ofList inserted).insert schema).get entity = (ofList inserted).get entity) ∧
      (∀ entity,
        ((ofList inserted).insert schema).contains entity = (ofList inserted).contains entity) ∧
      ((ofList inserted).insert schema).size = (ofList inserted).size ∧
      ((∀ table,
          ((ofList inserted).insert schema).byTable? table = (ofList inserted).byTable? table) ↔
        ((ofList inserted).byTable? schema.table).isSome = true)) ∧
    ∀ table,
      ((ofList inserted).byTable? table =
        (inserted.find? (·.table = table)).bind fun noted =>
          inserted.find? (·.entity = noted.entity)) ∧
      ((ofList inserted).byTable? table = earliestKept? inserted table ↔
        ∀ noted, inserted.find? (·.table = table) = some noted → isKept inserted noted = true) := by
  refine ⟨fun entity => ?_, size_ofList inserted, fun schema known => ?_,
    fun table => ⟨byTable?_ofList inserted table, byTable?_ofList_eq_iff inserted table⟩⟩
  · cases hfound : inserted.find? (·.entity = entity) <;> simp [get, get?_ofList, hfound]
  · have hschemas := schemas_insert_of_known known
    refine ⟨get_insert_of_known known, fun entity => ?_, ?_, byTable?_insert_eq_iff known⟩
    · simp [contains, get?, hschemas]
    · simp [size, hschemas]

/-- Three sample schemas, of which the last moves the first to the table of the second. -/
def sampleAccount : Schema := ⟨"Account", "accounts", [], []⟩

def sampleArchive : Schema := ⟨"Archive", "archive", [], []⟩

def sampleMoved : Schema := ⟨"Account", "archive", [], []⟩

/-- A dropped schema changes no answer by table if another one was inserted with its table. -/
theorem answers_of_insertions_sample :
    (ofList [sampleAccount, sampleArchive]).contains sampleMoved.entity = true ∧
      (∀ table, ((ofList [sampleAccount, sampleArchive]).insert sampleMoved).byTable? table =
        (ofList [sampleAccount, sampleArchive]).byTable? table) ∧
      (ofList [sampleAccount, sampleArchive, sampleMoved]).byTable? "archive" =
        earliestKept? [sampleAccount, sampleArchive, sampleMoved] "archive" := by
  have known : (ofList [sampleAccount, sampleArchive]).contains sampleMoved.entity = true := by
    decide
  obtain ⟨-, -, dropped, -⟩ := answers_of_insertions [sampleAccount, sampleArchive]
  obtain ⟨-, -, -, byTables⟩ := answers_of_insertions [sampleAccount, sampleArchive, sampleMoved]
  refine ⟨known, (dropped sampleMoved known).2.2.2.2 (by decide), (byTables "archive").2.2 ?_⟩
  intro noted hnoted
  obtain rfl : sampleArchive = noted := Option.some.inj hnoted
  decide

/-- But if its table is new, the table now leads to the kept schema, which has another one. -/
theorem dropped_schema_answers_by_table :
    (ofList [sampleAccount]).contains sampleMoved.entity = true ∧
      (ofList [sampleAccount]).byTable? "archive" = none ∧
      ((ofList [sampleAccount]).insert sampleMoved).byTable? "archive" = some sampleAccount ∧
      sampleAccount.table ≠ "archive" := by
  decide

end EntityQuery.Registry
