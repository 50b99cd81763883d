import EntityQuery.Proofs.Sql.AliasToken
import EntityQuery.Proofs.Sql.Joins
import Mathlib.Data.List.Nodup

/-!
# Table aliases

A statement reads the table of the root and, by its joins, those of other entities, each under an
alias. Joins are noted for entities, but an alias is given to a table and not to an entity. So the
aliases of a statement are distinct exactly if no two of its entities are stored in one table.
-/
namespace EntityQuery

/-- No two entities are stored in one table. -/
def Registry.Unshared (registry : Registry) : Prop :=
  ∀ schema schema', registry.get? schema.entity = some schema →
    registry.get? schema'.entity = some schema' → schema.table = schema'.table → schema = schema'

/-- A name is kept once. -/
theorem nodup_eraseDups (names : List String) : names.eraseDups.Nodup := by
  induction hlength : names.length using Nat.strongRecOn generalizing names with
  | ind n ih =>
      cases names with
      | nil => simp
      | cons name names =>
          have hshorter := List.length_filter_le (fun other => !other == name) names
          rw [List.eraseDups_cons, List.nodup_cons, List.mem_eraseDups]
          refine ⟨by simp, ih _ ?_ _ rfl⟩
          rw [← hlength, List.length_cons]
          omega

/-- The root and the joined entities are different entities. -/
theorem Clauses.nodup_joinedEntities (clauses : Clauses) (root : String) :
    (root :: clauses.joinedEntities root).Nodup := by
  refine List.nodup_cons.2 ⟨fun hmem => ?_, nodup_eraseDups _⟩
  rw [joinedEntities, List.mem_eraseDups, List.mem_filterMap] at hmem
  obtain ⟨ref, -, hother⟩ := hmem
  have hne := (Option.filter_eq_some_iff.1 hother).2
  simp at hne

namespace Sql

/-- The schemas of the entities that are joined for the clauses. -/
def Context.schemasJoined (ctx : Context) (clauses : Clauses) : List Schema :=
  (clauses.joinedEntities ctx.root.entity).filterMap ctx.registry.get?

/-- The schemas whose tables a statement of the clauses reads: the root and the joined ones. -/
def Context.schemasRead (ctx : Context) (clauses : Clauses) : List Schema :=
  ctx.root :: ctx.schemasJoined clauses

/-- The tables that a statement reads, in the order of its text. -/
def Statement.tables (s : Statement) : List String := s.table :: s.joins.map (·.table)

/-- The aliases that a statement introduces for them. -/
def Statement.introduced (s : Statement) : List String := s.qualifier :: s.joins.map (·.qualifier)

namespace Aliases

/-- Different tables have different aliases. -/
theorem get?_inj {aliases : Aliases} {table table' qualifier : String}
    (h : aliases.get? table = some qualifier) (h' : aliases.get? table' = some qualifier) :
    table = table' :=
  Option.some.inj ((lookup_sources h).symm.trans (lookup_sources h'))

/-- The aliases of some tables repeat where the tables do, and nowhere else. -/
theorem nodup_iff_of_get? {aliases : Aliases} {tables qualifiers : List String}
    (h : tables.map aliases.get? = qualifiers.map some) : qualifiers.Nodup ↔ tables.Nodup := by
  have hsome : Function.Injective (some : String → Option String) := fun _ _ => Option.some.inj
  rw [← List.nodup_map_iff hsome, ← h]
  refine ⟨List.Nodup.of_map _, List.Nodup.map_on fun table hmem table' _ hsame => ?_⟩
  obtain ⟨qualifier, -, halias⟩ := List.mem_map.1 (h ▸ List.mem_map_of_mem hmem)
  exact get?_inj halias.symm (hsame ▸ halias.symm)

end Aliases

variable {ctx : Context} {clauses : Clauses} {references : List String} {t : Scope}
  {statement : Statement}

/-- The root and the joined entities of a statement have different schemas. -/
theorem nodup_schemasRead {registry : Registry} {root : String}
    (hctx : Context.of registry root = .ok ctx) (clauses : Clauses) :
    (∀ schema ∈ ctx.schemasRead clauses, registry.get? schema.entity = some schema) ∧
      (ctx.schemasRead clauses).Nodup := by
  obtain ⟨schema, hget, rfl⟩ := except_map_eq_ok_iff.1 hctx
  have hroot : registry.get? schema.entity = some schema := by
    have hknown := Registry.get_eq_ok_iff.1 hget
    rwa [← Registry.entity_of_get? hknown] at hknown
  have hread : Context.schemasRead ⟨registry, schema⟩ clauses =
      (schema.entity :: clauses.joinedEntities schema.entity).filterMap registry.get? := by
    rw [List.filterMap_cons_some hroot]
    rfl
  rw [hread]
  refine ⟨fun found hmem => ?_, (clauses.nodup_joinedEntities schema.entity).filterMap ?_⟩
  · obtain ⟨entity, -, hfound⟩ := List.mem_filterMap.1 hmem
    rwa [← Registry.entity_of_get? hfound] at hfound
  · intro entity entity' found h h'
    exact (Registry.entity_of_get? h).symm.trans (Registry.entity_of_get? h')

/-- If no two entities are stored in one table, a statement reads no table twice. -/
theorem nodup_tables_of_unshared {registry : Registry} {root : String}
    (hctx : Context.of registry root = .ok ctx) (hunshared : registry.Unshared)
    (clauses : Clauses) : ((ctx.schemasRead clauses).map (·.table)).Nodup := by
  obtain ⟨hknown, hnodup⟩ := nodup_schemasRead hctx clauses
  refine hnodup.map_on fun schema hmem schema' hmem' hsame => ?_
  exact hunshared schema schema' (hknown schema hmem) (hknown schema' hmem') hsame

namespace Statement

namespace MadeOf

/-- The schemas that are noted as joined are those of the joined entities. -/
theorem joined_eq (h : statement.MadeOf ctx clauses references t) :
    t.joined = ctx.schemasJoined clauses := by
  have hfound : t.joined.filterMap (fun schema => ctx.registry.get? schema.entity) =
      t.joined.filterMap some :=
    List.filterMap_congr fun schema hmem => Registry.get_eq_ok_iff.1 (h.known schema hmem)
  rw [Context.schemasJoined, ← h.joinedNames_eq, Scope.joinedNames, List.filterMap_map]
  rw [List.filterMap_some] at hfound
  exact hfound.symm

theorem joins_of_joined (h : statement.MadeOf ctx clauses references t) :
    List.Forall₂ (fun schema join => joinOf ctx.root t.aliases references schema = .ok join)
      (ctx.schemasJoined clauses) statement.joins :=
  h.joined_eq ▸ joinsOf_ok h.joins

/-- A statement reads the tables of its entities. -/
theorem tables_eq (h : statement.MadeOf ctx clauses references t) :
    statement.tables = (ctx.schemasRead clauses).map (·.table) := by
  have hjoined : (ctx.schemasJoined clauses).map (·.table) = statement.joins.map (·.table) := by
    refine map_eq_map_of_forall₂ h.joins_of_joined fun schema join hjoin => ?_
    obtain ⟨field, keys, -, -, -, -, htable⟩ := joinOf_ok hjoin
    exact htable.symm
  rw [tables, h.table, ← hjoined]
  rfl

/-- Each of its aliases is that of the table of the entity at the same place. -/
theorem aliased (h : statement.MadeOf ctx clauses references t) :
    List.Forall₂ (fun schema qualifier => t.aliases.get? schema.table = some qualifier)
      (ctx.schemasRead clauses) statement.introduced := by
  refine .cons ?_ (List.forall₂_map_right_iff.2 (h.joins_of_joined.imp fun schema join hjoin => ?_))
  · rw [h.qualifier]
    exact h.primary_eq
  · obtain ⟨field, keys, -, -, halias, -, -⟩ := joinOf_ok hjoin
    exact halias

theorem nodup_introduced_iff (h : statement.MadeOf ctx clauses references t) :
    statement.introduced.Nodup ↔ ((ctx.schemasRead clauses).map (·.table)).Nodup := by
  have hsame : ((ctx.schemasRead clauses).map (·.table)).map t.aliases.get? =
      statement.introduced.map some := by
    rw [List.map_map]
    exact map_eq_map_of_forall₂ h.aliased fun _ _ halias => halias
  exact Aliases.nodup_iff_of_get? hsame

end MadeOf

/-- Every column is under an alias that is introduced. -/
theorem Joined.mem_introduced (h : statement.Joined ctx clauses references) :
    ∀ c ∈ statement.columns, c.qualifier ∈ statement.introduced := by
  intro c hmem
  rcases h.qualifiers c hmem with hprimary | ⟨join, hjoin, hqualifier⟩
  · rw [hprimary, ← h.qualifier]
    exact List.mem_cons_self
  · rw [hqualifier]
    exact List.mem_cons_of_mem _ (List.mem_map_of_mem hjoin)

end Statement

/-- The aliases of a compiled statement are distinct if and only if the root and the joined entities
are stored in different tables, and then every column is under the alias of exactly one table. It is
so for every statement if no two entities are stored in one table. -/
theorem introduced_nodup_iff {registry : Registry} {root : String} {clauses : Clauses}
    {query : SqlQuery} (h : compile registry root clauses = .ok query) :
    ∃ ctx statement,
      Context.of registry root = .ok ctx ∧
      plan registry root clauses = .ok (statement, query.params) ∧
      query.sql = statement.text ∧
      statement.tables = (ctx.schemasRead clauses).map (·.table) ∧
      (statement.introduced.Nodup ↔ statement.tables.Nodup) ∧
      (statement.introduced.Nodup →
        ∀ c ∈ statement.columns, statement.introduced.count c.qualifier = 1) ∧
      (registry.Unshared → statement.introduced.Nodup) := by
  obtain ⟨ctx, statement, references, t, hctx, hplan, htext, hmade⟩ := statement_of_compile h
  have hiff := hmade.nodup_introduced_iff
  refine ⟨ctx, statement, hctx, hplan, htext, hmade.tables_eq, hmade.tables_eq ▸ hiff, ?_, ?_⟩
  · intro hnodup c hmem
    exact List.count_eq_one_of_mem hnodup (hmade.joined.mem_introduced c hmem)
  · intro hunshared
    exact hiff.2 (nodup_tables_of_unshared hctx hunshared clauses)

/-- The lines and the order that they are joined to have different aliases. -/
theorem introduced_nodup_iff_sample :
    ∃ query statement, compile sampleLines "Line" sampleLineClauses = .ok query ∧
      plan sampleLines "Line" sampleLineClauses = .ok (statement, query.params) ∧
      statement.tables = ["lines", "orders"] ∧ statement.introduced.Nodup ∧
      ∀ c ∈ statement.columns, statement.introduced.count c.qualifier = 1 := by
  have hok : (compile sampleLines "Line" sampleLineClauses).isOk = true := by
    decide +kernel
  obtain ⟨query, hquery⟩ := except_exists_of_isOk hok
  obtain ⟨ctx, statement, hctx, hplan, -, htables, hiff, hcount, -⟩ := introduced_nodup_iff hquery
  obtain rfl : (⟨sampleLines, sampleLine⟩ : Context) = ctx := Except.ok.inj hctx
  have hread : ((Context.schemasRead ⟨sampleLines, sampleLine⟩ sampleLineClauses).map (·.table)) =
      ["lines", "orders"] := by
    decide +kernel
  rw [hread] at htables
  have hnodup : statement.introduced.Nodup := hiff.2 (htables ▸ by decide)
  exact ⟨query, statement, hquery, hplan, htables, hnodup, hcount hnodup⟩

/-- A sample schema of persons with superiors, and one of the superiors in the same table. -/
def samplePerson : Schema :=
  ⟨"Person", "persons",
    [⟨"Id", "id", .int64, true, false, none⟩,
      ⟨"SuperiorId", "superior_id", .int64, false, false, none⟩,
      .ofNavigation "Superior" ⟨"Superior", false, ["SuperiorId"], ["Id"]⟩], []⟩

def sampleSuperior : Schema :=
  ⟨"Superior", "persons",
    [⟨"Id", "id", .int64, true, false, none⟩, ⟨"Name", "name", .text, false, false, none⟩], []⟩

/-- The persons whose superior has a name. -/
def samplePersonClauses : Clauses :=
  .ofList [.of .filter (.compare .eq (.fieldOf "Superior" "Name") (.literal (.text "ada")))]

/-- The superiors are joined under the alias of the persons, which are stored in the same table. -/
theorem introduced_twice_of_shared_table :
    (plan (.ofList [samplePerson, sampleSuperior]) "Person" samplePersonClauses).toOption.map
        (fun made => (made.1.text, made.1.introduced)) =
      some ("SELECT a.id, a.superior_id FROM persons a LEFT JOIN persons a ON a.id = " ++
        "a.superior_id WHERE (a.name = @_name_0_)", ["a", "a"]) ∧
      ¬ ["a", "a"].Nodup := by
  decide +kernel

end Sql

end EntityQuery
