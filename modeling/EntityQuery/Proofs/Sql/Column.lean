import EntityQuery.Proofs.Sql.Step
import Mathlib.Data.List.Basic

/-!
# Columns of fields

Whether a field has a column depends on the schemas alone and not on the state of the statement.
A column that is used may give its table an alias and note its entity as joined; nothing that was
given out before changes.
-/
namespace EntityQuery.Sql

namespace Aliases

/-- The aliases once a table has one. -/
def including (aliases : Aliases) (table : String) : Aliases :=
  if table ∈ aliases.tables then aliases
  else ⟨aliases.primaryTable, aliases.others ++ [table]⟩

theorem tables_including (aliases : Aliases) (table : String) :
    (aliases.including table).tables =
      if table ∈ aliases.tables then aliases.tables else aliases.tables ++ [table] := by
  unfold including
  split
  · rfl
  · simp [tables]

theorem mem_including (aliases : Aliases) (table : String) :
    table ∈ (aliases.including table).tables := by
  rw [tables_including]
  split
  · assumption
  · simp

/-- The number of a table is the same before and after it gets an alias. -/
theorem idxOf_including (aliases : Aliases) (table : String) :
    (aliases.including table).tables.idxOf table = aliases.tables.idxOf table := by
  rw [tables_including]
  by_cases hmem : table ∈ aliases.tables
  · rw [if_pos hmem]
  · rw [if_neg hmem, List.idxOf_append_of_notMem hmem, List.idxOf_of_notMem hmem]
    simp

theorem idxOf?_of_mem {tables : List String} {table : String} (h : table ∈ tables) :
    tables.idxOf? table = some (tables.idxOf table) := by
  induction tables with
  | nil => simp at h
  | cons first rest ih =>
      rw [List.idxOf?_cons, List.idxOf_cons]
      by_cases hfirst : (first == table) = true
      · simp [hfirst]
      · have hrest : table ∈ rest := by
          rcases List.mem_cons.1 h with rfl | hmem
          · simp at hfirst
          · exact hmem
        simp [hfirst, ih hrest]

theorem get?_of_mem {aliases : Aliases} {table : String} (h : table ∈ aliases.tables) :
    aliases.get? table = some (token (aliases.tables.idxOf table)) := by
  rw [get?, idxOf?_of_mem h, Option.map_some]

/-- A table keeps its alias when later tables get one. -/
theorem get?_of_prefix {a b : Aliases} {table alias' : String} (h : a.tables <+: b.tables)
    (hget : a.get? table = some alias') : b.get? table = some alias' := by
  have hmem : table ∈ a.tables := by
    rw [get?, Option.map_eq_some_iff] at hget
    obtain ⟨n, hn, _⟩ := hget
    exact List.isSome_idxOf?.1 (by rw [hn]; rfl)
  obtain ⟨more, hmore⟩ := h
  rw [get?_of_mem hmem] at hget
  rw [get?_of_mem (hmore ▸ List.mem_append_left more hmem), ← hmore,
    List.idxOf_append_of_mem hmem]
  exact hget

/-- A request gives a known table the alias of its number. -/
theorem request_eq (aliases : Aliases) (registry : Registry) (table : String) :
    aliases.request registry table =
      if (registry.byTable? table).isNone then .error (.schema (.unknownTable table))
      else .ok (token (aliases.tables.idxOf table), aliases.including table) := by
  unfold request
  by_cases hmem : table ∈ aliases.tables
  · rw [get?_of_mem hmem, including, if_pos hmem]
  · have hget : aliases.get? table = none := by
      rw [get?, List.idxOf?_eq_none_iff.2 hmem, Option.map_none]
    rw [hget, including, if_neg hmem, List.idxOf_of_notMem hmem]

end Aliases

/-- The owner of a field and the field, which must have a column in a known table. -/
def Context.stored (ctx : Context) (ref : FieldRef) : Except QueryError (Schema × Field) :=
  match ctx.owner ref with
  | .error e => .error e
  | .ok owner =>
      match owner.field ref.name with
      | .error e => .error e
      | .ok field =>
          if field.isVirtual then .error (.compile (.virtualField owner.entity field.name))
          else if (ctx.registry.byTable? owner.table).isNone then
            .error (.schema (.unknownTable owner.table))
          else .ok (owner, field)

/-- The scope after the column of a field of `owner` has been used. -/
def Scope.using (scope : Scope) (ctx : Context) (owner : Schema) : Scope :=
  { scope.join ctx owner with aliases := scope.aliases.including owner.table }

/-- The column of a field of `owner`, under the alias of its table. -/
def Scope.columnIn (scope : Scope) (owner : Schema) (field : Field) : Column :=
  ⟨Aliases.token (scope.aliases.tables.idxOf owner.table), field.column⟩

theorem Scope.aliases_join (scope : Scope) (ctx : Context) (owner : Schema) :
    (scope.join ctx owner).aliases = scope.aliases := by
  unfold Scope.join
  split <;> rfl

theorem Scope.params_using (s : Scope) (ctx : Context) (owner : Schema) :
    (s.using ctx owner).params = s.params := by
  unfold Scope.using Scope.join
  split <;> rfl

theorem runOn_requestAlias (ctx : Context) (table : String) (s : Scope) :
    (requestAlias ctx table).runOn s =
      if (ctx.registry.byTable? table).isNone then
        (.error (.schema (.unknownTable table)), s)
      else
        (.ok (Aliases.token (s.aliases.tables.idxOf table)),
          { s with aliases := s.aliases.including table }) := by
  rw [requestAlias, Build.runOn_bind, Build.runOn_get]
  simp only [Aliases.request_eq]
  split <;> rfl

theorem Context.stored_eq_ok_iff {ctx : Context} {ref : FieldRef} {owner : Schema}
    {field : Field} : ctx.stored ref = .ok (owner, field) ↔
      ctx.owner ref = .ok owner ∧ owner.field ref.name = .ok field ∧ field.isVirtual = false ∧
        (ctx.registry.byTable? owner.table).isNone = false := by
  constructor
  · intro h
    unfold Context.stored at h
    rcases howner : ctx.owner ref with e | o
    · simp [howner] at h
    rcases hfield : o.field ref.name with e | f
    · simp [howner, hfield] at h
    by_cases hvirtual : f.isVirtual = true
    · simp [howner, hfield, hvirtual] at h
    by_cases hknown : (ctx.registry.byTable? o.table).isNone = true
    · simp only [howner, hfield, hvirtual, hknown, if_true] at h
      cases h
    · simp only [howner, hfield, hvirtual, hknown] at h
      cases h
      exact ⟨rfl, hfield, Bool.eq_false_iff.2 hvirtual, Bool.eq_false_iff.2 hknown⟩
  · rintro ⟨howner, hfield, hvirtual, hknown⟩
    simp only [Context.stored, howner, hfield, hvirtual, hknown]
    rfl

/-- A field that is stored has its column in every scope. -/
theorem runOn_column_of_stored {ctx : Context} {ref : FieldRef} {owner : Schema} {field : Field}
    (h : ctx.stored ref = .ok (owner, field)) (s : Scope) :
    (column ctx ref).runOn s = (.ok (s.columnIn owner field, field), s.using ctx owner) := by
  obtain ⟨howner, hfield, hvirtual, hknown⟩ := Context.stored_eq_ok_iff.1 h
  simp [column, Build.runOn_bind, howner, hfield, hvirtual, hknown, runOn_requestAlias,
    Scope.aliases_join, Scope.columnIn, Scope.using, Except.map]

/-- A field that is not stored has no column in any scope. -/
theorem runOn_column_of_not_stored {ctx : Context} {ref : FieldRef} {e : QueryError}
    (h : ctx.stored ref = .error e) (s : Scope) :
    ∃ t, (column ctx ref).runOn s = (.error e, t) := by
  unfold Context.stored at h
  rcases howner : ctx.owner ref with e' | owner
  · exact ⟨s, by simp_all [column, Build.runOn_bind]⟩
  rcases hfield : owner.field ref.name with e' | field
  · exact ⟨s, by simp_all [column, Build.runOn_bind]⟩
  by_cases hvirtual : field.isVirtual = true
  · exact ⟨s, by simp_all [column, Build.runOn_bind]⟩
  by_cases hknown : (ctx.registry.byTable? owner.table).isNone = true
  · refine ⟨s.join ctx owner, ?_⟩
    simp only [howner, hfield, hvirtual, hknown, if_true] at h
    cases h
    simp [column, Build.runOn_bind, howner, hfield, hvirtual, runOn_requestAlias, hknown,
      Except.map]
  · simp [howner, hfield, hvirtual, hknown] at h

theorem fails_column_of_not_stored {ctx : Context} {ref : FieldRef} {e : QueryError}
    (h : ctx.stored ref = .error e) : (column ctx ref).Fails :=
  fun s => ⟨e, runOn_column_of_not_stored h s⟩

/-- A column that is used is that of a stored field. -/
theorem stored_of_runOn_column {ctx : Context} {ref : FieldRef} {s t : Scope} {c : Column}
    {field : Field} (h : (column ctx ref).runOn s = (.ok (c, field), t)) :
    ∃ owner, ctx.stored ref = .ok (owner, field) ∧ c = s.columnIn owner field ∧
      t = s.using ctx owner := by
  rcases hstored : ctx.stored ref with e | ⟨owner, f⟩
  · exact absurd h (fails_column_of_not_stored hstored).not_eq_ok
  · rw [runOn_column_of_stored hstored] at h
    cases h
    exact ⟨owner, rfl, rfl, rfl⟩

end EntityQuery.Sql
