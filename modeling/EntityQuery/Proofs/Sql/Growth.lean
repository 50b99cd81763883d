import EntityQuery.Proofs.Sql.Column
import EntityQuery.Sql.Where

/-!
# Growth of scopes

A construction step only adds to a scope: aliases, parameters and joined entities that were there
before it are there after it, in their places, also if the step fails. The steps that make a
predicate leave the keywords as they are, too.
-/
namespace EntityQuery.Sql

namespace Scope

/-- Everything that was given out in `s` is given out in `t`, in the same place. -/
structure Grows (s t : Scope) : Prop where
  aliases : s.aliases.tables <+: t.aliases.tables
  params : s.params.entries <+: t.params.entries
  joined : s.joined <+: t.joined

/-- The same keywords are open. -/
structure SameFlags (s t : Scope) : Prop where
  conjoined : t.conjoined = s.conjoined
  whereOpen : t.whereOpen = s.whereOpen
  orderOpen : t.orderOpen = s.orderOpen
  groupOpen : t.groupOpen = s.groupOpen

/-- What a step without keywords does to a scope. -/
structure Extends (s t : Scope) : Prop where
  grows : s.Grows t
  flags : s.SameFlags t

instance : IsPreorder Scope Grows where
  refl _ := ⟨List.prefix_rfl, List.prefix_rfl, List.prefix_rfl⟩
  trans _ _ _ h h' :=
    ⟨h.aliases.trans h'.aliases, h.params.trans h'.params, h.joined.trans h'.joined⟩

instance : IsPreorder Scope SameFlags where
  refl _ := ⟨rfl, rfl, rfl, rfl⟩
  trans _ _ _ h h' :=
    ⟨h'.conjoined.trans h.conjoined, h'.whereOpen.trans h.whereOpen,
      h'.orderOpen.trans h.orderOpen, h'.groupOpen.trans h.groupOpen⟩

instance : IsPreorder Scope Extends where
  refl s := ⟨refl_of Grows s, refl_of SameFlags s⟩
  trans _ _ _ h h' := ⟨trans_of Grows h.grows h'.grows, trans_of SameFlags h.flags h'.flags⟩

theorem Extends.rfl {s : Scope} : s.Extends s := refl_of Extends s

theorem Extends.trans {s t u : Scope} (h : s.Extends t) (h' : t.Extends u) : s.Extends u :=
  trans_of Extends h h'

/-- A table keeps its alias. -/
theorem Grows.alias_eq {s t : Scope} (h : s.Grows t) {table qualifier : String}
    (hget : s.aliases.get? table = some qualifier) : t.aliases.get? table = some qualifier :=
  Aliases.get?_of_prefix h.aliases hget

theorem joined_join_prefix (s : Scope) (ctx : Context) (owner : Schema) :
    s.joined <+: (s.join ctx owner).joined := by
  unfold join
  split
  · exact List.prefix_rfl
  · exact List.prefix_append s.joined [owner]

theorem extends_join (s : Scope) (ctx : Context) (owner : Schema) :
    s.Extends (s.join ctx owner) := by
  have hjoined := s.joined_join_prefix ctx owner
  unfold join at hjoined ⊢
  split
  · exact Extends.rfl
  · next hnew =>
      rw [if_neg hnew] at hjoined
      exact ⟨⟨List.prefix_rfl, List.prefix_rfl, hjoined⟩, ⟨rfl, rfl, rfl, rfl⟩⟩

theorem extends_including (s : Scope) (table : String) :
    s.Extends { s with aliases := s.aliases.including table } := by
  refine ⟨⟨?_, List.prefix_rfl, List.prefix_rfl⟩, ⟨rfl, rfl, rfl, rfl⟩⟩
  rw [Aliases.tables_including]
  split
  · exact List.prefix_rfl
  · exact List.prefix_append _ _

/-- A column that is used only adds to the scope. -/
theorem extends_using (s : Scope) (ctx : Context) (owner : Schema) :
    s.Extends (s.using ctx owner) := by
  have h := (s.join ctx owner).extends_including owner.table
  rw [s.aliases_join] at h
  exact (s.extends_join ctx owner).trans h

end Scope

namespace Params

/-- A value that is found stays found when later values are bound. -/
theorem get?_of_prefix {p q : Params} {name : String} {value : Value}
    (h : p.entries <+: q.entries) (hget : p.get? name = some value) :
    q.get? name = some value := by
  obtain ⟨more, hmore⟩ := h
  rw [get?, ← hmore, List.lookup_append, show p.entries.lookup name = some value from hget,
    Option.some_or]

/-- The value that has just been bound is found under its name. -/
theorem get?_bind (params : Params) (field : String) (value : Value) :
    (params.bind field value).2.get? (params.bind field value).1 = some value := by
  have hfresh := bind_fresh params field value
  rw [get?, entries_bind, List.lookup_append]
  have hnone : params.entries.lookup (params.bind field value).1 = none := by
    rw [List.lookup_eq_none_iff]
    intro entry hmem
    have hne : (params.bind field value).1 ≠ entry.1 :=
      fun heq => hfresh (List.mem_map.2 ⟨entry, hmem, heq.symm⟩)
    simpa using hne
  simp [hnone]

end Params

/-- Binding a value adds it at the end of the parameters. -/
theorem runOn_bindParam (field : String) (value : Value) (s : Scope) :
    (bindParam field value).runOn s =
      (.ok (s.params.bind field value).1,
        { s with params := (s.params.bind field value).2 }) := rfl

namespace Build

theorem Keeps.bindParam (field : String) (value : Value) :
    Keeps Scope.Extends (Sql.bindParam field value) := by
  intro s
  rw [runOn_bindParam]
  exact ⟨⟨List.prefix_rfl, List.prefix_append _ _, List.prefix_rfl⟩, ⟨rfl, rfl, rfl, rfl⟩⟩

theorem Keeps.requestAlias (ctx : Context) (table : String) :
    Keeps Scope.Extends (Sql.requestAlias ctx table) := by
  intro s
  rw [runOn_requestAlias]
  split
  · exact Scope.Extends.rfl
  · exact s.extends_including table

theorem Keeps.column (ctx : Context) (ref : FieldRef) :
    Keeps Scope.Extends (Sql.column ctx ref) := by
  refine .bind (.ofExcept _) fun owner => .bind (.ofExcept _) fun field => ?_
  have hrest : Keeps Scope.Extends (do
      modify (·.join ctx owner)
      let token ← Sql.requestAlias ctx owner.table
      return ((⟨token, field.column⟩, field) : Column × Field)) :=
    .bind (fun s => s.extends_join ctx owner) fun _ =>
      .bind (.requestAlias ctx owner.table) fun _ => .pure _
  split
  · exact .bind (.throw _) fun _ => hrest
  · exact hrest

/-- The relation holds across the two steps that change a scope in all others: the use of a column
and the binding of a value. -/
class KeptByUses (ctx : Context) (R : Scope → Scope → Prop) : Prop extends IsPreorder Scope R where
  column : ∀ ref, Keeps R (Sql.column ctx ref)
  bindParam : ∀ field value, Keeps R (Sql.bindParam field value)

/-- Besides, it does not depend on which keywords are open. -/
class KeptByPieces (ctx : Context) (R : Scope → Scope → Prop) : Prop extends
    KeptByUses ctx R where
  keyword : ∀ {s t : Scope}, t.aliases = s.aliases → t.params = s.params → t.joined = s.joined →
    R s t

instance (ctx : Context) : KeptByUses ctx Scope.Extends where
  column := .column ctx
  bindParam := .bindParam

instance (ctx : Context) : KeptByPieces ctx Scope.Grows where
  column ref s := (Keeps.column ctx ref s).grows
  bindParam field value s := (Keeps.bindParam field value s).grows
  keyword haliases hparams hjoined :=
    ⟨haliases ▸ List.prefix_rfl, hparams ▸ List.prefix_rfl, hjoined ▸ List.prefix_rfl⟩

end Build

end EntityQuery.Sql
