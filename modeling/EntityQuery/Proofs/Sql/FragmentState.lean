import EntityQuery.Proofs.Sql.AliasToken
import EntityQuery.Proofs.Sql.InternalFaults
import EntityQuery.Sql.Fragment

/-!
# The state between calls

Parts of a statement that are asked for one at a time share a scope. Whatever is asked for, in any
order, and also where a call fails halfway, a call only adds to the scope: parameters, aliases and
joined entities stay in their places. Nothing is listed twice, the root is never joined, and every
joined entity has a table with an alias.
-/
namespace EntityQuery.Sql

/-! ### Aliases in order -/

namespace Aliases

theorem toList_prefix {a b : Aliases} (h : a.tables <+: b.tables) : a.toList <+: b.toList := by
  obtain ⟨more, hmore⟩ := h
  rw [toList, toList, ← hmore, List.zipIdx_append, List.map_append]
  exact List.prefix_append _ _

/-- The aliases are the tokens of the first numbers. -/
theorem map_snd_toList (aliases : Aliases) :
    aliases.toList.map (·.2) = (List.range aliases.size).map token := by
  rw [toList, List.map_map, List.range_eq_range', size, ← List.zipIdx_map_snd 0 aliases.tables,
    List.map_map]
  rfl

theorem nodup_map_snd_toList (aliases : Aliases) : (aliases.toList.map (·.2)).Nodup := by
  rw [map_snd_toList]
  exact List.nodup_range.map fun _ _ => token_inj

theorem map_fst_toList (aliases : Aliases) : aliases.toList.map (·.1) = aliases.tables := by
  rw [toList, List.map_map]
  exact List.zipIdx_map_fst 0 aliases.tables

theorem head?_toList (aliases : Aliases) :
    aliases.toList.head? = some (aliases.primaryTable, primary) := rfl

theorem nodup_tables_including {aliases : Aliases} (h : aliases.tables.Nodup) (table : String) :
    (aliases.including table).tables.Nodup := by
  rw [tables_including]
  split
  · exact h
  · next hnew => exact List.concat_eq_append ▸ h.concat hnew

theorem primaryTable_including (aliases : Aliases) (table : String) :
    (aliases.including table).primaryTable = aliases.primaryTable := by
  unfold including
  split <;> rfl

theorem primary_eq : primary = "a" := by decide +kernel

end Aliases

/-! ### What every step keeps -/

/-- Nothing is listed twice, the root's table is the first and the root is not joined, and the table
of every joined entity has an alias. -/
structure Scope.Consistent (ctx : Context) (s : Scope) : Prop where
  names : s.params.names.Nodup
  primary : s.aliases.primaryTable = ctx.root.table
  tables : s.aliases.tables.Nodup
  joined : (ctx.root.entity :: s.joinedNames).Nodup
  covered : s.Covered

namespace Scope.Consistent

variable {ctx : Context} {s t : Scope}

theorem scope (ctx : Context) : ctx.scope.Consistent ctx where
  names := List.nodup_nil
  primary := rfl
  tables := List.nodup_singleton _
  joined := List.nodup_singleton _
  covered _ hmem := absurd hmem List.not_mem_nil

theorem bind (h : s.Consistent ctx) (field : String) (value : Value) :
    { s with params := (s.params.bind field value).2 }.Consistent ctx where
  names := by
    rw [Params.names_bind, ← List.concat_eq_append]
    exact h.names.concat (s.params.bind_fresh field value)
  primary := h.primary
  tables := h.tables
  joined := h.joined
  covered := h.covered

/-- An entity is joined at its first use only, and then its table has an alias. -/
theorem of_using (h : s.Consistent ctx) (owner : Schema) : (s.using ctx owner).Consistent ctx where
  names := (s.params_using ctx owner).symm ▸ h.names
  primary := (s.aliases.primaryTable_including owner.table).trans h.primary
  tables := Aliases.nodup_tables_including h.tables owner.table
  joined := by
    rw [joinedNames_using]
    split
    · exact h.joined
    · next hnew =>
        have hfresh : owner.entity ∉ ctx.root.entity :: s.joinedNames := by
          simpa [List.mem_cons] using hnew
        simpa using h.joined.concat hfresh
  covered := h.covered.using ctx owner

theorem keyword (h : s.Consistent ctx) (haliases : t.aliases = s.aliases)
    (hparams : t.params = s.params) (hjoined : t.joined = s.joined) : t.Consistent ctx where
  names := hparams ▸ h.names
  primary := haliases ▸ h.primary
  tables := haliases ▸ h.tables
  joined := by
    rw [joinedNames, hjoined]
    exact h.joined
  covered := by
    rw [Covered, hjoined, haliases]
    exact h.covered

end Scope.Consistent

/-- Where the tables are known, a field without a column leaves no trace. -/
theorem Context.TablesKnown.runOn_column {ctx : Context} (hknown : ctx.TablesKnown)
    (ref : FieldRef) (s : Scope) :
    ((column ctx ref).runOn s).2 = s ∨
      ∃ owner, ((column ctx ref).runOn s).2 = s.using ctx owner := by
  rcases howner : ctx.owner ref with e | owner
  · exact .inl (by simp [column, Build.runOn_bind, howner])
  rcases hfield : owner.field ref.name with e | field
  · exact .inl (by simp [column, Build.runOn_bind, howner, hfield])
  by_cases hvirtual : field.isVirtual = true
  · exact .inl (by simp [column, Build.runOn_bind, howner, hfield, hvirtual])
  have htable : (ctx.registry.byTable? owner.table).isNone = false := by
    simpa using hknown ref owner howner
  have hstored : ctx.stored ref = .ok (owner, field) :=
    Context.stored_eq_ok_iff.2 ⟨howner, hfield, Bool.eq_false_iff.2 hvirtual, htable⟩
  exact .inr ⟨owner, by rw [runOn_column_of_stored hstored]⟩

/-- A property that holds after a step if it holds before it. -/
def Scope.Preserved (P : Scope → Prop) (s t : Scope) : Prop := P s → P t

instance (P : Scope → Prop) : IsPreorder Scope (Scope.Preserved P) where
  refl _ := id
  trans _ _ _ h h' := h' ∘ h

namespace Build

theorem keptByPieces_consistent {ctx : Context} (hknown : ctx.TablesKnown) :
    KeptByPieces ctx (Scope.Preserved (Scope.Consistent ctx)) where
  column ref s hs := by
    rcases hknown.runOn_column ref s with hsame | ⟨owner, husing⟩
    · rwa [hsame]
    · rw [husing]
      exact hs.of_using owner
  bindParam field value _ hs := hs.bind field value
  keyword haliases hparams hjoined hs := hs.keyword haliases hparams hjoined

variable {R : Scope → Scope → Prop} {ctx : Context} [KeptByPieces ctx R]

/-- Every call keeps what columns, values and keywords keep. -/
theorem Keeps.fragment (call : Fragment) : Keeps R (call.build ctx) := by
  cases call with
  | filter predicate => exact .map (.wherePiece predicate) _
  | ordering descending projection => exact .map (.orderPiece descending projection) _
  | grouping distinct projection => exact .map (.groupPiece _ projection) _
  | counting projection => exact .map (.countedColumn projection) _
  | assigning e => exact .map (.assignments e) _
  | limiting count => exact .map (.ofExcept _) _

/-- What each call keeps, all of them keep. -/
theorem Keeps.after (calls : List Fragment) (s : Scope) : R s (s.after ctx calls) := by
  induction calls generalizing s with
  | nil => exact refl_of R s
  | cons call calls ih => exact trans_of R (Keeps.fragment call s) (ih _)

end Build

theorem Scope.after_append (s : Scope) (ctx : Context) (earlier later : List Fragment) :
    s.after ctx (earlier ++ later) = (s.after ctx earlier).after ctx later :=
  List.foldl_append

theorem Scope.Consistent.after {ctx : Context} (hknown : ctx.TablesKnown) {s : Scope}
    (h : s.Consistent ctx) (calls : List Fragment) : (s.after ctx calls).Consistent ctx :=
  have := Build.keptByPieces_consistent hknown
  Build.Keeps.after (R := Scope.Preserved (Scope.Consistent ctx)) calls s h

/-- The state of a statement only grows. Over a registry made by insertions, after any calls for
parts of it, whether they succeed or fail, what was there before a further call is there after it,
in its place. The names of parameters differ, and so do the aliases, of which the first is that of
the root's table. The joined entities differ from each other and from the root, and each has a table
with an alias. -/
theorem state_grows_with_calls (inserted : List Schema) (root : String) (ctx : Context)
    (hctx : Context.of (.ofList inserted) root = .ok ctx) (calls : List Fragment) :
    (∀ later, (ctx.scope.after ctx calls).params.entries <+:
        (ctx.scope.after ctx (calls ++ later)).params.entries ∧
      (ctx.scope.after ctx calls).aliases.toList <+:
        (ctx.scope.after ctx (calls ++ later)).aliases.toList ∧
      (ctx.scope.after ctx calls).joined <+: (ctx.scope.after ctx (calls ++ later)).joined) ∧
    (ctx.scope.after ctx calls).params.names.Nodup ∧
    ((ctx.scope.after ctx calls).aliases.toList.map (·.1)).Nodup ∧
    ((ctx.scope.after ctx calls).aliases.toList.map (·.2)).Nodup ∧
    (ctx.scope.after ctx calls).aliases.toList.head? = some (ctx.root.table, "a") ∧
    (ctx.scope.after ctx calls).joinedNames.Nodup ∧
    ctx.root.entity ∉ (ctx.scope.after ctx calls).joinedNames ∧
    ∀ schema ∈ (ctx.scope.after ctx calls).joined,
      ∃ qualifier, (ctx.scope.after ctx calls).aliases.get? schema.table = some qualifier := by
  have hconsistent := (Scope.Consistent.scope ctx).after (tablesKnown_of_insertions hctx) calls
  obtain ⟨hroot, hjoined⟩ := List.nodup_cons.1 hconsistent.joined
  refine ⟨fun later => ?_, hconsistent.names, ?_, Aliases.nodup_map_snd_toList _, ?_, hjoined,
    hroot, fun schema hmem => ?_⟩
  · have hgrows : Scope.Grows _ ((ctx.scope.after ctx calls).after ctx later) :=
      Build.Keeps.after later _
    rw [← Scope.after_append] at hgrows
    exact ⟨hgrows.params, Aliases.toList_prefix hgrows.aliases, hgrows.joined⟩
  · rw [Aliases.map_fst_toList]
    exact hconsistent.tables
  · rw [Aliases.head?_toList, hconsistent.primary, Aliases.primary_eq]
  · exact ⟨_, Aliases.get?_of_mem (hconsistent.covered schema hmem)⟩

/-- A filter that fails at its second field, after a value has been bound and the order joined. -/
def sampleFailing : Fragment :=
  .filter (.and (.compare .eq (.fieldOf "Order" "Customer") (.literal (.int32 4)))
    (.fieldOf "Order" "Lost"))

theorem state_grows_with_calls_sample :
    (sampleFailing.run ⟨sampleLines, sampleLine⟩ (.ofTable "lines")).1.isOk = false ∧
    ((Scope.ofTable "lines").after ⟨sampleLines, sampleLine⟩ [sampleFailing]).params.entries =
      [("@_customer_id_0_", .int32 4)] ∧
    [("@_customer_id_0_", .int32 4)] <+:
      ((Scope.ofTable "lines").after ⟨sampleLines, sampleLine⟩
        [sampleFailing, sampleFailing]).params.entries ∧
    ((Scope.ofTable "lines").after ⟨sampleLines, sampleLine⟩
      [sampleFailing, sampleFailing]).joinedNames.Nodup := by
  have hctx : Context.of (.ofList [sampleLine, sampleOrder]) "Line" =
      .ok ⟨sampleLines, sampleLine⟩ := by rfl
  have hbound : ((Scope.ofTable "lines").after ⟨sampleLines, sampleLine⟩
      [sampleFailing]).params.entries = [("@_customer_id_0_", .int32 4)] := by decide +kernel
  have hgrows := (state_grows_with_calls _ _ _ hctx [sampleFailing]).1 [sampleFailing]
  obtain ⟨-, -, -, -, -, hjoined, -⟩ :=
    state_grows_with_calls _ _ _ hctx [sampleFailing, sampleFailing]
  exact ⟨by decide +kernel, hbound, hbound ▸ hgrows.1, hjoined⟩

end EntityQuery.Sql
