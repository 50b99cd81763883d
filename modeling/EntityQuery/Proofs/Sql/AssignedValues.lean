import EntityQuery.Proofs.Reference.Keys
import EntityQuery.Proofs.Sql.FragmentState
import EntityQuery.Proofs.Sql.Grammar

/-!
# Assigned values

An assignment binds values of the declared type of its target only, each under a name of its own.
The target is a stored field of the root, and the new value is a literal that can be converted to
the type of the target, or another stored field. Anything else is refused, whatever has been asked
for on the same scope before.
-/
namespace EntityQuery

/-- What can be bound for a field of a type: null, or a value of the type. Truth values are bound as
integers. -/
def Value.BoundFor (type : FieldType) (value : Value) : Prop :=
  value = .null ∨ if type = .bool then value = .int32 0 ∨ value = .int32 1
    else value.type? = some type

theorem Value.boundFor_of_coerce {value w : Value} {type : FieldType}
    (h : value.coerce type = .ok w) : w.bound.BoundFor type := by
  by_cases hnull : value.isNull = true
  · obtain rfl := Value.isNull_iff.1 hnull
    cases h
    exact .inl rfl
  · have htype := type?_of_coerce? (Bool.eq_false_iff.2 hnull) (coerce_eq_ok_iff.1 h)
    right
    split
    · next hbool =>
        subst hbool
        cases w with
        | bool b => cases b <;> simp [bound]
        | null | int32 _ | int64 _ | uint64 _ | float _ | text _ | bytes _ => cases htype
    · next hbool =>
        cases w with
        | bool b => exact absurd (Option.some.inj htype).symm hbool
        | null | int32 _ | int64 _ | uint64 _ | float _ | text _ | bytes _ => exact htype

namespace Sql

/-- The target of an assignment: a field that the root stores. -/
def Context.Targets (ctx : Context) (target : FieldRef) (field : Field) : Prop :=
  (target.entity = none ∨ target.entity = some ctx.root.entity) ∧
    ctx.root.field? target.name = some field ∧ field.isVirtual = false

/-- What a field of a type can be assigned. -/
inductive Assignable (ctx : Context) (type : FieldType) : Expr → Prop
  | literal {value w : Value} (coerced : value.coerce type = .ok w) :
      Assignable ctx type (.literal value)
  | field {ref : FieldRef} (stored : ctx.Resolves ref) : Assignable ctx type (.field ref)

/-- The expression lists the assignments, of which there is at least one. One equation is an
assignment too. -/
inductive ListsPairs : Expr → List (FieldRef × Expr) → Prop
  | assign {pairs : List (FieldRef × Expr)} (ne_nil : pairs ≠ []) : ListsPairs (.assign pairs) pairs
  | equation (target : FieldRef) (value : Expr) :
      ListsPairs (.compare .eq (.field target) value) [(target, value)]

/-- What the new value of a field of a type becomes, with the parameters that it adds: a literal is
converted and bound, and a field is its column. -/
inductive ValueAs (ctx : Context) (t : Scope) (type : FieldType) :
    Expr → Operand → List (String × Value) → Prop
  | literal {value w : Value} {name : String} (coerced : value.coerce type = .ok w)
      (bound : w.bound.BoundFor type) :
      ValueAs ctx t type (.literal value) (.parameter name) [(name, w.bound)]
  | field {ref : FieldRef} {c : Column} (shown : ShownAs ctx t ref c) :
      ValueAs ctx t type (.field ref) (.column c) []

/-- What an assignment becomes, with the parameters that it adds. -/
def AssignedAs (ctx : Context) (t : Scope) (pair : FieldRef × Expr)
    (made : Assignment × List (String × Value)) : Prop :=
  ∃ field, ctx.Targets pair.1 field ∧ made.1.target.text = "a." ++ field.column ∧
    ValueAs ctx t field.type pair.2 made.1.value made.2

theorem assignedPairs_eq_ok_iff {e : Expr} {pairs : List (FieldRef × Expr)} :
    assignedPairs e = .ok pairs ↔ ListsPairs e pairs := by
  constructor
  · intro h
    unfold assignedPairs at h
    split at h
    · cases h
      exact .assign (List.cons_ne_nil _ _)
    · cases h
      exact .equation _ _
    · cases h
  · rintro (hne | ⟨target, value⟩)
    · obtain ⟨pair, pairs, rfl⟩ := List.exists_cons_of_ne_nil hne
      rfl
    · rfl

/-! ### What is assigned -/

section Runs

variable {ctx : Context} {s t u : Scope}

theorem ValueAs.of_grows {type : FieldType} {e : Expr} {operand : Operand}
    {added : List (String × Value)} (h : ValueAs ctx t type e operand added) (hgrows : t.Grows u) :
    ValueAs ctx u type e operand added := by
  cases h with
  | literal coerced bound => exact .literal coerced bound
  | field shown => exact .field (shown.of_grows hgrows)

theorem AssignedAs.of_grows {pair : FieldRef × Expr} {made : Assignment × List (String × Value)}
    (h : AssignedAs ctx t pair made) (hgrows : t.Grows u) : AssignedAs ctx u pair made := by
  obtain ⟨field, htarget, htext, hvalue⟩ := h
  exact ⟨field, htarget, htext, hvalue.of_grows hgrows⟩

/-- A target that is accepted is a field of the root, whose alias is the first. -/
theorem target_of_column (hs : s.Consistent ctx) {target : FieldRef}
    (hown : target.entity.any (· ≠ ctx.root.entity) = false) {c : Column} {field : Field}
    (h : (column ctx target).runOn s = (.ok (c, field), t)) :
    ctx.Targets target field ∧ c.text = "a." ++ field.column ∧ t.params = s.params := by
  obtain ⟨owner, hstored, rfl, rfl⟩ := stored_of_runOn_column h
  obtain ⟨howner, hfield, hvirtual, -⟩ := Context.stored_eq_ok_iff.1 hstored
  have hentity : target.entity = none ∨ target.entity = some ctx.root.entity := by
    cases hnamed : target.entity with
    | none => exact .inl rfl
    | some entity => exact .inr (by simpa [hnamed] using hown)
  obtain rfl : ctx.root = owner := by
    rcases hentity with hnone | hroot
    · simpa [Context.owner, hnone] using howner
    · simpa [Context.owner, hroot] using howner
  refine ⟨⟨hentity, Schema.field_eq_ok_iff.1 hfield, hvirtual⟩, ?_, s.params_using ctx ctx.root⟩
  have hfirst : s.aliases.tables.idxOf ctx.root.table = 0 := by
    rw [Aliases.tables, hs.primary, List.idxOf_cons_self]
  have halias : Aliases.token 0 = "a" := Aliases.primary_eq
  rw [Scope.columnIn, hfirst, halias]
  rfl

theorem valueAs_of_assignedValue {field : Field} {e : Expr} {operand : Operand}
    (h : (assignedValue ctx field e).runOn s = (.ok operand, t)) :
    ∃ added, ValueAs ctx t field.type e operand added ∧
      t.params.entries = s.params.entries ++ added := by
  rcases assignedValue_ok h with
    ⟨v, w, name, rfl, hcoerce, rfl, hbind⟩ | ⟨ref, c, source, rfl, rfl, hsource⟩
  · rw [runOn_bindParam] at hbind
    cases hbind
    exact ⟨_, .literal hcoerce (Value.boundFor_of_coerce hcoerce), Params.entries_bind _ _ _⟩
  · obtain ⟨owner, hstored, rfl, rfl⟩ := stored_of_runOn_column hsource
    refine ⟨[], .field (shownAs_columnIn hstored (refl_of Scope.Grows _)), ?_⟩
    rw [s.params_using, List.append_nil]

theorem assignedAs_of_assignment (hs : s.Consistent ctx) {pair : FieldRef × Expr}
    {assigned : Assignment} (h : (assignment ctx pair.1 pair.2).runOn s = (.ok assigned, t)) :
    ∃ added, AssignedAs ctx t pair (assigned, added) ∧
      t.params.entries = s.params.entries ++ added := by
  obtain ⟨hown, field, u, hcolumn, hvalue⟩ := assignment_ok h
  obtain ⟨htarget, htext, hparams⟩ := target_of_column hs hown hcolumn
  obtain ⟨added, hassigned, hentries⟩ := valueAs_of_assignedValue hvalue
  exact ⟨added, ⟨field, htarget, htext, hassigned⟩, by rw [hentries, hparams]⟩

/-- Each assignment goes on with the scope that those before it leave, and adds its own parameters
at the end. -/
theorem assignedAs_of_assignmentsOf (hknown : ctx.TablesKnown) (hs : s.Consistent ctx)
    {pairs : List (FieldRef × Expr)} {assigned : List Assignment}
    (h : (assignmentsOf ctx pairs).runOn s = (.ok assigned, t)) :
    ∃ made : List (Assignment × List (String × Value)), made.map (·.1) = assigned ∧
      List.Forall₂ (AssignedAs ctx t) pairs made ∧
      t.params.entries = s.params.entries ++ made.flatMap (·.2) := by
  induction pairs generalizing s assigned with
  | nil =>
      cases h
      exact ⟨[], rfl, .nil, (List.append_nil _).symm⟩
  | cons pair pairs ih =>
      obtain ⟨first, u, hfirst, h⟩ := Build.runOn_bind_eq_ok.1 h
      obtain ⟨rest, v, hrest, h⟩ := Build.runOn_bind_eq_ok.1 h
      cases h
      have := Build.keptByPieces_consistent hknown
      have hu : u.Consistent ctx :=
        (Build.Keeps.assignment (R := Scope.Preserved (Scope.Consistent ctx)) pair.1 pair.2).of_eq
          hfirst hs
      have hgrows : u.Grows t := (Build.Keeps.assignmentsOf pairs).of_eq hrest
      obtain ⟨added, hassigned, hadded⟩ := assignedAs_of_assignment hs hfirst
      obtain ⟨made, rfl, hmade, hlater⟩ := ih hu hrest
      refine ⟨(first, added) :: made, rfl, .cons (hassigned.of_grows hgrows) hmade, ?_⟩
      rw [hlater, hadded, List.flatMap_cons, List.append_assoc]

end Runs

/-! ### What is accepted -/

section Accepted

variable {ι : Type} {inserted : List Schema} {root : String} {ctx : Context}
  (hctx : Context.of (.ofList inserted) root = .ok ctx)
include hctx

open Build (DecidedBy)

/-- A field of the root is found in the root, also where the root is named. -/
theorem targets_iff_resolvesTo {target : FieldRef} {field : Field}
    (hown : target.entity = none ∨ target.entity = some ctx.root.entity) :
    ctx.ResolvesTo target field ↔ ctx.Targets target field := by
  have hname : target.entity.getD ctx.root.entity = ctx.root.entity := by
    rcases hown with h | h <;> rw [h] <;> rfl
  simp [Context.ResolvesTo, Context.Targets, hname, get?_root hctx, hown]

theorem decidedBy_assignedValue (field : Field) (e : Expr) :
    DecidedBy (Assignable ctx field.type e) fun _ : ι => assignedValue ctx field e := by
  cases e with
  | literal value =>
      refine ((DecidedBy.ofExcept _).bind ((DecidedBy.bindParam _ _).bind (.pure _))).congr ?_
      simp only [and_self, and_true, except_mapError_eq_ok_iff]
      exact ⟨fun ⟨_, hw⟩ => .literal hw, fun h => by cases h; exact ⟨_, ‹_›⟩⟩
  | field ref =>
      refine (DecidedBy.resolved hctx ref fun _ => .pure _).congr ?_
      exact ⟨fun h => .field h.1, fun h => by cases h; exact ⟨‹_›, trivial⟩⟩
  | list _ | fields _ | compare _ _ _ | and _ _ | or _ _ | not _ | call _ _ _ | assign _ | all =>
      exact (DecidedBy.throw _).congr (iff_of_false id fun h => by cases h)

theorem decidedBy_assignment (target : FieldRef) (value : Expr) :
    DecidedBy (∃ field, ctx.Targets target field ∧ Assignable ctx field.type value)
      fun _ : ι => assignment ctx target value := by
  unfold assignment
  by_cases hown : target.entity = none ∨ target.entity = some ctx.root.entity
  · have hany : target.entity.any (· ≠ ctx.root.entity) = false := by
      rcases hown with h | h <;> simp [h]
    simp only [hany, Bool.false_eq_true, if_false]
    refine (DecidedBy.column hctx target fun field =>
      (decidedBy_assignedValue hctx field value).bind (.pure _)).congr ?_
    simp only [and_true, targets_iff_resolvesTo hctx hown]
  · have hany : target.entity.any (· ≠ ctx.root.entity) = true := by
      cases hnamed : target.entity with
      | none => exact absurd (.inl hnamed) hown
      | some entity => simpa [hnamed] using hown
    simp only [hany, if_true]
    exact (DecidedBy.throw_bind _ _).congr (iff_of_false id fun ⟨_, htarget, _⟩ => hown htarget.1)

theorem decidedBy_assignmentsOf (pairs : List (FieldRef × Expr)) :
    DecidedBy (∀ pair ∈ pairs, ∃ field, ctx.Targets pair.1 field ∧ Assignable ctx field.type pair.2)
      fun _ : ι => assignmentsOf ctx pairs := by
  induction pairs generalizing ι with
  | nil => exact (DecidedBy.pure _).congr (by simp)
  | cons pair pairs ih =>
      refine ((decidedBy_assignment hctx pair.1 pair.2).bind (ih.bind (.pure _))).congr ?_
      rw [and_true, List.forall_mem_cons]

/-- Whether assignments are accepted, and else the error, has nothing to do with the scope. -/
theorem decidedBy_assignments (e : Expr) :
    DecidedBy (∃ pairs, ListsPairs e pairs ∧
        ∀ pair ∈ pairs, ∃ field, ctx.Targets pair.1 field ∧ Assignable ctx field.type pair.2)
      fun _ : ι => assignments ctx e := by
  simp only [← assignedPairs_eq_ok_iff]
  unfold assignments
  cases hpairs : assignedPairs e with
  | error error => exact ⟨some error, by simp, fun _ _ => rfl⟩
  | ok pairs =>
      obtain ⟨error?, hnone, hdecided⟩ := decidedBy_assignmentsOf (ι := ι) hctx pairs
      exact ⟨error?, by simp [hnone], hdecided⟩

end Accepted

/-- The SET part binds values of the declared types of its targets only. Over a registry made by
insertions, after any calls on the scope, it is made exactly of at least one assignment of a stored
field of the root, to a literal that can be converted to the type of the field or to another stored
field; everything else is refused. Its text lists the assignments in order. Each literal is bound,
converted, under a name of its own, each field is its column, and no other parameter is added. -/
theorem assigned_values_declared (inserted : List Schema) (root : String) (ctx : Context)
    (hctx : Context.of (.ofList inserted) root = .ok ctx) (earlier : List Fragment) (e : Expr) :
    ((∃ text t, (Fragment.assigning e).run ctx (ctx.scope.after ctx earlier) = (.ok text, t)) ↔
      ∃ pairs, ListsPairs e pairs ∧
        ∀ pair ∈ pairs, ∃ field, ctx.Targets pair.1 field ∧ Assignable ctx field.type pair.2) ∧
    ∀ text t, (Fragment.assigning e).run ctx (ctx.scope.after ctx earlier) = (.ok text, t) →
      ∃ pairs made, ListsPairs e pairs ∧ List.Forall₂ (AssignedAs ctx t) pairs made ∧
        text = "SET " ++
          ", ".intercalate (made.map fun m => m.1.target.text ++ " = " ++ m.1.value.text) ∧
        t.params.entries =
          (ctx.scope.after ctx earlier).params.entries ++ made.flatMap (·.2) ∧
        t.params.names.Nodup := by
  have hknown := tablesKnown_of_insertions hctx
  have hconsistent := (Scope.Consistent.scope ctx).after hknown earlier
  constructor
  · obtain ⟨error?, hnone, hdecided⟩ := decidedBy_assignments (ι := Unit) hctx e
    rw [← hnone, ← (hdecided ()).eq_ok_iff (ctx.scope.after ctx earlier)]
    constructor
    · rintro ⟨text, t, h⟩
      obtain ⟨assigned, hassigned, -⟩ := Build.runOn_map_eq_ok.1 h
      exact ⟨assigned, t, hassigned⟩
    · rintro ⟨assigned, t, h⟩
      exact ⟨_, t, Build.runOn_map_eq_ok.2 ⟨assigned, h, rfl⟩⟩
  · intro text t h
    obtain ⟨assigned, hassigned, rfl⟩ := Build.runOn_map_eq_ok.1 h
    have := Build.keptByPieces_consistent hknown
    have hafter : t.Consistent ctx :=
      (Build.Keeps.assignments (R := Scope.Preserved (Scope.Consistent ctx)) e).of_eq hassigned
        hconsistent
    obtain ⟨pairs, u, hpairs, hassigned⟩ := Build.runOn_bind_eq_ok.1 hassigned
    obtain ⟨hlisted, rfl⟩ := Prod.mk.inj hpairs
    obtain ⟨made, rfl, hmade, hentries⟩ :=
      assignedAs_of_assignmentsOf hknown hconsistent hassigned
    refine ⟨pairs, made, assignedPairs_eq_ok_iff.1 hlisted, hmade, ?_, hentries, hafter.names⟩
    rw [assignmentsText, List.map_map]
    rfl

/-- A line is moved to another order, and gets the number of the customer. -/
def samplePairs : List (FieldRef × Expr) :=
  [(⟨none, "OrderId"⟩, .literal (.int64 7)),
    (⟨some "Line", "Id"⟩, .field ⟨some "Order", "Customer"⟩)]

theorem assigned_values_declared_sample :
    ∃ text t made, (Fragment.assigning (.assign samplePairs)).run ⟨sampleLines, sampleLine⟩
        ((Scope.ofTable "lines").after ⟨sampleLines, sampleLine⟩ [sampleFailing]) =
          (.ok text, t) ∧
      List.Forall₂ (AssignedAs ⟨sampleLines, sampleLine⟩ t) samplePairs made ∧
      t.params.names.Nodup := by
  have hctx : Context.of (.ofList [sampleLine, sampleOrder]) "Line" =
      .ok ⟨sampleLines, sampleLine⟩ := by rfl
  have hok : ((Fragment.assigning (.assign samplePairs)).run ⟨sampleLines, sampleLine⟩
      ((Scope.ofTable "lines").after ⟨sampleLines, sampleLine⟩ [sampleFailing])).1.isOk =
        true := by
    decide +kernel
  obtain ⟨text, t, hrun⟩ := Build.exists_of_isOk hok
  obtain ⟨pairs, made, hpairs, hmade, -, -, hnames⟩ :=
    (assigned_values_declared _ _ _ hctx [sampleFailing] _).2 text t hrun
  cases hpairs
  exact ⟨text, t, made, hrun, hmade, hnames⟩

end Sql

end EntityQuery
