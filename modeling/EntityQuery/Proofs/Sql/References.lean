import EntityQuery.Proofs.Sql.Groups
import EntityQuery.Proofs.Sql.Joins

/-!
# Added references

Asking for related entities does not change the statement of a query that compiles. A reference is
not without effect, since it decides between the navigation fields that lead to a joined entity. But
if the joins are made without it, the decision has been taken: an earlier reference counts before a
later one, and where no reference counted there was only one field, which a later one can only name
again.
-/
namespace EntityQuery

/-- The clause is a reference to a navigation field of the root. -/
def Clause.NamesNavigation (node : Clause) (root : Schema) : Prop :=
  node.kind = .reference ∧ ∃ ref field, node.expr = .field ref ∧
    (ref.entity = none ∨ ref.entity = some root.entity) ∧
    root.field ref.name = .ok field ∧ field.navigation.isSome = true

/-- References are clauses of no other group. -/
theorem Clauses.inGroup_extend_references {nodes : List Clause}
    (hnodes : ∀ node ∈ nodes, node.kind = .reference) {group : ClauseGroup}
    (hgroup : group ≠ .references) (clauses : Clauses) :
    (clauses.extend nodes).inGroup group = clauses.inGroup group := by
  induction nodes generalizing clauses with
  | nil => rfl
  | cons node nodes ih =>
      obtain ⟨hnode, hnodes⟩ := List.forall_mem_cons.1 hnodes
      have hother : node.kind.group ≠ group := by
        rw [hnode]
        exact Ne.symm hgroup
      have hpush : clauses.push node = ⟨clauses.nodes ++ [node]⟩ :=
        push_of_not_isSingleton (by rw [hnode]; rfl) clauses
      rw [extend_cons, ih hnodes, hpush]
      simp [inGroup, hother]

namespace Sql

section

variable {root : Schema} {references : List String}

theorem referencedFields_append {xs ys : List Clause} {before after : List String}
    (hxs : referencedFields root xs = .ok before) (hys : referencedFields root ys = .ok after) :
    referencedFields root (xs ++ ys) = .ok (before ++ after) := by
  induction xs generalizing before with
  | nil =>
      cases hxs
      exact hys
  | cons node nodes ih =>
      obtain ⟨field, hfield, hxs⟩ := except_bind_eq_ok_iff.1 hxs
      obtain ⟨navigation, hnavigation, hxs⟩ := except_bind_eq_ok_iff.1 hxs
      obtain ⟨fields, hfields, hxs⟩ := except_bind_eq_ok_iff.1 hxs
      cases hxs
      exact except_bind_eq_ok_iff.2 ⟨field, hfield, except_bind_eq_ok_iff.2
        ⟨navigation, hnavigation, except_bind_eq_ok_iff.2 ⟨_, ih hfields, rfl⟩⟩⟩

theorem exists_referencedFields {nodes : List Clause}
    (h : ∀ node ∈ nodes, node.NamesNavigation root) :
    ∃ fields, referencedFields root nodes = .ok fields := by
  induction nodes with
  | nil => exact ⟨[], rfl⟩
  | cons node nodes ih =>
      obtain ⟨⟨-, ref, field, hexpr, howner, hfield, hsome⟩, hnodes⟩ := List.forall_mem_cons.1 h
      obtain ⟨fields, hfields⟩ := ih hnodes
      obtain ⟨navigation, hnavigation⟩ := Option.isSome_iff_exists.1 hsome
      have hreference : referenceField root.entity node.expr = .ok ref.name := by
        rw [hexpr]
        rcases howner with hnone | hroot
        · simp [referenceField, hnone]
        · simp [referenceField, hroot]
      have hleads : root.navigation ref.name = .ok navigation :=
        except_bind_eq_ok_iff.2 ⟨field, hfield, by simp [hnavigation]⟩
      exact ⟨ref.name :: fields, except_bind_eq_ok_iff.2 ⟨_, hreference,
        except_bind_eq_ok_iff.2 ⟨_, hleads, except_bind_eq_ok_iff.2 ⟨_, hfields, rfl⟩⟩⟩⟩

/-- A choice that has been taken stays as it is, whatever is referenced later. -/
theorem navigationField_append {target : Schema} {field : String}
    (h : navigationField root references target = .ok field) (later : List String) :
    navigationField root (references ++ later) target = .ok field := by
  simp only [navigationField] at h ⊢
  generalize (root.navigationsTo target.entity).map (·.1.name) = candidates at h ⊢
  rw [List.find?_append]
  cases hfound : references.find? candidates.contains with
  | some found =>
      rw [hfound] at h
      exact h
  | none =>
      -- without a reference that counts there is one candidate
      obtain rfl : candidates = [field] := by
        rw [hfound] at h
        rcases candidates with - | ⟨candidate, - | ⟨other, rest⟩⟩
        · cases h
        · cases h
          rfl
        · cases h
      cases hlater : later.find? [field].contains with
      | none => rfl
      | some found =>
          have hmem : found = field := by simpa using List.find?_some hlater
          exact congrArg Except.ok hmem

theorem joinOf_append {aliases : Aliases} {target : Schema} {join : Join}
    (h : joinOf root aliases references target = .ok join) (later : List String) :
    joinOf root aliases (references ++ later) target = .ok join := by
  obtain ⟨field, hfield, h⟩ := except_bind_eq_ok_iff.1 h
  exact except_bind_eq_ok_iff.2 ⟨field, navigationField_append hfield later, h⟩

theorem joinsOf_append {aliases : Aliases} {targets : List Schema} {joins : List Join}
    (h : joinsOf root aliases references targets = .ok joins) (later : List String) :
    joinsOf root aliases (references ++ later) targets = .ok joins := by
  induction targets generalizing joins with
  | nil => exact h
  | cons target targets ih =>
      obtain ⟨join, hjoin, h⟩ := except_bind_eq_ok_iff.1 h
      obtain ⟨rest, hrest, h⟩ := except_bind_eq_ok_iff.1 h
      exact except_bind_eq_ok_iff.2
        ⟨join, joinOf_append hjoin later, except_bind_eq_ok_iff.2 ⟨rest, ih hrest, h⟩⟩

end

/-- Joins that are made are made just so with more references. -/
theorem joining_append {ctx : Context} {references nodes : List Clause} {fields : List String}
    {s t : Scope} {unjoined statement : Statement}
    (hnodes : referencedFields ctx.root nodes = .ok fields)
    (h : (joining ctx references unjoined).runOn s = (.ok statement, t)) :
    (joining ctx (references ++ nodes) unjoined).runOn s = (.ok statement, t) := by
  obtain ⟨before, _, hbefore, h⟩ := Build.runOn_bind_eq_ok.1 h
  obtain ⟨hreferenced, rfl⟩ := Prod.mk.inj hbefore
  obtain ⟨scope, _, hget, h⟩ := Build.runOn_bind_eq_ok.1 h
  obtain ⟨joins, _, hjoins, h⟩ := Build.runOn_bind_eq_ok.1 h
  obtain ⟨hjoined, rfl⟩ := Prod.mk.inj hjoins
  have hall : referencedFields ctx.root (references ++ nodes) = .ok (before ++ fields) :=
    referencedFields_append hreferenced hnodes
  exact Build.runOn_bind_eq_ok.2 ⟨before ++ fields, _, Prod.ext hall rfl,
    Build.runOn_bind_eq_ok.2 ⟨scope, _, hget,
      Build.runOn_bind_eq_ok.2 ⟨joins, _, Prod.ext (joinsOf_append hjoined fields) rfl, h⟩⟩⟩

/-- A statement that is made is made just so with more references to navigation fields. -/
theorem statementOf_extend_references {ctx : Context} {clauses : Clauses} {nodes : List Clause}
    {s t : Scope} {statement : Statement}
    (h : (statementOf ctx clauses).runOn s = (.ok statement, t))
    (hnodes : ∀ node ∈ nodes, node.NamesNavigation ctx.root) :
    (statementOf ctx (clauses.extend nodes)).runOn s = (.ok statement, t) := by
  have hkind : ∀ node ∈ nodes, node.kind = .reference := fun node hmem => (hnodes node hmem).1
  have hunjoined : unjoined ctx (clauses.extend nodes) = unjoined ctx clauses :=
    unjoined_congr (fun _ hgroup => Clauses.inGroup_extend_references hkind hgroup clauses) ctx
  have hreferences : (clauses.extend nodes).ofKind .reference =
      clauses.ofKind .reference ++ nodes := by
    rw [Clauses.ofKind_extend rfl, List.filter_eq_self.2 (by simpa using hkind)]
  obtain ⟨fields, hfields⟩ := exists_referencedFields hnodes
  rw [statementOf_eq] at h ⊢
  rw [hunjoined, hreferences]
  obtain ⟨made, u, hmade, hjoined⟩ := Build.runOn_bind_eq_ok.1 h
  exact Build.runOn_bind_eq_ok.2 ⟨made, u, hmade, joining_append hfields hjoined⟩

/-- Asking for related entities does not change the query. What is asked of the related entities
does not matter either; it is not even looked at. -/
theorem compile_extend_references {registry : Registry} {root : String} {clauses : Clauses}
    {query : SqlQuery} {schema : Schema} {nodes : List Clause}
    (hroot : registry.get root = .ok schema)
    (h : compile registry root clauses = .ok query)
    (hnodes : ∀ node ∈ nodes, node.NamesNavigation schema) :
    compile registry root (clauses.extend nodes) = .ok query := by
  obtain ⟨ctx, hctx, hcompile⟩ := compile_ok h
  obtain ⟨statement, t, hrun, rfl⟩ := compileOn_ok hcompile
  obtain rfl : ctx = ⟨registry, schema⟩ := by
    rw [Context.of, hroot] at hctx
    exact (Except.ok.inj hctx).symm
  exact compile_of_statementOf hctx (statementOf_extend_references hrun hnodes)

/-- The sample schema of a transfer from one order to another. -/
def sampleTransfer : Schema :=
  ⟨"Transfer", "transfers",
    [⟨"Id", "id", .int32, true, false, none⟩,
      ⟨"FromId", "from_id", .int32, false, false, none⟩,
      ⟨"ToId", "to_id", .int32, false, false, none⟩,
      .ofNavigation "From" ⟨"Order", false, ["FromId"], ["Id"]⟩,
      .ofNavigation "To" ⟨"Order", false, ["ToId"], ["Id"]⟩], []⟩

def sampleTransfers : Registry := .ofList [sampleTransfer, sampleOrder]

/-- The transfers from paid orders. -/
def sampleTransferClauses : Clauses :=
  .ofList [.reference "From" [], .of .filter (.fieldOf "Order" "Paid")]

/-- Clauses that are no query: the limit is not a number. -/
def sampleBadLimit : List Clause := [.of .limit (.literal (.text "ten"))]

/-- The transfers are read the same with the orders that they go to, whatever is asked of these. -/
theorem compile_extend_references_sample :
    ∃ query, compile sampleTransfers "Transfer" sampleTransferClauses = .ok query ∧
      compile sampleTransfers "Transfer"
        (sampleTransferClauses.extend [.reference "To" sampleBadLimit]) = .ok query ∧
      (compile sampleTransfers "Order" (.ofList sampleBadLimit)).isOk = false := by
  have hok : (compile sampleTransfers "Transfer" sampleTransferClauses).isOk = true := by
    decide +kernel
  obtain ⟨query, hquery⟩ := except_exists_of_isOk hok
  have hnames : (Clause.reference "To" sampleBadLimit).NamesNavigation sampleTransfer :=
    ⟨rfl, _, _, rfl, .inl rfl, rfl, rfl⟩
  exact ⟨query, hquery,
    compile_extend_references rfl hquery (List.forall_mem_singleton.2 hnames), by decide +kernel⟩

end Sql

end EntityQuery
