import EntityQuery.Proofs.Sql.Statement

/-!
# Groups of clauses

A statement is made from groups of clauses, one group after the other and each in its own order; how
the groups are interleaved does not matter. The references come last. They are asked only for the
joins, once everything else is there.
-/
namespace EntityQuery

/-- What clauses are taken together for. -/
inductive ClauseGroup where
  | assignments
  | counts
  | filters
  | orderings
  | groupings
  | limits
  | references
  deriving DecidableEq

def ClauseKind.group : ClauseKind → ClauseGroup
  | .set => .assignments
  | .count => .counts
  | .filter => .filters
  | .orderBy | .orderByDescending => .orderings
  | .groupBy | .distinctBy => .groupings
  | .limit => .limits
  | .reference => .references

namespace Clauses

/-- The clauses of one group, in order. -/
def inGroup (clauses : Clauses) (group : ClauseGroup) : List Clause :=
  clauses.nodes.filter (·.kind.group = group)

/-- Both have the same clauses of every group, in the same order. -/
def SameGroups (clauses clauses' : Clauses) : Prop :=
  ∀ group, clauses.inGroup group = clauses'.inGroup group

/-- The clauses of a kind are found in its group. -/
theorem ofKind_eq_filter_inGroup (clauses : Clauses) (kind : ClauseKind) :
    clauses.ofKind kind = (clauses.inGroup kind.group).filter (·.kind = kind) := by
  rw [ofKind, inGroup, List.filter_filter]
  refine List.filter_congr fun node _ => ?_
  by_cases hkind : node.kind = kind
  · simp [hkind]
  · simp [hkind]

/-- What is taken from one group only is found in the group. -/
theorem filterMap_inGroup {α : Type} {f : Clause → Option α} {group : ClauseGroup}
    (h : ∀ node : Clause, node.kind.group ≠ group → f node = none) (clauses : Clauses) :
    clauses.nodes.filterMap f = (clauses.inGroup group).filterMap f := by
  rw [inGroup, List.filterMap_filter]
  refine List.filterMap_congr fun node _ => ?_
  by_cases hgroup : node.kind.group = group
  · simp [hgroup]
  · simp [hgroup, h node hgroup]

section

variable {clauses clauses' : Clauses} {kind : ClauseKind}

theorem ofKind_congr (h : clauses.inGroup kind.group = clauses'.inGroup kind.group) :
    clauses.ofKind kind = clauses'.ofKind kind := by
  rw [ofKind_eq_filter_inGroup, ofKind_eq_filter_inGroup, h]

theorem first?_congr (h : clauses.inGroup kind.group = clauses'.inGroup kind.group) :
    clauses.first? kind = clauses'.first? kind := by
  rw [first?_eq_head?, first?_eq_head?, ofKind_congr h]

theorem has_congr (h : clauses.inGroup kind.group = clauses'.inGroup kind.group) :
    clauses.has kind = clauses'.has kind := by
  rw [has, has, first?_congr h]

end

end Clauses

namespace Sql

theorem orderings_eq_inGroup (clauses : Clauses) :
    orderings clauses.nodes = orderings (clauses.inGroup .orderings) := by
  refine Clauses.filterMap_inGroup (fun node hgroup => ?_) clauses
  cases hkind : node.kind <;> simp_all [ClauseKind.group]

theorem groupings_eq_inGroup (clauses : Clauses) :
    groupings clauses.nodes = groupings (clauses.inGroup .groupings) := by
  refine Clauses.filterMap_inGroup (fun node hgroup => ?_) clauses
  cases hkind : node.kind <;> simp_all [ClauseKind.group]

/-- The statement of clauses without its joins. -/
def unjoined (ctx : Context) (clauses : Clauses) : Build Statement := do
  Build.ofExcept (checkCombination clauses)
  let head ← headOf ctx clauses
  let sets ← setPart ctx clauses
  modify fun scope => { scope with conjoined := 1 < (predicatesOf clauses).length }
  let wheres ← piecesOf (wherePiece ctx) (predicatesOf clauses)
  let orders ← piecesOf (fun o => orderPiece ctx o.1 o.2) (orderings clauses.nodes)
  let groups ← piecesOf (fun g => groupPiece ctx g.1 g.2) (groupings clauses.nodes)
  let limit ← Build.ofExcept (limitPart clauses)
  return ⟨head, ctx.root.table, Aliases.primary, [], sets, wheres, orders, groups, limit⟩

/-- Joins the entities that have been used, along the navigation fields that references name. -/
def joining (ctx : Context) (references : List Clause) (statement : Statement) :
    Build Statement := do
  let fields ← Build.ofExcept (referencedFields ctx.root references)
  let scope ← get
  let joins ← Build.ofExcept (joinsOf ctx.root scope.aliases fields scope.joined)
  return { statement with joins := joins }

/-- The references come in once the rest of the statement has been made. -/
theorem statementOf_eq (ctx : Context) (clauses : Clauses) :
    statementOf ctx clauses =
      unjoined ctx clauses >>= joining ctx (clauses.ofKind .reference) := by
  simp only [statementOf, unjoined, joining, predicatesOf, bind_assoc, pure_bind]
  rfl

section

variable {clauses clauses' : Clauses}

/-- The rest is made without the references. -/
theorem unjoined_congr
    (h : ∀ group ≠ .references, clauses.inGroup group = clauses'.inGroup group) (ctx : Context) :
    unjoined ctx clauses = unjoined ctx clauses' := by
  have hset : clauses.first? .set = clauses'.first? .set := Clauses.first?_congr (h _ (by decide))
  have hcount : clauses.first? .count = clauses'.first? .count :=
    Clauses.first?_congr (h _ (by decide))
  have hasSet : clauses.has .set = clauses'.has .set := Clauses.has_congr (h _ (by decide))
  have hasCount : clauses.has .count = clauses'.has .count := Clauses.has_congr (h _ (by decide))
  have hgroupBy : clauses.has .groupBy = clauses'.has .groupBy :=
    Clauses.has_congr (h _ (by decide))
  have hdistinctBy : clauses.has .distinctBy = clauses'.has .distinctBy :=
    Clauses.has_congr (h _ (by decide))
  have hcombination : checkCombination clauses = checkCombination clauses' := by
    rw [checkCombination, checkCombination, hasSet, hasCount, hgroupBy, hdistinctBy]
  have hhead : headOf ctx clauses = headOf ctx clauses' := by
    rw [headOf, headOf, hset, hcount]
  have hsets : setPart ctx clauses = setPart ctx clauses' := by
    rw [setPart, setPart, hset]
  have hpredicates : predicatesOf clauses = predicatesOf clauses' := by
    rw [predicatesOf, predicatesOf, Clauses.ofKind_congr (h _ (by decide))]
  have horderings : orderings clauses.nodes = orderings clauses'.nodes := by
    rw [orderings_eq_inGroup, orderings_eq_inGroup clauses', h _ (by decide)]
  have hgroupings : groupings clauses.nodes = groupings clauses'.nodes := by
    rw [groupings_eq_inGroup, groupings_eq_inGroup clauses', h _ (by decide)]
  have hlimit : limitPart clauses = limitPart clauses' := by
    rw [limitPart, limitPart, Clauses.first?_congr (h _ (by decide))]
  rw [unjoined, unjoined, hcombination, hhead, hsets, hpredicates, horderings, hgroupings, hlimit]

/-- Statements are made of groups. -/
theorem statementOf_congr (h : clauses.SameGroups clauses') (ctx : Context) :
    statementOf ctx clauses = statementOf ctx clauses' := by
  have hreferences : clauses.ofKind .reference = clauses'.ofKind .reference :=
    Clauses.ofKind_congr (h _)
  rw [statementOf_eq, statementOf_eq, unjoined_congr (fun group _ => h group), hreferences]

end

end Sql

end EntityQuery
