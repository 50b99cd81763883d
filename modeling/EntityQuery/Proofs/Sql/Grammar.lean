import EntityQuery.Proofs.Sql.InternalFaults
import Mathlib.Logic.Function.Iterate

/-!
# The grammar of predicates

Which predicates a WHERE part accepts. A predicate falls into leaves at its conjunctions,
disjunctions and negations, and it is accepted if every leaf has one of a few forms and the fields
that it tests are stored. Whether a leaf is accepted, and with which error it is refused, depends
neither on the statement so far nor on the negations around the leaf. So the first leaf that is not
accepted decides the error of the whole predicate.
-/
namespace EntityQuery

namespace Expr

theorem isLeaf_of_mem_leaves {e leaf : Expr} (h : leaf ∈ e.leaves) : leaf.isLeaf = true := by
  induction e using connectiveInduction with
  | and lhs rhs ihl ihr | or lhs rhs ihl ihr => exact (List.mem_append.1 h).elim ihl ihr
  | not e ih => exact ih h
  | leaf e hleaf =>
      rw [leaves_of_isLeaf hleaf, List.mem_singleton] at h
      rwa [h]

theorem leaves_iterate_not (negations : ℕ) (e : Expr) :
    (Expr.not^[negations] e).leaves = e.leaves := by
  induction negations with
  | zero => rfl
  | succ negations ih => rwa [Function.iterate_succ_apply']

end Expr

namespace Sql

/-- A field is meant that a known entity stores: the entity that is named, or else the root. -/
def Context.ResolvesTo (ctx : Context) (ref : FieldRef) (field : Field) : Prop :=
  ∃ owner, ctx.registry.get? (ref.entity.getD ctx.root.entity) = some owner ∧
    owner.field? ref.name = some field ∧ field.isVirtual = false

def Context.Resolves (ctx : Context) (ref : FieldRef) : Prop := ∃ field, ctx.ResolvesTo ref field

/-- The leaves that a WHERE part can express. -/
inductive Expressible (ctx : Context) : Expr → Prop
  /-- Null is only tested for equality, from either side. -/
  | fieldValue {op : CompareOp} {ref : FieldRef} {value : Value} (stored : ctx.Resolves ref)
      (equality : value = .null → op = .eq ∨ op = .ne) :
      Expressible ctx (.compare op (.field ref) (.literal value))
  | valueField {op : CompareOp} {ref : FieldRef} {value : Value} (stored : ctx.Resolves ref)
      (equality : value = .null → op = .eq ∨ op = .ne) :
      Expressible ctx (.compare op (.literal value) (.field ref))
  | fields {op : CompareOp} {left right : FieldRef} (storedLeft : ctx.Resolves left)
      (storedRight : ctx.Resolves right) :
      Expressible ctx (.compare op (.field left) (.field right))
  | truth {ref : FieldRef} {field : Field} (stored : ctx.ResolvesTo ref field)
      (type : field.type = .bool) : Expressible ctx (.field ref)
  | constant (b : Bool) : Expressible ctx (.literal (.bool b))
  | member {method : Method} {values : List Value} {ref : FieldRef}
      (membership : method = .contains ∨ method = .any) (stored : ctx.Resolves ref)
      (members : ∀ value ∈ values, CanBeMember value) :
      Expressible ctx (.call method (.list values) [.field ref])
  | pattern {method : Method} {ref : FieldRef} {s : String}
      (matching : method = .contains ∨ method = .startsWith ∨ method = .endsWith)
      (stored : ctx.Resolves ref) : Expressible ctx (.call method (.field ref) [.literal (.text s)])
  | missing {method : Method} {ref : FieldRef}
      (nullTest : method = .isNullOrEmpty ∨ method = .isNullOrWhiteSpace)
      (stored : ctx.Resolves ref) : Expressible ctx (.call method (.field ref) [])
  /-- With an argument, the target is not looked at and may be anything. -/
  | missingArgument {method : Method} {target : Expr} {ref : FieldRef}
      (nullTest : method = .isNullOrEmpty ∨ method = .isNullOrWhiteSpace)
      (stored : ctx.Resolves ref) : Expressible ctx (.call method target [.field ref])

theorem get?_root {inserted : List Schema} {root : String} {ctx : Context}
    (hctx : Context.of (.ofList inserted) root = .ok ctx) :
    ctx.registry.get? ctx.root.entity = some ctx.root := by
  obtain ⟨schema, hget, rfl⟩ := except_map_eq_ok_iff.1 hctx
  have hfound := Registry.get_eq_ok_iff.1 hget
  rwa [Registry.entity_of_get? hfound]

/-- The fields that have a column are those that a known entity stores. -/
theorem exists_stored_iff {inserted : List Schema} {root : String} {ctx : Context}
    (hctx : Context.of (.ofList inserted) root = .ok ctx) {ref : FieldRef} {field : Field} :
    (∃ owner, ctx.stored ref = .ok (owner, field)) ↔ ctx.ResolvesTo ref field := by
  have hroot := get?_root hctx
  have howner (owner : Schema) : ctx.owner ref = .ok owner ↔
      ctx.registry.get? (ref.entity.getD ctx.root.entity) = some owner := by
    unfold Context.owner
    cases ref.entity with
    | none => simp [hroot]
    | some entity =>
        by_cases hsame : entity = ctx.root.entity
        · simp [hsame, hroot]
        · simp [hsame, Registry.get_eq_ok_iff]
  unfold Context.ResolvesTo
  refine exists_congr fun owner => ?_
  rw [Context.stored_eq_ok_iff, howner, Schema.field_eq_ok_iff]
  refine and_congr_right fun hget => and_congr_right fun _ => and_iff_left ?_
  simpa using tablesKnown_of_insertions hctx ref owner ((howner owner).2 hget)

/-- The error of a result, if it is one. -/
def fault? {α : Type} : Except QueryError α → Option QueryError
  | .ok _ => none
  | .error e => some e

namespace Build

variable {α β ι : Type} {P Q : Prop}

/-- The step has the same error on every scope, or none on any. -/
def Decided (error? : Option QueryError) (step : Build α) : Prop :=
  ∀ s, fault? (step.runOn s).1 = error?

namespace Decided

theorem pure (x : α) : Decided none (Pure.pure x : Build α) := fun _ => rfl

/-- The first error counts. -/
theorem bind {first second : Option QueryError} {step : Build α} {next : α → Build β}
    (hstep : Decided first step) (hnext : ∀ x, Decided second (next x)) :
    Decided (first.or second) (step >>= next) := by
  intro s
  have hrun := hstep s
  rw [runOn_bind]
  rcases hresult : step.runOn s with ⟨e | x, t⟩
  · rw [hresult] at hrun
    rw [← hrun]
    rfl
  · rw [hresult] at hrun
    rw [← hrun]
    exact hnext x t

theorem eq_ok_iff {error? : Option QueryError} {step : Build α} (h : Decided error? step)
    (s : Scope) : (∃ x t, step.runOn s = (.ok x, t)) ↔ error? = none := by
  rw [← h s]
  rcases step.runOn s with ⟨_ | x, t⟩ <;> simp [fault?]

theorem eq_error {e : QueryError} {step : Build α} (h : Decided (some e) step) (s : Scope) :
    ∃ t, step.runOn s = (.error e, t) := by
  have hs := h s
  rcases hrun : step.runOn s with ⟨e' | x, t⟩
  · rw [hrun] at hs
    exact ⟨t, by rw [Option.some.inj hs]⟩
  · rw [hrun] at hs
    cases hs

end Decided

/-- The condition decides whether the steps succeed: if it holds, they all do, and else they all
have the same error. -/
def DecidedBy (P : Prop) (step : ι → Build α) : Prop :=
  ∃ error?, (error? = none ↔ P) ∧ ∀ i, Decided error? (step i)

namespace DecidedBy

theorem congr {step : ι → Build α} (h : DecidedBy P step) (hiff : P ↔ Q) : DecidedBy Q step := by
  obtain ⟨error?, hnone, hstep⟩ := h
  exact ⟨error?, hnone.trans hiff, hstep⟩

theorem pure (x : ι → α) : DecidedBy True fun i => (Pure.pure (x i) : Build α) :=
  ⟨none, by simp, fun _ _ => rfl⟩

theorem throw (e : QueryError) : DecidedBy False fun _ : ι => (MonadExcept.throw e : Build α) :=
  ⟨some e, by simp, fun _ _ => rfl⟩

theorem ofExcept (x : Except QueryError α) :
    DecidedBy (∃ a, x = .ok a) fun _ : ι => Build.ofExcept x :=
  ⟨fault? x, by cases x <;> simp [fault?], fun _ _ => rfl⟩

theorem bindParam (field : ι → String) (value : ι → Value) :
    DecidedBy True fun i => Sql.bindParam (field i) (value i) :=
  ⟨none, by simp, fun _ _ => rfl⟩

/-- After a failure nothing else counts. -/
theorem throw_bind (e : QueryError) (next : ι → α → Build β) :
    DecidedBy False fun i => (MonadExcept.throw e : Build α) >>= next i :=
  ⟨some e, by simp, fun _ _ => rfl⟩

/-- What comes next may use the result, but not to decide. -/
theorem bind {step : ι → Build α} {next : ι → α → Build β} (hstep : DecidedBy P step)
    (hnext : DecidedBy Q fun i : ι × α => next i.1 i.2) :
    DecidedBy (P ∧ Q) fun i => step i >>= next i := by
  obtain ⟨first, hfirst, hstep⟩ := hstep
  obtain ⟨second, hsecond, hnext⟩ := hnext
  exact ⟨first.or second, by rw [Option.or_eq_none_iff, hfirst, hsecond],
    fun i => (hstep i).bind fun x => hnext (i, x)⟩

end DecidedBy

section

variable {inserted : List Schema} {root : String} {ctx : Context}
  (hctx : Context.of (.ofList inserted) root = .ok ctx)
include hctx

/-- What comes after a column may decide by the field, but not by the alias. -/
theorem DecidedBy.column (ref : FieldRef) {Q : Field → Prop} {next : ι → Column × Field → Build β}
    (hnext : ∀ field, DecidedBy (Q field) fun i : ι × Column => next i.1 (i.2, field)) :
    DecidedBy (∃ field, ctx.ResolvesTo ref field ∧ Q field) fun i =>
      Sql.column ctx ref >>= next i := by
  simp only [← exists_stored_iff hctx]
  rcases hstored : ctx.stored ref with e | ⟨owner, field⟩
  · refine ⟨some e, by simp, fun i s => ?_⟩
    obtain ⟨t, hrun⟩ := runOn_column_of_not_stored hstored s
    rw [runOn_bind, hrun]
    rfl
  · obtain ⟨error?, hnone, hdecided⟩ := hnext field
    refine ⟨error?, by simp [hnone], fun i s => ?_⟩
    rw [runOn_bind, runOn_column_of_stored hstored]
    exact hdecided (i, s.columnIn owner field) _

/-- Where the field does not matter, it only has to be stored. -/
theorem DecidedBy.resolved (ref : FieldRef) {next : ι → Column × Field → Build β}
    (hnext : ∀ field, DecidedBy Q fun i : ι × Column => next i.1 (i.2, field)) :
    DecidedBy (ctx.Resolves ref ∧ Q) fun i => Sql.column ctx ref >>= next i :=
  (DecidedBy.column hctx ref hnext).congr exists_and_right

theorem decidedBy_compareValue (ref : FieldRef) (op : CompareOp) (value : Value) :
    DecidedBy (ctx.Resolves ref ∧ (value = .null → op = .eq ∨ op = .ne)) fun negated =>
      compareValue ctx negated ref op value := by
  refine DecidedBy.resolved hctx ref fun field => ?_
  by_cases hnull : value = .null
  · subst hnull
    cases op with
    | eq | ne => exact (DecidedBy.pure _).congr (by simp)
    | lt | le | gt | ge => exact (DecidedBy.throw _).congr (by simp)
  · have hvalue : value.isNull = false := Bool.eq_false_iff.2 (mt Value.isNull_iff.1 hnull)
    simp only [hvalue, Bool.false_eq_true, if_false]
    exact ((DecidedBy.bindParam _ _).bind (.pure _)).congr (by simp [hnull])

theorem decidedBy_compareFields (op : CompareOp) (left right : FieldRef) :
    DecidedBy (ctx.Resolves left ∧ ctx.Resolves right) fun negated =>
      compareFields ctx negated op left right := by
  refine DecidedBy.resolved hctx left fun _ => ?_
  exact (DecidedBy.resolved hctx right fun _ => .pure _).congr (by simp)

theorem decidedBy_truthTest (ref : FieldRef) :
    DecidedBy (∃ field, ctx.ResolvesTo ref field ∧ field.type = .bool) fun negated =>
      truthTest ctx negated ref := by
  refine DecidedBy.column hctx ref fun field => ?_
  by_cases htype : field.type = .bool
  · simp only [htype, ne_eq, not_true_eq_false, if_false]
    exact ((DecidedBy.bindParam _ _).bind (.pure _)).congr (by simp)
  · simp only [htype, ne_eq, not_false_eq_true, if_true]
    exact (DecidedBy.throw_bind _ _).congr (by simp)

theorem decidedBy_membership (values : List Value) (ref : FieldRef) :
    DecidedBy (ctx.Resolves ref ∧ ∀ value ∈ values, CanBeMember value) fun negated =>
      membership ctx negated values ref := by
  have hmembers : (∃ items, memberTexts values = .ok items) ↔
      ∀ value ∈ values, CanBeMember value := by
    rcases memberTexts_error_or_ok values with ⟨value, hmem, hnot, herror⟩ | ⟨hall, items, hok, -⟩
    · exact iff_of_false (by simp [herror]) fun hall => hnot (hall value hmem)
    · exact iff_of_true ⟨items, hok⟩ hall
  refine DecidedBy.resolved hctx ref fun field => ?_
  dsimp only
  refine ((DecidedBy.ofExcept _).bind ((DecidedBy.bindParam _ _).bind (.pure _))).congr ?_
  rw [hmembers, and_self, and_true]

theorem decidedBy_patternTest (ref : FieldRef) (pattern : String) :
    DecidedBy (ctx.Resolves ref) fun negated => patternTest ctx negated ref pattern := by
  refine (DecidedBy.resolved hctx ref fun _ => (DecidedBy.bindParam _ _).bind (.pure _)).congr ?_
  simp

theorem decidedBy_missingTest (ref : FieldRef) :
    DecidedBy (ctx.Resolves ref) fun negated => missingTest ctx negated ref :=
  (DecidedBy.resolved hctx ref fun _ => .pure _).congr (by simp)

theorem decidedBy_compareExprs (op : CompareOp) (lhs rhs : Expr) :
    DecidedBy (Expressible ctx (.compare op lhs rhs)) fun negated =>
      compareExprs ctx negated op lhs rhs := by
  cases lhs, rhs using compareExprs.fun_cases with
  | case1 ref value =>
      refine (decidedBy_compareValue hctx ref op value).congr ?_
      exact ⟨fun h => .fieldValue h.1 h.2, fun h => by cases h; exact ⟨‹_›, ‹_›⟩⟩
  | case2 value ref =>
      refine (decidedBy_compareValue hctx ref op.swapped value).congr ?_
      have hequality : op.swapped = .eq ∨ op.swapped = .ne ↔ op = .eq ∨ op = .ne := by
        cases op <;> simp [CompareOp.swapped]
      rw [hequality]
      exact ⟨fun h => .valueField h.1 h.2, fun h => by cases h; exact ⟨‹_›, ‹_›⟩⟩
  | case3 left right =>
      refine (decidedBy_compareFields hctx op left right).congr ?_
      exact ⟨fun h => .fields h.1 h.2, fun h => by cases h; exact ⟨‹_›, ‹_›⟩⟩
  | case4 value value' => exact (DecidedBy.throw _).congr (iff_of_false id fun h => by cases h)
  | case5 lhs rhs h₁ h₂ h₃ h₄ =>
      simp only [compareExprs.eq_5 ctx _ op lhs rhs h₁ h₂ h₃ h₄]
      refine (DecidedBy.throw _).congr (iff_of_false id fun h => ?_)
      cases h with
      | fieldValue => exact h₁ _ _ rfl rfl
      | valueField => exact h₂ _ _ rfl rfl
      | fields => exact h₃ _ _ rfl rfl

theorem decidedBy_callTest (method : Method) (target : Expr) (args : List Expr) :
    DecidedBy (Expressible ctx (.call method target args)) fun negated =>
      callTest ctx negated method target args := by
  cases method, target, args using callTest.fun_cases with
  | case1 values ref | case2 values ref =>
      refine (decidedBy_membership hctx values ref).congr ?_
      exact ⟨fun h => .member (by simp) h.1 h.2, fun h => by cases h <;> simp_all⟩
  | case3 ref s | case4 ref s | case5 ref s =>
      refine (decidedBy_patternTest hctx ref _).congr ?_
      exact ⟨fun h => .pattern (by simp) h, fun h => by cases h; assumption⟩
  | case6 ref | case7 ref =>
      refine (decidedBy_missingTest hctx ref).congr ?_
      exact ⟨fun h => .missing (by simp) h, fun h => by cases h; assumption⟩
  | case8 target ref | case9 target ref =>
      simp only [callTest.eq_8, callTest.eq_9]
      refine (decidedBy_missingTest hctx ref).congr ?_
      exact ⟨fun h => .missingArgument (by simp) h, fun h => by cases h <;> simp_all⟩
  | case10 target args method h₁ h₂ h₃ h₄ h₅ h₆ h₇ h₈ h₉ =>
      simp only [callTest.eq_10 ctx _ method target args h₁ h₂ h₃ h₄ h₅ h₆ h₇ h₈ h₉]
      refine (DecidedBy.throw _).congr (iff_of_false id fun h => ?_)
      cases h with
      | member hmethod => exact hmethod.elim (h₃ _ _ · rfl rfl) (h₄ _ _ · rfl rfl)
      | pattern hmethod =>
          exact hmethod.elim (h₅ _ _ · rfl rfl) (·.elim (h₆ _ _ · rfl rfl) (h₇ _ _ · rfl rfl))
      | missing hmethod => exact hmethod.elim (h₈ _ · rfl rfl) (h₉ _ · rfl rfl)
      | missingArgument hmethod => exact hmethod.elim (h₁ _ · rfl) (h₂ _ · rfl)

/-- Whether a leaf is accepted, and else its error, has nothing to do with the scope and with
negations. -/
theorem decidedBy_leafTest (leaf : Expr) :
    DecidedBy (Expressible ctx leaf) fun negated => leafTest ctx negated leaf := by
  cases leaf using leafTest.fun_cases with
  | case1 op lhs rhs => exact decidedBy_compareExprs hctx op lhs rhs
  | case2 ref =>
      refine (decidedBy_truthTest hctx ref).congr ?_
      exact ⟨fun ⟨_, hstored, htype⟩ => .truth hstored htype,
        fun h => by cases h; exact ⟨_, ‹_›, ‹_›⟩⟩
  | case3 b => exact (DecidedBy.pure _).congr (iff_of_true trivial (.constant b))
  | case4 method target args => exact decidedBy_callTest hctx method target args
  | case5 _ h₁ h₂ h₃ h₄ =>
      simp only [leafTest.eq_5 ctx _ leaf h₁ h₂ h₃ h₄]
      refine (DecidedBy.throw _).congr (iff_of_false id fun h => ?_)
      cases h with
      | fieldValue | valueField | fields => exact h₁ _ _ _ rfl
      | truth => exact h₂ _ rfl
      | constant => exact h₃ _ rfl
      | member | pattern | missing | missingArgument => exact h₄ _ _ _ rfl

end

/-- The error of a predicate is that of the first of its leaves that has one. -/
theorem Decided.chainOf {ctx : Context} {error? : Expr → Option QueryError}
    (hleaf : ∀ leaf negated, Decided (error? leaf) (leafTest ctx negated leaf))
    (connective : Connective) (negated : Bool) (e : Expr) :
    Decided (e.leaves.findSome? error?) (Sql.chainOf ctx connective negated e) := by
  induction e using Expr.connectiveInduction generalizing connective negated with
  | and lhs rhs ihl ihr | or lhs rhs ihl ihr =>
      rw [Expr.leaves, List.findSome?_append, ← Option.or_none (o := List.findSome? _ rhs.leaves)]
      exact (ihl _ _).bind fun _ => (ihr _ _).bind fun _ => .pure _
  | not e ih => exact ih connective (!negated)
  | leaf e hleafE =>
      rw [chainOf_of_isLeaf hleafE, Expr.leaves_of_isLeaf hleafE, List.findSome?_singleton,
        ← Option.or_none (o := error? e)]
      exact (hleaf e negated).bind fun _ => .pure _

/-- What follows the chain of a predicate never fails. -/
theorem Decided.wherePiece {ctx : Context} {error? : Expr → Option QueryError}
    (hleaf : ∀ leaf negated, Decided (error? leaf) (leafTest ctx negated leaf)) (e : Expr) :
    Decided (e.leaves.findSome? error?) (Sql.wherePiece ctx e) := by
  rw [← Option.or_none (o := e.leaves.findSome? error?)]
  exact (Decided.chainOf hleaf .and false e).bind fun _ _ => rfl

end Build

/-- A predicate that is refused does not open the WHERE part. -/
theorem whereOpen_of_wherePiece_error {ctx : Context} {e : Expr} {error : QueryError}
    {s t : Scope} (h : (wherePiece ctx e).runOn s = (.error error, t)) :
    t.whereOpen = s.whereOpen :=
  ((Build.Opens.wherePiece ctx e).extends_of_error h).flags.whereOpen

/-- A WHERE part accepts the predicates whose leaves can all be expressed. Any other predicate is
refused with the error of its first leaf that cannot: the one which that leaf has alone and under
any negations, in whatever statement. The WHERE part is not opened by it. -/
theorem wherePiece_accepts_grammar {inserted : List Schema} {root : String} {ctx : Context}
    (hctx : Context.of (.ofList inserted) root = .ok ctx) (e : Expr) (s : Scope) :
    ((∃ piece t, (wherePiece ctx e).runOn s = (.ok piece, t)) ↔
      ∀ leaf ∈ e.leaves, Expressible ctx leaf) ∧
    ∀ before leaf after, e.leaves = before ++ leaf :: after →
      (∀ earlier ∈ before, Expressible ctx earlier) → ¬ Expressible ctx leaf →
      ∃ error t, (wherePiece ctx e).runOn s = (.error error, t) ∧ t.whereOpen = s.whereOpen ∧
        ∀ (negations : ℕ) (s' : Scope),
          ∃ t', (wherePiece ctx (Expr.not^[negations] leaf)).runOn s' = (.error error, t') := by
  choose error? hnone hleaf using Build.decidedBy_leafTest hctx
  have hdecided (e : Expr) : Build.Decided (e.leaves.findSome? error?) (wherePiece ctx e) :=
    .wherePiece (fun leaf negated => hleaf leaf negated) e
  constructor
  · rw [(hdecided e).eq_ok_iff, List.findSome?_eq_none_iff]
    simp only [hnone]
  · intro before leaf after hleaves hbefore hrefused
    obtain ⟨error, herror⟩ := Option.ne_none_iff_exists'.1 (mt (hnone leaf).1 hrefused)
    have hfirst : e.leaves.findSome? error? = some error := by
      rw [hleaves, List.findSome?_append,
        List.findSome?_eq_none_iff.2 fun earlier hmem => (hnone earlier).2 (hbefore earlier hmem)]
      simp [herror]
    obtain ⟨t, hrun⟩ := (hfirst ▸ hdecided e).eq_error s
    refine ⟨error, t, hrun, whereOpen_of_wherePiece_error hrun, fun negations s' => ?_⟩
    have hsingle : (Expr.not^[negations] leaf).leaves = [leaf] := by
      rw [Expr.leaves_iterate_not, Expr.leaves_of_isLeaf (Expr.isLeaf_of_mem_leaves (e := e) ?_)]
      simp [hleaves]
    have halone : (Expr.not^[negations] leaf).leaves.findSome? error? = some error := by
      rw [hsingle, List.findSome?_singleton, herror]
    exact (halone ▸ hdecided _).eq_error s'

/-- A test of the age of a user, written with the age first. -/
def sampleAgeTest (op : CompareOp) (age : Value) : Expr :=
  .compare op (.literal age) (.field ⟨some "User", "Age"⟩)

/-- Of a comparison with null and a text field as a truth value, the comparison comes first. -/
theorem wherePiece_accepts_grammar_sample :
    (∃ piece t, (wherePiece ⟨sampleUsers, sampleUser⟩
        (.not (.and (sampleAgeTest .le (.int32 18)) (.not (sampleMemberCall [.text "a"]))))).runOn
      (.ofTable "users") = (.ok piece, t)) ∧
    ∃ t, (wherePiece ⟨sampleUsers, sampleUser⟩
        (.or (sampleAgeTest .le (.int32 18))
          (.not (.and (sampleAgeTest .lt .null) (.field ⟨none, "Name"⟩))))).runOn
      (.ofTable "users") = (.error (.compile (.nullComparison .gt)), t) ∧ t.whereOpen = false := by
  have hctx : Context.of (.ofList [sampleUser]) "User" = .ok ⟨sampleUsers, sampleUser⟩ := by rfl
  have hname : Context.Resolves ⟨sampleUsers, sampleUser⟩ ⟨none, "Name"⟩ :=
    ⟨⟨"Name", "name", .text, false, false, none⟩, sampleUser, by rfl, by rfl, rfl⟩
  have hage : Context.Resolves ⟨sampleUsers, sampleUser⟩ ⟨some "User", "Age"⟩ :=
    ⟨⟨"Age", "age", .int32, false, false, none⟩, sampleUser, by rfl, by rfl, rfl⟩
  have hadult : Expressible ⟨sampleUsers, sampleUser⟩ (sampleAgeTest .le (.int32 18)) :=
    .valueField hage (by simp)
  constructor
  · refine ((wherePiece_accepts_grammar hctx _ _).1).2 fun leaf hmem => ?_
    have hleaf : leaf = sampleAgeTest .le (.int32 18) ∨ leaf = sampleMemberCall [.text "a"] := by
      simpa [Expr.leaves, sampleAgeTest, sampleMemberCall] using hmem
    rcases hleaf with rfl | rfl
    · exact hadult
    · refine .member (.inr rfl) hname fun value hvalue => ?_
      rw [List.mem_singleton.1 hvalue]
      exact ⟨"a", rfl, by decide⟩
  · have hrefused : ¬ Expressible ⟨sampleUsers, sampleUser⟩ (sampleAgeTest .lt .null) := by
      rintro ⟨⟩
      simp_all
    obtain ⟨error, t, hrun, hopen, halone⟩ :=
      (wherePiece_accepts_grammar hctx
        (.or (sampleAgeTest .le (.int32 18))
          (.not (.and (sampleAgeTest .lt .null) (.field ⟨none, "Name"⟩)))) (.ofTable "users")).2
        [sampleAgeTest .le (.int32 18)] (sampleAgeTest .lt .null) [.field ⟨none, "Name"⟩] rfl
        (by simpa using hadult) hrefused
    obtain ⟨t', hleaf⟩ := halone 0 (.ofTable "users")
    have herror : error = .compile (.nullComparison .gt) := by
      cases hleaf
      rfl
    exact ⟨t, herror ▸ hrun, hopen⟩

end Sql

end EntityQuery
