import EntityQuery.Proofs.Sql.Meaning

/-!
# Regrouped predicates

The chain of a predicate is flat, so it does not show how the connectives of the tree were grouped,
nor that something was negated twice. Predicates that differ in this only are made into the same
piece, with the same effects on the scope or the same error.
-/
namespace EntityQuery

namespace Expr

/-- Two operands under a connective. -/
def connect : Sql.Connective → Expr → Expr → Expr
  | .and => .and
  | .or => .or

/-- The predicates differ in the grouping of connectives, whichever they are, and in double
negations. -/
inductive Regrouped : Expr → Expr → Prop
  | refl (e : Expr) : Regrouped e e
  | symm {e f : Expr} : Regrouped e f → Regrouped f e
  | trans {e f g : Expr} : Regrouped e f → Regrouped f g → Regrouped e g
  | connect (op : Sql.Connective) {lhs lhs' rhs rhs' : Expr} :
      Regrouped lhs lhs' → Regrouped rhs rhs' →
        Regrouped (.connect op lhs rhs) (.connect op lhs' rhs')
  | not {e f : Expr} : Regrouped e f → Regrouped (.not e) (.not f)
  | rotate (op op' : Sql.Connective) (left middle right : Expr) :
      Regrouped (.connect op' (.connect op left middle) right)
        (.connect op left (.connect op' middle right))
  | notNot (e : Expr) : Regrouped (.not (.not e)) e

/-- Operands behind a first one, grouped to the left. -/
def leftDeep (first : Expr) (rest : List (Sql.Connective × Expr)) : Expr :=
  rest.foldl (fun e operand => .connect operand.1 e operand.2) first

/-- Operands behind a first one, grouped to the right. -/
def rightDeep (first : Expr) : List (Sql.Connective × Expr) → Expr
  | [] => first
  | (op, next) :: rest => .connect op first (rightDeep next rest)

/-- An operand can be taken out of the first one. -/
theorem regrouped_rightDeep_connect (op : Sql.Connective) (first next : Expr)
    (rest : List (Sql.Connective × Expr)) :
    Regrouped (rightDeep (.connect op first next) rest) (.connect op first (rightDeep next rest)) := by
  cases rest with
  | nil => exact .refl _
  | cons operand rest => exact .rotate op operand.1 first next (rightDeep operand.2 rest)

theorem regrouped_leftDeep_rightDeep (first : Expr) (rest : List (Sql.Connective × Expr)) :
    Regrouped (leftDeep first rest) (rightDeep first rest) := by
  -- The first operand grows as the fold goes on, so it is general.
  induction rest generalizing first with
  | nil => exact .refl first
  | cons operand rest ih =>
      obtain ⟨op, next⟩ := operand
      exact (ih (.connect op first next)).trans (regrouped_rightDeep_connect op first next rest)

end Expr

namespace Sql

/-- Both connectives make their chains alike. -/
theorem chainOf_connect (ctx : Context) (connective : Connective) (negated : Bool)
    (op : Connective) (lhs rhs : Expr) :
    chainOf ctx connective negated (.connect op lhs rhs) = do
      let left ← chainOf ctx (innerConnective connective negated) false lhs
      let right ← chainOf ctx op false rhs
      return joinChains connective negated left right := by
  cases op <;> rfl

/-- The second of three operands stands between the others, whether it was grouped with the first or
with the last; also inside a negation, which closes all three. -/
theorem chainOf_rotate (ctx : Context) (connective : Connective) (negated : Bool)
    (op op' : Connective) (left middle right : Expr) :
    chainOf ctx connective negated (.connect op' (.connect op left middle) right) =
      chainOf ctx connective negated (.connect op left (.connect op' middle right)) := by
  have hinner (c : Connective) : innerConnective c false = c := rfl
  have hopen (c : Connective) (chain chain' : Chain) :
      joinChains c false chain chain' = chain ++ chain' := rfl
  have hjoin (first second third : Chain) :
      joinChains connective negated (first ++ second) third =
        joinChains connective negated first (second ++ third) := by
    simp only [joinChains, List.append_assoc]
  simp only [chainOf_connect, hinner, hopen, hjoin, bind_assoc, pure_bind]

/-- Regrouped predicates have the same chain, in every place and under every negation. -/
theorem chainOf_eq_of_regrouped {e e' : Expr} (h : e.Regrouped e') (ctx : Context)
    (connective : Connective) (negated : Bool) :
    chainOf ctx connective negated e = chainOf ctx connective negated e' := by
  induction h generalizing connective negated with
  | refl e => rfl
  | symm _ ih => exact (ih connective negated).symm
  | trans _ _ ih ih' => exact (ih connective negated).trans (ih' connective negated)
  | connect op _ _ ihl ihr => rw [chainOf_connect, chainOf_connect, ihl, ihr]
  | not _ ih => exact ih connective (!negated)
  | rotate op op' left middle right => exact chainOf_rotate ctx connective negated op op' _ _ _
  | notNot e =>
      have htwice : chainOf ctx connective negated (.not (.not e)) =
          chainOf ctx connective (!!negated) e := rfl
      rw [htwice, Bool.not_not]

/-- Regrouping is invisible: regrouped predicates have the same piece or the same error, and leave
the same scope behind. In particular, predicates that are grouped to the left are compiled like
those that are grouped to the right. -/
theorem wherePiece_eq_of_regrouped :
    (∀ (e e' : Expr), e.Regrouped e' → ∀ (ctx : Context) (scope : Scope),
      (wherePiece ctx e).runOn scope = (wherePiece ctx e').runOn scope) ∧
    ∀ (first : Expr) (rest : List (Connective × Expr)) (ctx : Context) (scope : Scope),
      (wherePiece ctx (first.leftDeep rest)).runOn scope =
        (wherePiece ctx (first.rightDeep rest)).runOn scope := by
  have hpiece (e e' : Expr) (h : e.Regrouped e') (ctx : Context) :
      wherePiece ctx e = wherePiece ctx e' := by
    unfold wherePiece
    rw [chainOf_eq_of_regrouped h ctx]
  constructor
  · intro e e' h ctx scope
    rw [hpiece e e' h ctx]
  · intro first rest ctx scope
    rw [hpiece _ _ (Expr.regrouped_leftDeep_rightDeep first rest) ctx]

/-- A sample predicate: paid, with a number above seven, or of customer four. -/
def sampleMixed : Expr :=
  .or (.and (.field ⟨none, "Paid"⟩) (.compare .gt (.field ⟨none, "Id"⟩) (.literal (.int32 7))))
    (.compare .eq (.field ⟨none, "Customer"⟩) (.literal (.int32 4)))

/-- The same under two negations, and with the disjunction inside the conjunction. -/
def sampleMixedRegrouped : Expr :=
  .not (.not (.and (.field ⟨none, "Paid"⟩)
    (.or (.compare .gt (.field ⟨none, "Id"⟩) (.literal (.int32 7)))
      (.compare .eq (.field ⟨none, "Customer"⟩) (.literal (.int32 4))))))

theorem wherePiece_eq_of_regrouped_sample :
    ((wherePiece sampleContext sampleMixed).runOn sampleContext.scope).1.isOk = true ∧
      sampleMixed.Regrouped sampleMixedRegrouped ∧
      (wherePiece sampleContext sampleMixed).runOn sampleContext.scope =
        (wherePiece sampleContext sampleMixedRegrouped).runOn sampleContext.scope := by
  have hregrouped : sampleMixed.Regrouped sampleMixedRegrouped :=
    (Expr.Regrouped.rotate .and .or _ _ _).trans (Expr.Regrouped.notNot _).symm
  exact ⟨by decide +kernel, hregrouped,
    wherePiece_eq_of_regrouped.1 _ _ hregrouped sampleContext sampleContext.scope⟩

end Sql

end EntityQuery
