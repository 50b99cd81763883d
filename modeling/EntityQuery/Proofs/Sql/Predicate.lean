import EntityQuery.Proofs.Sql.ChainReading
import EntityQuery.Proofs.Sql.Growth

/-!
# Chains of predicates

A predicate is a tree of connectives over leaves. Its chain is flat: the connectives of the tree
stand between the siblings, unless a negation closes them. What the chain looks like is known from
the predicate alone, without running the construction.
-/
namespace EntityQuery

namespace Expr

/-- Neither a connective nor a negation. -/
def isLeaf : Expr → Bool
  | .and .. | .or .. | .not _ => false
  | _ => true

/-- The leaves of a predicate, from left to right. -/
def leaves : Expr → List Expr
  | .and lhs rhs => lhs.leaves ++ rhs.leaves
  | .or lhs rhs => lhs.leaves ++ rhs.leaves
  | .not e => e.leaves
  | e => [e]

/-- Whether the chain of a predicate has an OR between two siblings. A negated connective is closed
to a single sibling, and two negations cancel out. -/
def hasOr (negated : Bool) : Expr → Bool
  | .and lhs rhs => !negated && (lhs.hasOr false || rhs.hasOr false)
  | .or .. => !negated
  | .not e => e.hasOr (!negated)
  | _ => false

/-- No conjunction, however deep, has an operand whose chain has an OR. Then the flat chain groups
as the tree does. -/
def AndClosed : Expr → Prop
  | .and lhs rhs =>
      lhs.hasOr false = false ∧ rhs.hasOr false = false ∧ lhs.AndClosed ∧ rhs.AndClosed
  | .or lhs rhs => lhs.AndClosed ∧ rhs.AndClosed
  | .not e => e.AndClosed
  | _ => True

/-- Induction over the connectives of a predicate. -/
@[elab_as_elim]
theorem connectiveInduction {P : Expr → Prop}
    (and : ∀ lhs rhs, P lhs → P rhs → P (.and lhs rhs))
    (or : ∀ lhs rhs, P lhs → P rhs → P (.or lhs rhs))
    (not : ∀ e, P e → P (.not e))
    (leaf : ∀ e, e.isLeaf = true → P e) : ∀ e, P e
  | .and lhs rhs =>
      and lhs rhs (connectiveInduction and or not leaf lhs)
        (connectiveInduction and or not leaf rhs)
  | .or lhs rhs =>
      or lhs rhs (connectiveInduction and or not leaf lhs)
        (connectiveInduction and or not leaf rhs)
  | .not e => not e (connectiveInduction and or not leaf e)
  | .field _ | .literal _ | .list _ | .fields _ | .compare .. | .call .. | .assign _ | .all =>
      leaf _ rfl

theorem leaves_of_isLeaf {e : Expr} (h : e.isLeaf = true) : e.leaves = [e] := by
  cases e <;> first | rfl | cases h

theorem hasOr_of_isLeaf {e : Expr} (h : e.isLeaf = true) (negated : Bool) :
    e.hasOr negated = false := by
  cases e <;> first | rfl | cases h

end Expr

namespace Sql

theorem chainOf_of_isLeaf {e : Expr} (h : e.isLeaf = true) (ctx : Context)
    (connective : Connective) (negated : Bool) :
    chainOf ctx connective negated e = do
      let test ← leafTest ctx negated e
      return [(connective, .test test)] := by
  cases e <;> first | rfl | cases h

/-- The chains of the operands of a connective, and the chain of the whole. -/
theorem chainOf_operands_ok {ctx : Context} {connective inner : Connective} {negated : Bool}
    {lhs rhs : Expr} {s t : Scope} {chain : Chain}
    (h : (do
      let left ← chainOf ctx (innerConnective connective negated) false lhs
      let right ← chainOf ctx inner false rhs
      return joinChains connective negated left right : Build Chain).runOn s = (.ok chain, t)) :
    ∃ left right u,
      (chainOf ctx (innerConnective connective negated) false lhs).runOn s = (.ok left, u) ∧
      (chainOf ctx inner false rhs).runOn u = (.ok right, t) ∧
      chain = joinChains connective negated left right := by
  obtain ⟨left, u, hleft, h⟩ := Build.runOn_bind_eq_ok.1 h
  obtain ⟨right, v, hright, h⟩ := Build.runOn_bind_eq_ok.1 h
  cases h
  exact ⟨left, right, u, hleft, hright, rfl⟩

/-- The chain of a leaf is its test. -/
theorem chainOf_leaf_ok {ctx : Context} {connective : Connective} {negated : Bool} {e : Expr}
    (hleaf : e.isLeaf = true) {s t : Scope} {chain : Chain}
    (h : (chainOf ctx connective negated e).runOn s = (.ok chain, t)) :
    ∃ test, (leafTest ctx negated e).runOn s = (.ok test, t) ∧
      chain = [(connective, .test test)] := by
  rw [chainOf_of_isLeaf hleaf] at h
  obtain ⟨test, u, htest, h⟩ := Build.runOn_bind_eq_ok.1 h
  cases h
  exact ⟨test, htest, rfl⟩

/-- A chain that starts with a connective, has no empty chain inside, and has an OR or not. -/
structure ChainShape (connective : Connective) (orInside : Bool) (chain : Chain) : Prop where
  starts : ∃ condition rest, chain = (connective, condition) :: rest
  filled : ∀ sibling ∈ chain, sibling.2.Filled
  hasOr_eq : hasOr chain = orInside

namespace ChainShape

variable {connective inner : Connective} {orLeft orRight orInside : Bool} {left right chain : Chain}

theorem ne_nil (h : ChainShape connective orInside chain) : chain ≠ [] := by
  obtain ⟨condition, rest, rfl⟩ := h.starts
  simp

theorem chainFilled (h : ChainShape connective orInside chain) : ChainFilled chain :=
  ⟨h.ne_nil, h.filled⟩

theorem single {condition : Condition} (h : condition.Filled) :
    ChainShape connective false [(connective, condition)] :=
  ⟨⟨condition, [], rfl⟩, by simpa using h, rfl⟩

theorem append (hl : ChainShape connective orLeft left) (hr : ChainShape inner orRight right) :
    ChainShape connective (orLeft || (decide (inner = .or) || orRight)) (left ++ right) := by
  obtain ⟨first, rest, rfl⟩ := hl.starts
  obtain ⟨second, more, rfl⟩ := hr.starts
  refine ⟨⟨first, rest ++ (inner, second) :: more, rfl⟩, ?_, ?_⟩
  · intro sibling hmem
    rcases List.mem_append.1 hmem with hmem | hmem
    · exact hl.filled sibling hmem
    · exact hr.filled sibling hmem
  · have hleft := hl.hasOr_eq
    have hright := hr.hasOr_eq
    simp only [hasOr, List.drop_succ_cons, List.drop_zero] at hleft hright
    simp [hasOr, hleft, hright]

/-- The chains of two operands joined; a negation closes them. -/
theorem join {negated : Bool} (hl : ChainShape (innerConnective connective negated) orLeft left)
    (hr : ChainShape inner orRight right) :
    ChainShape connective (!negated && (orLeft || (decide (inner = .or) || orRight)))
      (joinChains connective negated left right) := by
  cases negated with
  | false => exact hl.append hr
  | true =>
      have happend := hl.append hr
      exact single (.negation happend.ne_nil happend.filled)

end ChainShape

/-- The shape of the chain of a predicate. -/
theorem chainOf_shape {ctx : Context} {connective : Connective} {negated : Bool} {e : Expr}
    {s t : Scope} {chain : Chain}
    (h : (chainOf ctx connective negated e).runOn s = (.ok chain, t)) :
    ChainShape connective (e.hasOr negated) chain := by
  induction e using Expr.connectiveInduction generalizing connective negated s t chain with
  | and lhs rhs ihl ihr =>
      obtain ⟨left, right, u, hleft, hright, rfl⟩ := chainOf_operands_ok h
      simpa [Expr.hasOr] using (ihl hleft).join (ihr hright)
  | or lhs rhs ihl ihr =>
      obtain ⟨left, right, u, hleft, hright, rfl⟩ := chainOf_operands_ok h
      simpa [Expr.hasOr] using (ihl hleft).join (ihr hright)
  | not e ih => exact ih h
  | leaf e hleaf =>
      obtain ⟨test, _, rfl⟩ := chainOf_leaf_ok hleaf h
      rw [Expr.hasOr_of_isLeaf hleaf]
      exact .single (.test test)

namespace Build

section Keeps

variable {R : Scope → Scope → Prop} {ctx : Context} [KeptByUses ctx R]

theorem Keeps.compareValue (negated : Bool) (ref : FieldRef) (op : CompareOp) (value : Value) :
    Keeps R (Sql.compareValue ctx negated ref op value) := by
  refine .bind (KeptByUses.column ref) fun ⟨lhs, field⟩ => ?_
  dsimp only
  split
  · cases op with
    | eq | ne => exact .pure _
    | lt | le | gt | ge => exact .throw _
  · exact .bind (KeptByUses.bindParam ctx _ _) fun _ => .pure _

theorem Keeps.compareFields (negated : Bool) (op : CompareOp) (left right : FieldRef) :
    Keeps R (Sql.compareFields ctx negated op left right) :=
  .bind (KeptByUses.column left) fun _ => .bind (KeptByUses.column right) fun _ => .pure _

theorem Keeps.truthTest (negated : Bool) (ref : FieldRef) :
    Keeps R (Sql.truthTest ctx negated ref) := by
  refine .bind (KeptByUses.column ref) fun ⟨lhs, field⟩ => ?_
  have hrest : Keeps R (do
      let name ← Sql.bindParam field.column (.int32 (if negated then 0 else 1))
      return Test.compare lhs .eq (.parameter name)) :=
    .bind (KeptByUses.bindParam ctx _ _) fun _ => .pure _
  dsimp only
  split
  · exact .bind (.throw _) fun _ => hrest
  · exact hrest

theorem Keeps.membership (negated : Bool) (values : List Value) (ref : FieldRef) :
    Keeps R (Sql.membership ctx negated values ref) :=
  .bind (KeptByUses.column ref) fun _ => .bind (.ofExcept _) fun _ =>
    .bind (KeptByUses.bindParam ctx _ _) fun _ => .pure _

theorem Keeps.patternTest (negated : Bool) (ref : FieldRef) (pattern : String) :
    Keeps R (Sql.patternTest ctx negated ref pattern) :=
  .bind (KeptByUses.column ref) fun _ => .bind (KeptByUses.bindParam ctx _ _) fun _ => .pure _

theorem Keeps.missingTest (negated : Bool) (ref : FieldRef) :
    Keeps R (Sql.missingTest ctx negated ref) :=
  .bind (KeptByUses.column ref) fun _ => .pure _

/-- The test of a leaf keeps what its columns and values keep. -/
theorem Keeps.leafTest (negated : Bool) (e : Expr) :
    Keeps R (Sql.leafTest ctx negated e) := by
  unfold Sql.leafTest
  split
  · unfold compareExprs
    split
    · exact .compareValue _ _ _ _
    · exact .compareValue _ _ _ _
    · exact .compareFields _ _ _ _
    · exact .throw _
    · exact .throw _
  · exact .truthTest _ _
  · exact .pure _
  · unfold callTest
    split
    · exact .membership _ _ _
    · exact .membership _ _ _
    · exact .patternTest _ _ _
    · exact .patternTest _ _ _
    · exact .patternTest _ _ _
    · exact .missingTest _ _
    · exact .missingTest _ _
    · exact .missingTest _ _
    · exact .missingTest _ _
    · exact .throw _
  · exact .throw _

end Keeps

/-- Making a chain keeps what making the tests of its leaves keeps. -/
theorem Keeps.chainOf {R : Scope → Scope → Prop} [IsPreorder Scope R] {ctx : Context} {e : Expr}
    (h : ∀ leaf ∈ e.leaves, ∀ negated, Keeps R (Sql.leafTest ctx negated leaf))
    (connective : Connective) (negated : Bool) :
    Keeps R (Sql.chainOf ctx connective negated e) := by
  induction e using Expr.connectiveInduction generalizing connective negated with
  | and lhs rhs ihl ihr =>
      exact .bind (ihl (fun leaf hmem => h leaf (List.mem_append_left _ hmem)) _ _) fun _ =>
        .bind (ihr (fun leaf hmem => h leaf (List.mem_append_right _ hmem)) _ _) fun _ => .pure _
  | or lhs rhs ihl ihr =>
      exact .bind (ihl (fun leaf hmem => h leaf (List.mem_append_left _ hmem)) _ _) fun _ =>
        .bind (ihr (fun leaf hmem => h leaf (List.mem_append_right _ hmem)) _ _) fun _ => .pure _
  | not e ih => exact ih h connective (!negated)
  | leaf e hleaf =>
      rw [chainOf_of_isLeaf hleaf]
      exact .bind (h e (by simp [Expr.leaves_of_isLeaf hleaf]) negated) fun _ => .pure _

/-- Making a chain succeeds if the tests of all its leaves do. -/
theorem SucceedsOn.chainOf {P : Scope → Prop} {ctx : Context} {e : Expr}
    (h : ∀ leaf ∈ e.leaves, ∀ negated, SucceedsOn P (Sql.leafTest ctx negated leaf))
    (connective : Connective) (negated : Bool) :
    SucceedsOn P (Sql.chainOf ctx connective negated e) := by
  induction e using Expr.connectiveInduction generalizing connective negated with
  | and lhs rhs ihl ihr =>
      exact .bind (ihl (fun leaf hmem => h leaf (List.mem_append_left _ hmem)) _ _) fun _ =>
        .bind (ihr (fun leaf hmem => h leaf (List.mem_append_right _ hmem)) _ _) fun _ => .pure _
  | or lhs rhs ihl ihr =>
      exact .bind (ihl (fun leaf hmem => h leaf (List.mem_append_left _ hmem)) _ _) fun _ =>
        .bind (ihr (fun leaf hmem => h leaf (List.mem_append_right _ hmem)) _ _) fun _ => .pure _
  | not e ih => exact ih h connective (!negated)
  | leaf e hleaf =>
      rw [chainOf_of_isLeaf hleaf]
      exact .bind (h e (by simp [Expr.leaves_of_isLeaf hleaf]) negated) fun _ => .pure _

/-- It fails if the tests of one leaf do. -/
theorem Fails.chainOf {ctx : Context} {e leaf : Expr} (hmem : leaf ∈ e.leaves)
    (h : ∀ negated, (Sql.leafTest ctx negated leaf).Fails) (connective : Connective)
    (negated : Bool) : (Sql.chainOf ctx connective negated e).Fails := by
  induction e using Expr.connectiveInduction generalizing connective negated with
  | and lhs rhs ihl ihr =>
      rcases List.mem_append.1 hmem with hmem | hmem
      · exact (ihl hmem _ _).bind _
      · exact .of_next (fun _ => (ihr hmem _ _).bind _) _
  | or lhs rhs ihl ihr =>
      rcases List.mem_append.1 hmem with hmem | hmem
      · exact (ihl hmem _ _).bind _
      · exact .of_next (fun _ => (ihr hmem _ _).bind _) _
  | not e ih => exact ih hmem connective (!negated)
  | leaf e hleaf =>
      obtain rfl : leaf = e := by simpa [Expr.leaves_of_isLeaf hleaf] using hmem
      rw [chainOf_of_isLeaf hleaf]
      exact (h negated).bind _

end Build

/-- Making a chain only adds to the scope. -/
theorem extends_of_chainOf {ctx : Context} {connective : Connective} {negated : Bool} {e : Expr}
    {s t : Scope} {x : Except QueryError Chain}
    (h : (chainOf ctx connective negated e).runOn s = (x, t)) : s.Extends t :=
  (Build.Keeps.chainOf (fun leaf _ negated => .leafTest negated leaf) _ _).of_eq h

/-- A piece of the WHERE part is the chain of its predicate, closed if others are near. -/
theorem wherePiece_ok {ctx : Context} {predicate : Expr} {s t : Scope} {piece : WherePiece}
    (h : (wherePiece ctx predicate).runOn s = (.ok piece, t)) :
    ∃ chain u, (chainOf ctx .and false predicate).runOn s = (.ok chain, u) ∧
      piece = ⟨!u.whereOpen, closeIf (u.conjoined || u.whereOpen) chain⟩ ∧
      t = { u with whereOpen := true } := by
  obtain ⟨chain, u, hchain, h⟩ := Build.runOn_bind_eq_ok.1 h
  cases h
  exact ⟨chain, u, hchain, rfl, rfl⟩

end Sql

end EntityQuery
