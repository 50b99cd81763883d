import EntityQuery.Proofs.Sql.ChainReading
import EntityQuery.Proofs.Sql.Predicate

/-!
# The meaning of predicates

A predicate has a truth value of its own, given what the fields hold and how the database compares
values. A test in a statement has one as well, given what the columns and the parameters hold. The
comparisons belong to the database and are left open; only few of their laws are ever needed.
-/
namespace EntityQuery

/-- How a database decides tests on values. -/
structure Dialect where
  compare : CompareOp → Value → Value → Sql.Truth
  /-- Whether a value is a member of a comma-separated list. -/
  inList : Value → Value → Sql.Truth
  /-- Whether a value matches a pattern. -/
  like : Value → Value → Sql.Truth

/-- The laws of comparison that predicates rely on. -/
structure Dialect.Lawful (D : Dialect) : Prop where
  /-- Exchanging the operands exchanges the operators. -/
  swapped : ∀ op v w, D.compare op.swapped w v = D.compare op v w
  /-- A value that is zero or one equals the numbers zero and one as its bit does. -/
  eq_bit : ∀ (v : Value) (a b : Bool), v.toInt? = some (if a then 1 else 0) →
    D.compare .eq v (.int32 (if b then 1 else 0)) = .ofBool (a = b)
  eq_null : ∀ w, D.compare .eq .null w = .unknown

/-- Whether an operator holds between integers. -/
def CompareOp.holds (op : CompareOp) (m n : Int) : Bool :=
  match op with
  | .eq => m = n
  | .ne => m ≠ n
  | .lt => m < n
  | .le => m ≤ n
  | .gt => n < m
  | .ge => n ≤ m

theorem CompareOp.holds_swapped (op : CompareOp) (m n : Int) :
    op.swapped.holds n m = op.holds m n := by
  cases op <;> simp [swapped, holds, eq_comm]

/-- A database that knows integers only: with any other value every test is unknown. -/
def Dialect.ofIntegers : Dialect where
  compare op v w :=
    match v.toInt?, w.toInt? with
    | some m, some n => .ofBool (op.holds m n)
    | _, _ => .unknown
  inList _ _ := .unknown
  like _ _ := .unknown

theorem Dialect.ofIntegers_lawful : Dialect.ofIntegers.Lawful where
  swapped op v w := by
    simp only [ofIntegers]
    cases v.toInt? <;> cases w.toInt? <;> simp [op.holds_swapped]
  eq_bit v a b hv := by
    have hb : (Value.int32 (if b then 1 else 0)).toInt? = some (if b then 1 else 0) := by
      cases b <;> rfl
    simp only [ofIntegers, hv, hb, CompareOp.holds]
    cases a <;> cases b <;> rfl
  eq_null w := rfl

/-- The values in the columns of the tables, by table and column. -/
abbrev Cells := String → String → Value

/-- A value that can stand for a truth value. -/
def Value.IsBit (v : Value) : Prop := v = .null ∨ v.toInt? = some 0 ∨ v.toInt? = some 1

namespace Expr

open Sql (Truth)

/-- The comparison with null is a test for null. There is none but equality. -/
def nullMeaning? (v : Value) : CompareOp → Option Truth
  | .eq => some (.ofBool v.isNull)
  | .ne => some (.ofBool (!v.isNull))
  | _ => none

/-- The truth of a method call, given what the fields hold. -/
def callMeaning? (D : Dialect) (value : FieldRef → Option Value) (method : Method) (target : Expr)
    (args : List Expr) : Option Truth :=
  match method, target, args with
  | .contains, .list members, [.field ref] | .any, .list members, [.field ref] => do
      let v ← value ref
      let items ← (Sql.memberTexts members).toOption
      return D.inList v (.text (",".intercalate items))
  | .contains, .field ref, [.literal (.text s)] => do
      return D.like (← value ref) (.text ("%" ++ s ++ "%"))
  | .startsWith, .field ref, [.literal (.text s)] => do
      return D.like (← value ref) (.text (s ++ "%"))
  | .endsWith, .field ref, [.literal (.text s)] => do
      return D.like (← value ref) (.text ("%" ++ s))
  | .isNullOrEmpty, .field ref, [] | .isNullOrWhiteSpace, .field ref, [] => do
      return .ofBool (← value ref).isNull
  | .isNullOrEmpty, _, [.field ref] | .isNullOrWhiteSpace, _, [.field ref] => do
      return .ofBool (← value ref).isNull
  | _, _, _ => none

/-- The truth of a predicate without connectives. The operands of a comparison are taken in the
order in which they are written, a literal as it is sent to the database, and a field alone is
compared with one. -/
def leafMeaning? (D : Dialect) (value : FieldRef → Option Value) : Expr → Option Truth
  | .compare op (.field ref) (.literal x) => do
      let v ← value ref
      if x.isNull then nullMeaning? v op else return D.compare op v x.bound
  | .compare op (.literal x) (.field ref) => do
      let v ← value ref
      if x.isNull then nullMeaning? v op else return D.compare op x.bound v
  | .compare op (.field left) (.field right) => do
      return D.compare op (← value left) (← value right)
  | .field ref => do return D.compare .eq (← value ref) (.int32 1)
  | .literal (.bool b) => some (.ofBool b)
  | .call method target args => callMeaning? D value method target args
  | _ => none

/-- The truth of a predicate, given what the fields hold. -/
def meaning? (D : Dialect) (value : FieldRef → Option Value) : Expr → Option Truth
  | .and lhs rhs => do return (← lhs.meaning? D value).and (← rhs.meaning? D value)
  | .or lhs rhs => do return (← lhs.meaning? D value).or (← rhs.meaning? D value)
  | .not e => do return (← e.meaning? D value).not
  | e => e.leafMeaning? D value

/-- The fields that stand alone as predicates. -/
def bareFields (e : Expr) : List FieldRef :=
  e.leaves.filterMap fun leaf =>
    match leaf with
    | .field ref => some ref
    | _ => none

theorem meaning?_of_isLeaf {e : Expr} (h : e.isLeaf = true) (D : Dialect)
    (value : FieldRef → Option Value) : e.meaning? D value = e.leafMeaning? D value := by
  cases e <;> first | rfl | cases h

end Expr

namespace Sql

/-- What a field holds: the value in its column of the table of its owner. -/
def Context.fieldValue? (ctx : Context) (cells : Cells) (ref : FieldRef) : Option Value :=
  match ctx.owner ref with
  | .error _ => none
  | .ok owner => (owner.field? ref.name).map fun field => cells owner.table field.column

/-- What the columns and the parameters of a text hold. -/
structure Binding where
  columns : Column → Value
  parameters : String → Value

namespace Binding

/-- The binding of a text whose tables stand under aliases. -/
def of (sources : List (String × String)) (params : Params) (cells : Cells) : Binding where
  columns column :=
    match sources.lookup column.qualifier with
    | some table => cells table column.name
    | none => .null
  parameters name := (params.get? name).getD .null

def operand (binding : Binding) : Operand → Value
  | .column column => binding.columns column
  | .parameter name => binding.parameters name

/-- Aliases and parameters that a scope has given out hold what they were given out for. -/
structure Agrees (binding : Binding) (cells : Cells) (scope : Scope) : Prop where
  columns : ∀ table qualifier, scope.aliases.get? table = some qualifier →
    ∀ name, binding.columns ⟨qualifier, name⟩ = cells table name
  parameters : ∀ name value, scope.params.get? name = some value →
    binding.parameters name = value

theorem Agrees.of_grows {binding : Binding} {cells : Cells} {s t : Scope} (h : s.Grows t)
    (ht : binding.Agrees cells t) : binding.Agrees cells s where
  columns _ _ hget := ht.columns _ _ (h.alias_eq hget)
  parameters _ _ hget := ht.parameters _ _ (Params.get?_of_prefix h.params hget)

end Binding

/-- The truth of a test in a text. -/
def decideTest (D : Dialect) (binding : Binding) : Test → Truth
  | .compare lhs op rhs => D.compare op (binding.columns lhs) (binding.operand rhs)
  | .notCompare lhs op rhs => (D.compare op (binding.columns lhs) (binding.operand rhs)).not
  | .isNull column => .ofBool (binding.columns column).isNull
  | .isNotNull column => .ofBool (!(binding.columns column).isNull)
  | .inList negated column list =>
      (D.inList (binding.columns column) (binding.parameters list)).negateIf negated
  | .like negated column pattern =>
      (D.like (binding.columns column) (binding.parameters pattern)).negateIf negated
  | .constant holds => .ofBool holds

section

variable (D : Dialect) (binding : Binding)

/-- A test that is negated in the text is read as the negation of its fragment. -/
@[simp] theorem truth_decideTest (test : Test) :
    test.truth (decideTest D binding) = decideTest D binding test := by
  cases test with
  | inList negated column list => cases negated <;> rfl
  | _ => rfl

@[simp] theorem decideTest_comparison (negated : Bool) (lhs : Column) (op : CompareOp)
    (rhs : Operand) :
    decideTest D binding (comparison negated lhs op rhs) =
      (D.compare op (binding.columns lhs) (binding.operand rhs)).negateIf negated := by
  cases negated <;> rfl

@[simp] theorem decideTest_nullTest (isNull : Bool) (column : Column) :
    decideTest D binding (nullTest isNull column) =
      (Truth.ofBool (binding.columns column).isNull).negateIf (!isNull) := by
  cases isNull
  · exact Truth.ofBool_not _
  · rfl

end

end Sql

end EntityQuery
