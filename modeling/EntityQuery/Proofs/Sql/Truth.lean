/-!
# Three-valued logic

The truth values of conditions. A test on a missing value is neither true nor false, and the
connectives are those of Kleene: the conjunction is the lesser of two values and the disjunction
the greater, in the order false, unknown, true.
-/
namespace EntityQuery.Sql

/-- A truth value of a condition. -/
inductive Truth where
  | false
  | unknown
  | true
  deriving DecidableEq, Repr, Inhabited

namespace Truth

def ofBool (b : Bool) : Truth := if b then .true else .false

def not : Truth → Truth
  | .false => .true
  | .unknown => .unknown
  | .true => .false

def and : Truth → Truth → Truth
  | .false, _ => .false
  | .true, w => w
  | .unknown, .false => .false
  | .unknown, _ => .unknown

def or : Truth → Truth → Truth
  | .true, _ => .true
  | .false, w => w
  | .unknown, .true => .true
  | .unknown, _ => .unknown

/-- The value under an odd or an even number of negations. -/
def negateIf (negated : Bool) (v : Truth) : Truth := if negated then v.not else v

@[simp] theorem not_not (v : Truth) : v.not.not = v := by cases v <;> rfl

@[simp] theorem true_and (v : Truth) : Truth.true.and v = v := rfl

@[simp] theorem false_or (v : Truth) : Truth.false.or v = v := rfl

theorem and_assoc (u v w : Truth) : (u.and v).and w = u.and (v.and w) := by
  cases u <;> cases v <;> cases w <;> rfl

theorem or_assoc (u v w : Truth) : (u.or v).or w = u.or (v.or w) := by
  cases u <;> cases v <;> cases w <;> rfl

theorem and_eq_true_iff {v w : Truth} : v.and w = .true ↔ v = .true ∧ w = .true := by
  cases v <;> cases w <;> decide

theorem or_eq_true_iff {v w : Truth} : v.or w = .true ↔ v = .true ∨ w = .true := by
  cases v <;> cases w <;> decide

theorem ofBool_not (b : Bool) : ofBool (!b) = (ofBool b).not := by cases b <;> rfl

@[simp] theorem negateIf_false (v : Truth) : v.negateIf Bool.false = v := rfl

@[simp] theorem negateIf_true (v : Truth) : v.negateIf Bool.true = v.not := rfl

@[simp] theorem negateIf_bnot (b : Bool) (v : Truth) : v.negateIf (!b) = v.not.negateIf b := by
  cases b <;> simp [negateIf]

end Truth

end EntityQuery.Sql
