import EntityQuery.Proofs.Text.Decimal
import EntityQuery.Value.Coerce
import Mathlib.Algebra.Group.Int.Defs

/-!
# Coercion to integer types

A truth value, an integer of any width and a text that writes a whole number all denote an integer.
Such a value is converted to an integer type exactly when the type can hold the integer, and the
result denotes the same integer: there is no wrapping, no truncation and no nearest value.
-/
namespace EntityQuery

namespace FieldType

/-- The integer types. -/
def IsInteger : FieldType → Prop
  | .int32 | .int64 | .uint64 => True
  | _ => False

/-- The integers that a type can hold. -/
def Holds : FieldType → Int → Prop
  | .int32, n => -2 ^ 31 ≤ n ∧ n < 2 ^ 31
  | .int64, n => -2 ^ 63 ≤ n ∧ n < 2 ^ 63
  | .uint64, n => 0 ≤ n ∧ n < 2 ^ 64
  | _, _ => False

end FieldType

namespace Value

/-- The integer that a value denotes: a truth value one or zero, an integer itself, and a text the
one that it writes, perhaps among blanks. -/
inductive Denotes : Value → Int → Prop
  | bool (b : Bool) : Denotes (.bool b) (if b then 1 else 0)
  | int32 (n : Int32) : Denotes (.int32 n) n.toInt
  | int64 (n : Int64) : Denotes (.int64 n) n.toInt
  | uint64 (n : UInt64) : Denotes (.uint64 n) n.toNat
  | text {s : String} {n : Int} (h : Text.WritesAmongBlanks s.toList n) : Denotes (.text s) n

/-- The integer that is read from a value that is no float is the one that the value denotes. -/
theorem readInteger?_eq_some_iff {v : Value} {n : Int} (hfloat : v.type? ≠ some .float) :
    v.readInteger? = some n ↔ v.Denotes n := by
  constructor
  · intro h
    cases v with
    | null => cases h
    | bool b => exact Option.some.inj h ▸ .bool b
    | int32 m => exact Option.some.inj h ▸ .int32 m
    | int64 m => exact Option.some.inj h ▸ .int64 m
    | uint64 m => exact Option.some.inj h ▸ .uint64 m
    | float x => exact absurd rfl hfloat
    | text s => exact .text (Text.readInt?_trim_eq_some_iff.1 h)
    | bytes bs => cases h
  · intro h
    cases h with
    | bool b => rfl
    | int32 m => rfl
    | int64 m => rfl
    | uint64 m => rfl
    | text h => exact Text.readInt?_trim_eq_some_iff.2 h

/-- A value denotes one integer at most. -/
theorem Denotes.unique {v : Value} {m n : Int} (hm : v.Denotes m) (hn : v.Denotes n) : m = n := by
  have hfloat : v.type? ≠ some .float := by cases hm <;> simp [type?]
  have hread := (readInteger?_eq_some_iff hfloat).2 hm
  rw [(readInteger?_eq_some_iff hfloat).2 hn] at hread
  exact (Option.some.inj hread).symm

end Value

namespace FieldType

variable {type : FieldType} {n : Int}

/-- What an integer type makes of an integer is a value of the type that denotes it. -/
theorem denotes_of_ofInt? {w : Value} (h : type.ofInt? n = some w) :
    w.type? = some type ∧ w.Denotes n := by
  unfold ofInt? at h
  split at h
  · split at h
    · next hrange =>
      cases h
      have hdenotes := Value.Denotes.int32 (Int32.ofInt n)
      rw [Int32.toInt_ofInt_of_le (by omega) (by omega)] at hdenotes
      exact ⟨rfl, hdenotes⟩
    · cases h
  · split at h
    · next hrange =>
      cases h
      have hdenotes := Value.Denotes.int64 (Int64.ofInt n)
      rw [Int64.toInt_ofInt_of_le (by omega) (by omega)] at hdenotes
      exact ⟨rfl, hdenotes⟩
    · cases h
  · split at h
    · next hrange =>
      cases h
      have hdenotes := Value.Denotes.uint64 (UInt64.ofNat n.toNat)
      rw [UInt64.toNat_ofNat_of_lt' (by simp [UInt64.size]; omega),
        Int.toNat_of_nonneg hrange.1] at hdenotes
      exact ⟨rfl, hdenotes⟩
    · cases h
  · cases h

/-- An integer type takes the integers that it can hold. -/
theorem isSome_ofInt?_iff : (type.ofInt? n).isSome = true ↔ type.Holds n := by
  cases type <;>
    simp only [ofInt?, Holds, Option.isSome_none, Option.isSome_ite, Bool.false_eq_true]
  all_goals omega

end FieldType

namespace Value

variable {v w : Value} {type : FieldType}

/-- The conversion to an integer type reads the integer first. -/
theorem coerce?_integer (htype : type.IsInteger) (hnull : v.isNull = false) :
    v.coerce? type = v.readInteger?.bind type.ofInt? := by
  rw [coerce?, if_neg (by simp [hnull])]
  cases type <;> first | rfl | cases htype

section

variable (htype : type.IsInteger) (hnull : v.isNull = false) (hfloat : v.type? ≠ some .float)
include htype hnull hfloat

/-- A value is converted to what the type makes of the integer that the value denotes. -/
theorem coerce_integer_eq_ok_iff :
    v.coerce type = .ok w ↔ ∃ n, v.Denotes n ∧ type.ofInt? n = some w := by
  rw [coerce_eq_ok_iff, coerce?_integer htype hnull, Option.bind_eq_some_iff]
  simp only [readInteger?_eq_some_iff hfloat]

theorem exists_coerce_integer_iff :
    (∃ w, v.coerce type = .ok w) ↔ ∃ n, v.Denotes n ∧ type.Holds n := by
  simp only [coerce_integer_eq_ok_iff htype hnull hfloat, ← FieldType.isSome_ofInt?_iff,
    Option.isSome_iff_exists]
  constructor
  · rintro ⟨w, n, hn, hw⟩
    exact ⟨n, hn, w, hw⟩
  · rintro ⟨n, hn, w, hw⟩
    exact ⟨w, n, hn, hw⟩

/-- Integers are kept. -/
theorem denotes_iff_of_coerce_integer (hw : v.coerce type = .ok w) (n : Int) :
    w.Denotes n ↔ v.Denotes n := by
  obtain ⟨m, hm, hmade⟩ := (coerce_integer_eq_ok_iff htype hnull hfloat).1 hw
  have hwm := (FieldType.denotes_of_ofInt? hmade).2
  constructor
  · intro hn
    exact hn.unique hwm ▸ hm
  · intro hn
    exact hn.unique hm ▸ hwm

end

/-- A value that is neither null nor a float is converted to an integer type if the integer that it
denotes is one that the type can hold. The result is of the type and denotes the same integer. All
else is refused, a value that denotes no integer too. -/
theorem coerce_integer_exact (htype : type.IsInteger) (hnull : v.isNull = false)
    (hfloat : v.type? ≠ some .float) :
    (∀ m n, v.Denotes m → v.Denotes n → m = n) ∧
    ((∃ w, v.coerce type = .ok w) ↔ ∃ n, v.Denotes n ∧ type.Holds n) ∧
    (∀ w, v.coerce type = .ok w → w.type? = some type ∧ ∀ n, w.Denotes n ↔ v.Denotes n) ∧
    ((¬ ∃ n, v.Denotes n ∧ type.Holds n) →
      v.coerce type = .error (.unrepresentable v type)) := by
  have htaken := exists_coerce_integer_iff htype hnull hfloat
  refine ⟨fun m n => Denotes.unique, htaken, fun w hw => ⟨?_, ?_⟩, fun hnone => ?_⟩
  · obtain ⟨n, -, hmade⟩ := (coerce_integer_eq_ok_iff htype hnull hfloat).1 hw
    exact (FieldType.denotes_of_ofInt? hmade).1
  · exact denotes_iff_of_coerce_integer htype hnull hfloat hw
  · rw [← htaken] at hnone
    unfold coerce at hnone ⊢
    cases hcoerce : v.coerce? type with
    | none => rfl
    | some w => exact absurd ⟨w, by rw [hcoerce]⟩ hnone

/-- The text writes the least integer of 64 bits, with zeros and blanks that make no difference. An
integer type of 64 bits takes it, one of 32 bits refuses it. -/
theorem coerce_integer_exact_sample :
    (∃ w, (text " -0009223372036854775808\n").coerce .int64 = .ok w ∧ w.type? = some .int64 ∧
      w.Denotes (-2 ^ 63)) ∧
    (text " -0009223372036854775808\n").coerce .int32 =
      .error (.unrepresentable (text " -0009223372036854775808\n") .int32) := by
  have hwritten : (text " -0009223372036854775808\n").Denotes (-2 ^ 63) :=
    (readInteger?_eq_some_iff (by decide)).1 (by decide +kernel)
  have hlong : FieldType.int64.IsInteger := trivial
  have hshort : FieldType.int32.IsInteger := trivial
  have hplain : (text " -0009223372036854775808\n").type? ≠ some .float := by decide
  obtain ⟨-, htaken, hexact, -⟩ := coerce_integer_exact hlong rfl hplain
  obtain ⟨hunique, -, -, hrefused⟩ := coerce_integer_exact hshort rfl hplain
  constructor
  · obtain ⟨w, hw⟩ := htaken.2 ⟨_, hwritten, by simp [FieldType.Holds]⟩
    obtain ⟨htype, hsame⟩ := hexact w hw
    exact ⟨w, hw, htype, (hsame _).2 hwritten⟩
  · refine hrefused ?_
    rintro ⟨n, hn, hheld⟩
    rw [hunique n _ hn hwritten] at hheld
    simp [FieldType.Holds] at hheld

end Value

end EntityQuery
