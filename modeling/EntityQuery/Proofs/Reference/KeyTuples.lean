import EntityQuery.Proofs.Reference.Keys
import EntityQuery.Proofs.Value.Integers

/-!
# Equal tuples

The keys of items and the keys of rows come in different forms and meet as tuples, once their
components have been converted to the types of the foreign keys. In types other than float two keys
have the same tuple only if they are equal, so that no foreign row is attached. In integer types
they have the same tuple whenever what they come from denotes the same integers, so that no row is
lost.
-/
namespace EntityQuery

namespace Value

/-- Only null has the component of null. -/
theorem key_eq_null_iff {v : Value} : v.key = .null ↔ v = .null := by
  unfold key
  cases v with
  | null => exact iff_of_true rfl rfl
  | float x => cases hx : x.toInt? <;> simp [toInt?, plainKey, hx]
  | _ => simp [toInt?, plainKey]

/-- Values of one type other than float are equal if their components are. -/
theorem key_eq_iff {v w : Value} {type : FieldType} (hv : v.type? = some type)
    (hw : w.type? = some type) (hfloat : type ≠ .float) : v.key = w.key ↔ v = w := by
  refine ⟨fun hkey => ?_, fun h => congrArg key h⟩
  rcases eq_or_float_of_key_eq (hv.trans hw.symm) hkey with h | ⟨x, -, -, rfl, -⟩
  · exact h
  · cases hv
    exact absurd rfl hfloat

/-- The component of a value of an integer type is the integer that it denotes. -/
theorem key_of_denotes {v : Value} {type : FieldType} {n : Int} (hv : v.type? = some type)
    (htype : type.IsInteger) (hn : v.Denotes n) : v.key = .int n := by
  cases hn with
  | bool | int32 | int64 | uint64 => rfl
  | text => cases hv; cases htype

end Value

/-- Two values denote one integer. -/
def SameInteger (v w : Value) : Prop := ∃ n, v.Denotes n ∧ w.Denotes n

/-- The values `key` are the values `found` in the types of the fields of a key, component by
component, and none of them is null. -/
inductive KeyInTypes : (types : List FieldType) → (found key : List Value) → Prop
  | nil : KeyInTypes [] [] []
  | cons {type : FieldType} {types : List FieldType} {v w : Value} {found key : List Value}
      (hv : v.coerce type = .ok w) (hnull : w ≠ .null) (rest : KeyInTypes types found key) :
      KeyInTypes (type :: types) (v :: found) (w :: key)

section

variable {type : FieldType} {v v' w w' : Value}

theorem type?_of_coerce (hv : v.coerce type = .ok w) (hnull : w ≠ .null) :
    v.isNull = false ∧ w.type? = some type := by
  have hfound : v.isNull = false := by
    rw [Bool.eq_false_iff, ne_eq, Value.isNull_iff]
    rintro rfl
    cases hv
    exact hnull rfl
  exact ⟨hfound, Value.type?_of_coerce? hfound (Value.coerce_eq_ok_iff.1 hv)⟩

/-- In an integer type the components are equal if the same integer was denoted. -/
theorem key_eq_iff_sameInteger (htype : type.IsInteger) (hv : v.coerce type = .ok w)
    (hv' : v'.coerce type = .ok w') (hnull : w ≠ .null) (hnull' : w' ≠ .null)
    (hfloat : v.type? ≠ some .float) (hfloat' : v'.type? ≠ some .float) :
    w.key = w'.key ↔ SameInteger v v' := by
  obtain ⟨hfound, hw⟩ := type?_of_coerce hv hnull
  obtain ⟨hfound', hw'⟩ := type?_of_coerce hv' hnull'
  obtain ⟨n, hn, -⟩ := (Value.exists_coerce_integer_iff htype hfound hfloat).1 ⟨w, hv⟩
  obtain ⟨n', hn', -⟩ := (Value.exists_coerce_integer_iff htype hfound' hfloat').1 ⟨w', hv'⟩
  have hkey : w.key = .int n := Value.key_of_denotes hw htype
    ((Value.denotes_iff_of_coerce_integer htype hfound hfloat hv n).2 hn)
  have hkey' : w'.key = .int n' := Value.key_of_denotes hw' htype
    ((Value.denotes_iff_of_coerce_integer htype hfound' hfloat' hv' n').2 hn')
  rw [hkey, hkey', KeyPart.int.injEq]
  constructor
  · rintro rfl
    exact ⟨n, hn, hn'⟩
  · rintro ⟨m, hm, hm'⟩
    rw [hn.unique hm, hn'.unique hm']

theorem keyTuple_cons_eq_iff {key key' : List Value} :
    keyTuple (w :: key) = keyTuple (w' :: key') ↔
      w.key = w'.key ∧ keyTuple key = keyTuple key' := by
  simp [keyTuple]

/-- Two keys in the same types, none of them float, have the same tuple only if they are equal. If
the types are integer types, and the keys come from truth values, integers and texts, they have the
same tuple if and only if they come from the same integers. Null, which no key has as a component,
is the only value with the component of null. -/
theorem keyTuple_eq_iff {types : List FieldType} {found found' key key' : List Value}
    (hkey : KeyInTypes types found key) (hkey' : KeyInTypes types found' key')
    (hfloat : .float ∉ types) :
    (keyTuple key = keyTuple key' ↔ key = key') ∧
    ((∀ type ∈ types, type.IsInteger) → (∀ v ∈ found ++ found', v.type? ≠ some .float) →
      (keyTuple key = keyTuple key' ↔ List.Forall₂ SameInteger found found')) ∧
    ∀ v : Value, v.key = .null ↔ v = .null := by
  rw [← and_assoc]
  refine ⟨?_, fun v => Value.key_eq_null_iff⟩
  induction hkey generalizing found' key' with
  | nil =>
      cases hkey'
      exact ⟨iff_of_true rfl rfl, fun _ _ => iff_of_true rfl .nil⟩
  | @cons type types v w found key hv hnull hrest ih =>
      cases hkey' with
      | @cons _ _ v' w' found' key' hv' hnull' hrest' =>
          rw [List.mem_cons, not_or] at hfloat
          obtain ⟨hequal, hsame⟩ := ih hrest' hfloat.2
          rw [keyTuple_cons_eq_iff]
          constructor
          · rw [List.cons.injEq, hequal, Value.key_eq_iff (type?_of_coerce hv hnull).2
              (type?_of_coerce hv' hnull').2 (Ne.symm hfloat.1)]
          · intro hintegers hplain
            obtain ⟨hinteger, hintegers⟩ := List.forall_mem_cons.1 hintegers
            obtain ⟨hplain, hplain'⟩ := List.forall_mem_append.1 hplain
            obtain ⟨hv₀, hplain⟩ := List.forall_mem_cons.1 hplain
            obtain ⟨hv₀', hplain'⟩ := List.forall_mem_cons.1 hplain'
            rw [List.forall₂_cons, key_eq_iff_sameInteger hinteger hv hv' hnull hnull' hv₀ hv₀',
              hsame hintegers (List.forall_mem_append.2 ⟨hplain, hplain'⟩)]

end

/-- The texts `01` and `1` make different keys as texts. As integers they are one, and the same one
as an integer of another width. -/
theorem keyTuple_eq_iff_sample :
    keyTuple [.int64 7, .text "01"] ≠ keyTuple [.int64 7, .text "1"] ∧
    List.Forall₂ SameInteger [.text " 01"] [.uint64 1] := by
  have htyped (s : String) : KeyInTypes [.int64, .text] [.int32 7, .text s] [.int64 7, .text s] :=
    .cons (by rfl) (by simp) (.cons rfl (by simp) .nil)
  obtain ⟨hequal, -⟩ := keyTuple_eq_iff (htyped "01") (htyped "1") (by decide)
  have hfound : KeyInTypes [.int32] [.text " 01"] [.int32 1] :=
    .cons (Value.coerce_eq_ok_iff.2 (by decide +kernel)) (by simp) .nil
  have hfound' : KeyInTypes [.int32] [.uint64 1] [.int32 1] := .cons (by rfl) (by simp) .nil
  obtain ⟨-, hintegers, -⟩ := keyTuple_eq_iff hfound hfound' (by decide)
  constructor
  · rw [ne_eq, hequal]
    decide
  · exact (hintegers (by simp [FieldType.IsInteger]) (by decide)).1 rfl

end EntityQuery
