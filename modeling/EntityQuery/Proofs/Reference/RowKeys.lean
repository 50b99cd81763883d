import EntityQuery.Proofs.Results
import EntityQuery.Reference.Attach

/-!
# Keys of rows

The key of a row has a component for every key field. Columns are read one after the other up to
the first null, which leaves the row without a key; those behind it may be missing or of any kind.
-/
namespace EntityQuery

namespace Schema

/-- The component of a field in the key of a row; none if the column is missing or does not convert
to the type of the field. -/
def keyPart? (schema : Schema) (row : Row) (name : String) : Option KeyPart := do
  let field ← schema.field? name
  let value ← row.get? field.column
  let value ← value.coerce? field.type
  return value.key

/-- The tuple of a row over several fields; none if a column is missing or does not convert to the
type of its field. -/
def rowTuple? (schema : Schema) (row : Row) : List String → Option (List KeyPart)
  | [] => some []
  | name :: names => do
      let part ← schema.keyPart? row name
      return part :: (← schema.rowTuple? row names)

/-- The key of a row: its tuple, unless a component is null. -/
def keyOf? (schema : Schema) (row : Row) (names : List String) : Option (List KeyPart) :=
  (schema.rowTuple? row names).filter (.null ∉ ·)

/-- It can be told whether a row has a key: the columns up to the first null are there and
convert. -/
def KeyReadable (schema : Schema) (row : Row) : List String → Prop
  | [] => True
  | name :: names =>
      ∃ part, schema.keyPart? row name = some part ∧ (part ≠ .null → schema.KeyReadable row names)

instance decidableKeyReadable (schema : Schema) (row : Row) :
    (names : List String) → Decidable (schema.KeyReadable row names)
  | [] => isTrue trivial
  | name :: names =>
      have := decidableKeyReadable schema row names
      match h : schema.keyPart? row name with
      | none => isFalse fun ⟨_, hpart, _⟩ => nomatch h.symm.trans hpart
      | some part => decidable_of_iff (part ≠ .null → schema.KeyReadable row names)
          (by simp [KeyReadable, h])

variable {schema : Schema} {row : Row} {name : String} {names : List String} {part : KeyPart}

theorem rowTuple?_cons : schema.rowTuple? row (name :: names) =
    (schema.keyPart? row name).bind fun part => (schema.rowTuple? row names).map (part :: ·) := by
  rw [rowTuple?]
  refine Option.bind_congr fun part _ => ?_
  rw [Option.map_eq_bind]
  rfl

@[simp] theorem keyOf?_nil : schema.keyOf? row [] = some [] := by
  simp [keyOf?, rowTuple?]

theorem keyOf?_cons_of_null (h : schema.keyPart? row name = some .null) :
    schema.keyOf? row (name :: names) = none := by
  simp [keyOf?, rowTuple?_cons, h]

theorem keyOf?_cons_of_ne_null (h : schema.keyPart? row name = some part) (hne : part ≠ .null) :
    schema.keyOf? row (name :: names) = (schema.keyOf? row names).map (part :: ·) := by
  rcases hrest : schema.rowTuple? row names with _ | rest
  · simp [keyOf?, rowTuple?_cons, h, hrest]
  · by_cases hnull : KeyPart.null ∈ rest <;>
      simp [keyOf?, rowTuple?_cons, h, hrest, hnull, hne.symm, Option.filter]

theorem keyOf?_eq_some_iff {key : List KeyPart} :
    schema.keyOf? row names = some key ↔
      schema.rowTuple? row names = some key ∧ .null ∉ key := by
  simp [keyOf?, Option.filter_eq_some_iff]

end Schema

namespace Lookup

variable {schema : Schema} {row : Row} {name : String} {names : List String} {field : Field}
  {type : FieldType} {fields : List (String × FieldType)}

/-- The key fields of a target are found if and only if all of them exist. -/
theorem exists_keyFields_iff :
    (∃ fields, keyFields schema names = .ok fields) ↔
      ∀ name ∈ names, ∃ field, schema.field name = .ok field := by
  induction names with
  | nil => exact iff_of_true ⟨[], rfl⟩ (by simp)
  | cons name names ih =>
      rw [List.forall_mem_cons, ← ih]
      constructor
      · rintro ⟨fields, h⟩
        obtain ⟨field, hfield, h⟩ := except_bind_eq_ok_iff.1 h
        obtain ⟨rest, hrest, -⟩ := except_bind_eq_ok_iff.1 h
        exact ⟨⟨field, hfield⟩, rest, hrest⟩
      · rintro ⟨⟨field, hfield⟩, rest, hrest⟩
        exact ⟨_, except_bind_eq_ok_iff.2 ⟨field, hfield,
          except_bind_eq_ok_iff.2 ⟨rest, hrest, rfl⟩⟩⟩

/-- Reads the component of a field in the key of a row. -/
def readPart (target : Schema) (row : Row) (name : String) (type : FieldType) :
    Except QueryError KeyPart := do
  let value ← row.fieldValue target name
  let value ← (value.coerce type).mapError fun fault => .mapping (.conversion fault)
  return value.key

/-- A component that is read is the one of the field. -/
theorem readPart_eq_ok_iff {part : KeyPart} (hfield : schema.field name = .ok field) :
    readPart schema row name field.type = .ok part ↔ schema.keyPart? row name = some part := by
  have hfield? : schema.field? name = some field := Schema.field_eq_ok_iff.1 hfield
  have hpart : schema.keyPart? row name = (row.get? field.column).bind fun value =>
      (value.coerce? field.type).map Value.key := by
    rw [Schema.keyPart?, hfield?]
    show (row.get? field.column).bind _ = _
    refine Option.bind_congr fun value _ => ?_
    rw [Option.map_eq_bind]
    rfl
  rw [hpart]
  rcases hvalue : row.get? field.column with _ | value
  · simp [readPart, Row.fieldValue, hfield, hvalue, bind, Except.bind]
  · rcases hcoerce : value.coerce? field.type with _ | converted
    · simp [readPart, Row.fieldValue, hfield, hvalue, hcoerce, Value.coerce, Except.mapError, bind,
        Except.bind]
    · simp [readPart, Row.fieldValue, hfield, hvalue, hcoerce, Value.coerce, Except.mapError, bind,
        Except.bind, pure, Except.pure]

/-- The columns after a null are not read. -/
theorem rowKey?_cons : rowKey? schema row ((name, type) :: fields) = do
    let part ← readPart schema row name type
    if part = .null then return none
    else return (← rowKey? schema row fields).map (part :: ·) := by
  simp only [rowKey?, readPart, bind_assoc, pure_bind]
  refine bind_congr fun value => bind_congr fun converted => ?_
  split
  · next hnull => simp [hnull]
  · next hnull => rw [if_neg (fun h => hnull h)]

/-- The key that is read for a row, if one can be, is the key of the row. -/
theorem rowKey?_eq_ok_iff {key : Option (List KeyPart)}
    (hfields : keyFields schema names = .ok fields) :
    rowKey? schema row fields = .ok key ↔
      schema.KeyReadable row names ∧ schema.keyOf? row names = key := by
  induction names generalizing fields key with
  | nil =>
      cases hfields
      simp [rowKey?, Schema.KeyReadable]
  | cons name names ih =>
      obtain ⟨field, hfield, hfields⟩ := except_bind_eq_ok_iff.1 hfields
      obtain ⟨later, hlater, hfields⟩ := except_bind_eq_ok_iff.1 hfields
      cases hfields
      have hname : field.name = name := Schema.name_of_field? (Schema.field_eq_ok_iff.1 hfield)
      rw [hname, rowKey?_cons, except_bind_eq_ok_iff]
      -- On both sides a null component ends the key, and nothing is asked of the later fields.
      constructor
      · rintro ⟨part, hread, h⟩
        have hpart := (readPart_eq_ok_iff hfield).1 hread
        by_cases hnull : part = .null
        · rw [if_pos hnull] at h
          cases h
          rw [hnull] at hpart
          exact ⟨⟨_, hpart, fun hne => absurd rfl hne⟩, Schema.keyOf?_cons_of_null hpart⟩
        · rw [if_neg hnull] at h
          obtain ⟨rest, hrest, h⟩ := except_bind_eq_ok_iff.1 h
          cases h
          obtain ⟨hreadable, hkey⟩ := (ih hlater).1 hrest
          refine ⟨⟨part, hpart, fun _ => hreadable⟩, ?_⟩
          rw [Schema.keyOf?_cons_of_ne_null hpart hnull, hkey]
      · rintro ⟨⟨part, hpart, hreadable⟩, hkey⟩
        refine ⟨part, (readPart_eq_ok_iff hfield).2 hpart, ?_⟩
        by_cases hnull : part = .null
        · rw [hnull] at hpart
          rw [if_pos hnull, ← hkey, Schema.keyOf?_cons_of_null hpart]
          rfl
        · have hrest := (ih hlater).2 ⟨hreadable hnull, rfl⟩
          rw [if_neg hnull, ← hkey, Schema.keyOf?_cons_of_ne_null hpart hnull]
          exact except_bind_eq_ok_iff.2 ⟨_, hrest, rfl⟩

end Lookup

end EntityQuery
