import EntityQuery.Reference.Lookup
import Mathlib.Data.List.Forall2

/-!
# Keys of items

The key of an item is a list of values in the types of the target's fields. A tuple forgets the
widths of integers, but within one type it forgets next to nothing: only floats that denote the same
integer, which are the two zeros, share a component. So keeping one key for each tuple, the first,
loses none.
-/
namespace EntityQuery

namespace Value

/-- A conversion gives a value of the type. -/
theorem type?_of_convert? {v w : Value} {type : FieldType} (h : v.convert? type = some w) :
    w.type? = some type := by
  have hint (n : Int) (hn : type.ofInt? n = some w) : w.type? = some type := by
    unfold FieldType.ofInt? at hn
    split at hn
    · split at hn <;> cases hn; rfl
    · split at hn <;> cases hn; rfl
    · split at hn <;> cases hn; rfl
    · cases hn
  cases type with
  | bool | float | text | bytes =>
      obtain ⟨x, -, rfl⟩ := Option.map_eq_some_iff.1 h
      rfl
  | int32 | int64 | uint64 =>
      obtain ⟨n, -, hn⟩ := Option.bind_eq_some_iff.1 h
      exact hint n hn

theorem type?_of_coerce? {v w : Value} {type : FieldType} (hv : v.isNull = false)
    (h : v.coerce? type = some w) : w.type? = some type := by
  unfold coerce? at h
  rw [if_neg (by simp [hv])] at h
  exact type?_of_convert? h

/-- Values of one type with the same key are equal, or floats that denote the same integer. -/
theorem eq_or_float_of_key_eq {v w : Value} (htype : v.type? = w.type?) (hkey : v.key = w.key) :
    v = w ∨ ∃ x y n, v = .float x ∧ w = .float y ∧ x.toInt? = some n ∧ y.toInt? = some n := by
  cases v <;> cases w <;> simp [type?] at htype
  case null.null => exact .inl rfl
  case bool.bool b c =>
    refine .inl ?_
    cases b <;> cases c <;> simp_all [key, toInt?]
  case int32.int32 m n =>
    have hn : m.toInt = n.toInt := by simpa [key, toInt?] using hkey
    exact .inl (congrArg int32 (Int32.toInt_inj.1 hn))
  case int64.int64 m n =>
    have hn : m.toInt = n.toInt := by simpa [key, toInt?] using hkey
    exact .inl (congrArg int64 (Int64.toInt_inj.1 hn))
  case uint64.uint64 m n =>
    have hn : m.toNat = n.toNat := by
      have h : (m.toNat : Int) = n.toNat := by simpa [key, toInt?] using hkey
      omega
    exact .inl (congrArg uint64 (UInt64.toNat_inj.1 hn))
  case float.float x y =>
    unfold key toInt? at hkey
    rcases hx : x.toInt? with _ | m <;> rcases hy : y.toInt? with _ | n
    · simp only [hx, hy, plainKey, KeyPart.float.injEq] at hkey
      exact .inl (congrArg float hkey)
    · simp [hx, hy, plainKey] at hkey
    · simp [hx, hy, plainKey] at hkey
    · simp only [hx, hy, KeyPart.int.injEq] at hkey
      exact .inr ⟨x, y, m, rfl, rfl, hx, hkey ▸ hy⟩
  case text.text s t => exact .inl (by simpa [key, toInt?, plainKey] using hkey)
  case bytes.bytes bs cs => exact .inl (by simpa [key, toInt?, plainKey] using hkey)

end Value

namespace Lookup

/-- A component of a key is a value of the type, hence not null. -/
theorem type?_of_keyValue? {item : FieldReader} {name : String} {type : FieldType} {value : Value}
    (h : keyValue? item name type = some value) : value.type? = some type := by
  obtain ⟨v, hv, hcoerce⟩ := Option.bind_eq_some_iff.1 h
  obtain ⟨-, hnull⟩ := Option.filter_eq_some_iff.1 hv
  exact Value.type?_of_coerce? (by simpa using hnull) hcoerce

theorem itemKey?_eq_some_iff {item : FieldReader} {fields : List (String × FieldType)}
    {key : List Value} : itemKey? item fields = some key ↔
      List.Forall₂ (fun field value => keyValue? item field.1 field.2 = some value) fields key := by
  induction fields generalizing key with
  | nil => simp [itemKey?, eq_comm]
  | cons field fields ih =>
      rw [List.forall₂_cons_left_iff, itemKey?]
      rcases hvalue : keyValue? item field.1 field.2 with _ | value
      · simp
      · simp only [Option.map_eq_some_iff, ih, Option.some.injEq]
        constructor
        · rintro ⟨values, hvalues, rfl⟩
          exact ⟨value, values, rfl, hvalues, rfl⟩
        · rintro ⟨_, values, rfl, hvalues, rfl⟩
          exact ⟨values, hvalues, rfl⟩

/-- The item has a value for the field that the type can hold, and this is the value in the type. -/
def Supplies (item : FieldReader) (field : String × FieldType) (value : Value) : Prop :=
  ∃ found, item field.1 = some found ∧ found.isNull = false ∧ found.coerce field.2 = .ok value

/-- The entry for an item: it is there if the item supplies all fields, and then has what the item
supplies. -/
structure EntryOf (fields : List (String × FieldType)) (item : FieldReader)
    (entry : Option (List Value)) : Prop where
  present : entry.isSome = true ↔ ∀ field ∈ fields, ∃ value, Supplies item field value
  components : ∀ key, entry = some key → List.Forall₂ (Supplies item) fields key

theorem keyValue?_eq_some_iff {item : FieldReader} {field : String × FieldType} {value : Value} :
    keyValue? item field.1 field.2 = some value ↔ Supplies item field value := by
  simp only [keyValue?, Supplies, Option.bind_eq_some_iff, Option.filter_eq_some_iff,
    Value.coerce_eq_ok_iff, Bool.not_eq_true', and_assoc]

theorem entryOf_itemKey? (fields : List (String × FieldType)) (item : FieldReader) :
    EntryOf fields item (itemKey? item fields) where
  present := by
    induction fields with
    | nil => simp [itemKey?]
    | cons field fields ih =>
        rw [List.forall_mem_cons, ← ih, itemKey?]
        simp only [← keyValue?_eq_some_iff, ← Option.isSome_iff_exists]
        cases keyValue? item field.1 field.2 <;> simp
  components key hkey :=
    (itemKey?_eq_some_iff.1 hkey).imp fun _ _ => keyValue?_eq_some_iff.1

/-- The components of a key have the types of their fields. -/
theorem types_of_itemKey? {item : FieldReader} {fields : List (String × FieldType)}
    {key : List Value} (h : itemKey? item fields = some key) :
    List.Forall₂ (fun field value => value.type? = some field.2) fields key :=
  (itemKey?_eq_some_iff.1 h).imp fun _ _ => type?_of_keyValue?

theorem distinctFrom_subset (seen : List (List KeyPart)) (keys : List (List Value)) :
    distinctFrom seen keys ⊆ keys := by
  induction keys generalizing seen with
  | nil => exact List.Subset.refl _
  | cons key keys ih =>
      rw [distinctFrom]
      split
      · exact List.subset_cons_of_subset key (ih seen)
      · exact List.cons_subset_cons key (ih _)

/-- Every key is among those seen or is kept, up to its tuple. -/
theorem exists_mem_distinctFrom {seen : List (List KeyPart)} {keys : List (List Value)}
    {key : List Value} (h : key ∈ keys) :
    keyTuple key ∈ seen ∨ ∃ kept ∈ distinctFrom seen keys, keyTuple kept = keyTuple key := by
  induction keys generalizing seen with
  | nil => simp at h
  | cons first keys ih =>
      rw [distinctFrom]
      by_cases hseen : seen.contains (keyTuple first) = true
      · rw [if_pos hseen]
        rcases List.mem_cons.1 h with rfl | hmem
        · exact .inl (List.contains_iff_mem.1 hseen)
        · exact ih hmem
      · rw [if_neg hseen]
        rcases List.mem_cons.1 h with rfl | hmem
        · exact .inr ⟨key, List.mem_cons_self, rfl⟩
        · have hlater : keyTuple key ∈ keyTuple first :: seen ∨ _ := ih hmem
          rcases hlater with hin | ⟨kept, hkept, htuple⟩
          · rcases List.mem_cons.1 hin with hfirst | hin
            · exact .inr ⟨first, List.mem_cons_self, hfirst.symm⟩
            · exact .inl hin
          · exact .inr ⟨kept, List.mem_cons_of_mem _ hkept, htuple⟩

/-- Keys with the same tuple, which are asked for once. -/
def sameTuple (key other : List Value) : Bool := decide (keyTuple key = keyTuple other)

/-- The different keys of the items, each at its first occurrence. -/
def askedKeys (lookup : Lookup) : List (List Value) :=
  (lookup.itemKeys.filterMap id).eraseDupsBy sameTuple

/-- Of the keys whose tuples have not been seen, the first of each tuple is kept. -/
theorem distinctFrom_eq (seen : List (List KeyPart)) (keys : List (List Value)) :
    distinctFrom seen keys =
      (keys.filter fun key => !seen.contains (keyTuple key)).eraseDupsBy sameTuple := by
  induction keys generalizing seen with
  | nil => rfl
  | cons key keys ih =>
      rw [distinctFrom]
      by_cases hseen : seen.contains (keyTuple key) = true
      · rw [if_pos hseen, ih, List.filter_cons_of_neg (by simpa using hseen)]
      · rw [if_neg hseen, ih, List.filter_cons_of_pos (by simpa using hseen),
          List.eraseDupsBy_cons, List.filter_filter]
        refine congrArg (fun rest => key :: List.eraseDupsBy sameTuple rest) ?_
        refine List.filter_congr fun other _ => ?_
        simp [sameTuple]

theorem distinctKeys_eq_askedKeys (lookup : Lookup) : lookup.distinctKeys = lookup.askedKeys := by
  rw [distinctKeys, distinctFrom_eq]
  simp [askedKeys]

/-- No two keys that are kept have the same tuple, and none has one that was seen before. -/
theorem nodup_distinctFrom (seen : List (List KeyPart)) (keys : List (List Value)) :
    ((distinctFrom seen keys).map keyTuple).Nodup ∧
      ∀ tuple ∈ (distinctFrom seen keys).map keyTuple, tuple ∉ seen := by
  induction keys generalizing seen with
  | nil => simp [distinctFrom]
  | cons key keys ih =>
      rw [distinctFrom]
      by_cases hseen : seen.contains (keyTuple key) = true
      · rw [if_pos hseen]
        exact ih seen
      · rw [if_neg hseen, List.map_cons]
        obtain ⟨hnodup, hnew⟩ := ih (keyTuple key :: seen)
        refine ⟨List.nodup_cons.2 ⟨fun hmem => hnew _ hmem List.mem_cons_self, hnodup⟩, ?_⟩
        refine List.forall_mem_cons.2 ⟨by simpa using hseen, fun tuple hmem hin => ?_⟩
        exact hnew tuple hmem (List.mem_cons_of_mem _ hin)

variable {lookup : Lookup} {key : List Value}

theorem mem_itemKeys_of_mem_distinctKeys (h : key ∈ lookup.distinctKeys) :
    some key ∈ lookup.itemKeys := by
  have hmem := distinctFrom_subset _ _ h
  obtain ⟨found, hfound, rfl⟩ := List.mem_filterMap.1 hmem
  exact hfound

/-- No key is dropped: one with the same tuple is kept. -/
theorem exists_mem_distinctKeys (h : some key ∈ lookup.itemKeys) :
    ∃ kept ∈ lookup.distinctKeys, keyTuple kept = keyTuple key := by
  have hmem : key ∈ lookup.itemKeys.filterMap id := List.mem_filterMap.2 ⟨some key, h, rfl⟩
  have hkept : keyTuple key ∈ [] ∨ _ := exists_mem_distinctFrom hmem
  exact hkept.resolve_left List.not_mem_nil

/-- The tuples that are looked up are those of the items. -/
theorem mem_tuples_iff {tuple : List KeyPart} :
    tuple ∈ lookup.distinctKeys.map keyTuple ↔
      ∃ key, some key ∈ lookup.itemKeys ∧ keyTuple key = tuple := by
  rw [List.mem_map]
  constructor
  · rintro ⟨key, hmem, htuple⟩
    exact ⟨key, mem_itemKeys_of_mem_distinctKeys hmem, htuple⟩
  · rintro ⟨key, hmem, rfl⟩
    exact exists_mem_distinctKeys hmem

end Lookup

end EntityQuery
