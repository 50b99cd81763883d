import EntityQuery.Proofs.Sql.Growth
import Mathlib.Data.Finset.Dedup
import Mathlib.Data.Nat.Find
import Mathlib.Data.Set.Finite.Basic
import Mathlib.Order.Bounds.Basic

/-!
# Names of parameters

Values are bound under generated names, added under given ones, and taken over from other
parameters. However such calls follow one another, and whichever of them fail, no name is given
twice, and what is stored stays in its place and under its name. A generated name has the least
number that is free. Names of different fields or numbers differ, although a field may itself look
like a name with a number. So if all names are generated, the number counts the values that were
bound for the field before.
-/
namespace EntityQuery.Sql

namespace Params

/-! ### Names and numbers -/

theorem underscore_notMem_nat (n : ℕ) : '_' ∉ (Text.nat n).toList := by
  simp [Text.nat]

/-- Where a sign occurs last, a list splits in one way. -/
theorem append_cons_inj_of_last {α : Type} {a : α} {xs ys rest rest' : List α}
    (hrest : a ∉ rest) (hrest' : a ∉ rest') (h : xs ++ a :: rest = ys ++ a :: rest') :
    xs = ys ∧ rest = rest' := by
  rcases List.append_eq_append_iff.1 h with ⟨between, rfl, hlater⟩ | ⟨between, rfl, hlater⟩
  · cases between with
    | nil => exact ⟨(List.append_nil xs).symm, (List.cons.inj hlater).2⟩
    | cons b between =>
        have hmem : a ∈ rest := (List.cons.inj hlater).2 ▸ by simp
        exact absurd hmem hrest
  · cases between with
    | nil => exact ⟨List.append_nil ys, (List.cons.inj hlater).2.symm⟩
    | cons b between =>
        have hmem : a ∈ rest' := (List.cons.inj hlater).2 ▸ by simp
        exact absurd hmem hrest'

/-- A name can be read from its end: between the last two underscores stands the number, and before
them the field, whatever underscores and digits it has. -/
theorem fieldName_eq_iff {field field' : String} {n n' : ℕ} :
    fieldName field n = fieldName field' n' ↔ field = field' ∧ n = n' := by
  constructor
  · intro h
    have htexts : "@_" ++ (field ++ "_" ++ Text.nat n) ++ "_" =
        "@_" ++ (field' ++ "_" ++ Text.nat n') ++ "_" := by
      simpa [fieldName, String.append_assoc] using h
    have hsigns : field.toList ++ '_' :: (Text.nat n).toList =
        field'.toList ++ '_' :: (Text.nat n').toList := by
      rw [String.append_left_inj, String.append_right_inj] at htexts
      simpa using congrArg String.toList htexts
    obtain ⟨hfield, -⟩ :=
      append_cons_inj_of_last (underscore_notMem_nat n) (underscore_notMem_nat n') hsigns
    obtain rfl := String.toList_inj.1 hfield
    exact ⟨rfl, fieldName_inj h⟩
  · rintro ⟨rfl, rfl⟩
    rfl

/-- The number of a new name is the least one whose name is free. -/
theorem isLeast_freeNumber (params : Params) (field : String) :
    IsLeast {n | fieldName field n ∉ params.names} (params.freeNumber field) := by
  constructor
  · show fieldName field (params.freeNumber field) ∉ params.names
    rw [← contains_iff, contains_freeNumber]
    exact Bool.false_ne_true
  · intro n hfree
    by_contra hless
    exact hfree (contains_iff.1 (contains_of_lt_freeNumber (Nat.lt_of_not_le hless)))

/-- A value is found under a name if it is stored there and no other value is. -/
theorem get?_eq_some_iff {params : Params} (hnodup : params.names.Nodup) {name : String}
    {value : Value} : params.get? name = some value ↔ (name, value) ∈ params.entries := by
  rw [get?, List.lookup_eq_some_iff]
  constructor
  · rintro ⟨before, after, hentries, -⟩
    simp [hentries]
  · intro hmem
    obtain ⟨before, after, hentries⟩ := List.append_of_mem hmem
    refine ⟨before, after, hentries, fun entry hbefore => ?_⟩
    have hother : name ∉ before.map (·.1) := by
      rw [names, hentries, List.map_append, List.map_cons] at hnodup
      exact fun hearlier => (List.nodup_append.1 hnodup).2.2 name hearlier name (by simp) rfl
    rw [bne_iff_ne]
    rintro rfl
    exact hother (List.mem_map_of_mem hbefore)

/-! ### Calls -/

/-- A call on parameters. -/
inductive Call where
  | bind (field : String) (value : Value)
  | insert (name : String) (value : Value)
  /-- Takes over what other parameters hold. -/
  | extend (other : Params)

/-- The answer to a call, with the name that was bound if there is one, and the parameters after
it. A name that is refused changes nothing. -/
def run (params : Params) : Call → Except QueryError (Option String) × Params
  | .bind field value => (.ok (some (params.bind field value).1), (params.bind field value).2)
  | .insert name value =>
      match params.insert name value with
      | .ok params => (.ok none, params)
      | .error e => (.error e, params)
  | .extend other =>
      ((params.extend other.entries).1.map fun _ => none, (params.extend other.entries).2)

/-- The parameters after several calls. -/
def after (params : Params) (calls : List Call) : Params :=
  calls.foldl (fun params call => (params.run call).2) params

theorem after_append (params : Params) (earlier later : List Call) :
    params.after (earlier ++ later) = (params.after earlier).after later :=
  List.foldl_append

theorem after_concat (params : Params) (calls : List Call) (call : Call) :
    params.after (calls ++ [call]) = ((params.after calls).run call).2 :=
  params.after_append calls [call]

/-- The first entries of the second parameters are those of the first, and further ones have not
brought a name twice. -/
structure Grows (params later : Params) : Prop where
  entries : params.entries <+: later.entries
  nodup : params.names.Nodup → later.names.Nodup

namespace Grows

variable {params next later : Params}

theorem refl (params : Params) : params.Grows params := ⟨List.prefix_rfl, id⟩

theorem trans (h : params.Grows next) (h' : next.Grows later) : params.Grows later :=
  ⟨h.entries.trans h'.entries, h'.nodup ∘ h.nodup⟩

/-- An entry is added under a free name. -/
theorem concat {name : String} (hfree : name ∉ params.names) (value : Value) :
    params.Grows ⟨params.entries ++ [(name, value)]⟩ := by
  refine ⟨List.prefix_append _ _, fun hnodup => ?_⟩
  have hnames : (Params.mk (params.entries ++ [(name, value)])).names =
      params.names.concat name := by
    simp [names]
  rw [hnames]
  exact hnodup.concat hfree

theorem bind (params : Params) (field : String) (value : Value) :
    params.Grows (params.bind field value).2 :=
  concat (params.bind_fresh field value) value

theorem insert {name : String} {value : Value} (h : params.insert name value = .ok later) :
    params.Grows later := by
  obtain ⟨hfree, rfl⟩ := insert_eq_ok_iff.1 h
  exact concat hfree value

/-- What was taken over before a name was refused stays. -/
theorem extend (params : Params) (entries : List (String × Value)) :
    params.Grows (params.extend entries).2 := by
  induction entries generalizing params with
  | nil => exact refl params
  | cons entry entries ih =>
      rw [Params.extend]
      split
      · next next hinsert => exact (insert hinsert).trans (ih next)
      · exact refl params

theorem run (params : Params) (call : Call) : params.Grows (params.run call).2 := by
  cases call with
  | bind field value => exact bind params field value
  | insert name value =>
      rw [Params.run]
      split
      · next next hinsert => exact insert hinsert
      · exact refl params
  | extend other => exact extend params other.entries

/-- Calls, whether they fail or not, only add entries. -/
theorem after (params : Params) (calls : List Call) : params.Grows (params.after calls) := by
  induction calls generalizing params with
  | nil => exact refl params
  | cons call calls ih => exact (run params call).trans (ih _)

end Grows

theorem nodup_names_after (calls : List Call) : (empty.after calls).names.Nodup :=
  (Grows.after empty calls).nodup List.nodup_nil

/-- If the numbers below a count are those in use, the count is the next number. -/
theorem freeNumber_eq {params : Params} {field : String} {count : ℕ}
    (h : ∀ n, fieldName field n ∈ params.names ↔ n < count) : params.freeNumber field = count := by
  refine (params.isLeast_freeNumber field).unique ⟨?_, fun n hfree => ?_⟩
  · exact fun hmem => absurd ((h count).1 hmem) (Nat.lt_irrefl count)
  · exact Nat.le_of_not_lt fun hless => hfree ((h n).2 hless)

/-- Where all names are generated, a field has used the numbers below the count of its values. -/
theorem fieldName_mem_names_after_binds (bound : List (String × Value)) (field : String) (n : ℕ) :
    fieldName field n ∈ (empty.after (bound.map fun b => .bind b.1 b.2)).names ↔
      n < (bound.map (·.1)).count field := by
  induction bound using List.reverseRecOn generalizing field n with
  | nil => simp [after]
  | append_singleton bound last ih =>
      have hnumber := freeNumber_eq (ih last.1)
      rw [List.map_append, List.map_singleton, after_concat, run, names_bind, bind, hnumber,
        List.mem_append, ih, List.mem_singleton, fieldName_eq_iff, List.map_append,
        List.count_append, List.map_singleton, List.count_singleton]
      by_cases hsame : last.1 = field
      · simp only [hsame, true_and, beq_self_eq_true, if_true]
        omega
      · simp [hsame, Ne.symm hsame]

end Params

/-! ### An index of the names -/

/-- Parameters whose names in use are kept apart from the entries, so that a name is looked up
without going through them. -/
structure IndexedParams where
  entries : List (String × Value)
  reserved : Finset String

namespace IndexedParams

open Params (fieldName)

def empty : IndexedParams := ⟨[], ∅⟩

/-- Stores a value, and reserves its name. -/
def add (params : IndexedParams) (name : String) (value : Value) : IndexedParams :=
  ⟨params.entries ++ [(name, value)], Insert.insert name params.reserved⟩

/-- A field has more names than can be reserved. -/
theorem exists_free (reserved : Finset String) (field : String) :
    ∃ n, fieldName field n ∉ reserved := by
  have hnames : Function.Injective (fieldName field) := fun _ _ h => Params.fieldName_inj h
  obtain ⟨_, ⟨n, rfl⟩, hfree⟩ :=
    (Set.infinite_range_of_injective hnames).exists_notMem_finset reserved
  exact ⟨n, hfree⟩

/-- Binds a value for a field. The numbers are tried from zero upwards until one has a free
name. -/
def bind (params : IndexedParams) (field : String) (value : Value) : String × IndexedParams :=
  let name := fieldName field (Nat.find (exists_free params.reserved field))
  (name, params.add name value)

/-- Adds a value under a name, unless the name is reserved. -/
def insert (params : IndexedParams) (name : String) (value : Value) :
    Except QueryError IndexedParams :=
  if name ∈ params.reserved then .error (.compile (.reservedParameter name))
  else .ok (params.add name value)

/-- Adds entries in turn up to the first whose name is reserved. -/
def extend (params : IndexedParams) : List (String × Value) → Except QueryError Unit × IndexedParams
  | [] => (.ok (), params)
  | (name, value) :: rest =>
      match params.insert name value with
      | .ok params => params.extend rest
      | .error e => (.error e, params)

/-- The answer to a call, and the parameters after it. -/
def run (params : IndexedParams) :
    Params.Call → Except QueryError (Option String) × IndexedParams
  | .bind field value => (.ok (some (params.bind field value).1), (params.bind field value).2)
  | .insert name value =>
      match params.insert name value with
      | .ok params => (.ok none, params)
      | .error e => (.error e, params)
  | .extend other =>
      ((params.extend other.entries).1.map fun _ => none, (params.extend other.entries).2)

/-- The parameters after several calls. -/
def after (params : IndexedParams) (calls : List Params.Call) : IndexedParams :=
  calls.foldl (fun params call => (params.run call).2) params

end IndexedParams

namespace Params

/-- The parameters with an index of their names. -/
def indexed (params : Params) : IndexedParams := ⟨params.entries, params.names.toFinset⟩

theorem indexed_concat (params : Params) (name : String) (value : Value) :
    indexed ⟨params.entries ++ [(name, value)]⟩ = params.indexed.add name value := by
  have hnames : names ⟨params.entries ++ [(name, value)]⟩ = params.names ++ [name] := by
    simp [names]
  rw [indexed, hnames, List.toFinset_append, Finset.union_comm]
  rfl

/-- The upward search for a free number ends at the number of the new name. -/
theorem find_eq_freeNumber (params : Params) (field : String) :
    Nat.find (IndexedParams.exists_free params.indexed.reserved field) =
      params.freeNumber field := by
  have hfree (n : ℕ) :
      fieldName field n ∉ params.indexed.reserved ↔ fieldName field n ∉ params.names := by
    rw [indexed, List.mem_toFinset]
  obtain ⟨hmem, hleast⟩ := params.isLeast_freeNumber field
  refine (Nat.find_eq_iff _).2 ⟨(hfree _).2 hmem, fun n hless hn => ?_⟩
  exact Nat.not_le_of_lt hless (hleast ((hfree n).1 hn))

theorem bind_indexed (params : Params) (field : String) (value : Value) :
    params.indexed.bind field value =
      ((params.bind field value).1, (params.bind field value).2.indexed) := by
  rw [IndexedParams.bind, find_eq_freeNumber, bind, indexed_concat]

theorem insert_indexed (params : Params) (name : String) (value : Value) :
    params.indexed.insert name value = (params.insert name value).map indexed := by
  have hreserved : name ∈ params.indexed.reserved ↔ params.contains name = true := by
    rw [contains_iff, indexed, List.mem_toFinset]
  unfold IndexedParams.insert insert
  simp only [hreserved]
  split
  · rfl
  · exact congrArg Except.ok (params.indexed_concat name value).symm

theorem extend_indexed (params : Params) (entries : List (String × Value)) :
    params.indexed.extend entries =
      ((params.extend entries).1, (params.extend entries).2.indexed) := by
  induction entries generalizing params with
  | nil => rfl
  | cons entry entries ih =>
      rw [IndexedParams.extend, extend, insert_indexed]
      cases params.insert entry.1 entry.2 with
      | ok next => exact ih next
      | error e => rfl

/-- An index changes no answer, and it goes on listing the names in use. -/
theorem run_indexed (params : Params) (call : Call) :
    params.indexed.run call = ((params.run call).1, (params.run call).2.indexed) := by
  cases call with
  | bind field value => rw [IndexedParams.run, bind_indexed, run]
  | insert name value =>
      rw [IndexedParams.run, run, insert_indexed]
      cases params.insert name value <;> rfl
  | extend other => rw [IndexedParams.run, extend_indexed, run]

theorem after_indexed (params : Params) (calls : List Call) :
    params.indexed.after calls = (params.after calls).indexed := by
  induction calls generalizing params with
  | nil => rfl
  | cons call calls ih =>
      show ((params.indexed.run call).2).after calls = _
      rw [run_indexed]
      exact ih _

/-- After any calls on new parameters, failed ones included, no name is given twice, and an index of
the names that is kept by the calls themselves lists exactly the names of the entries. Later calls
leave every entry in its place and every value under its name. A value that is bound next gets the
least number whose name is free; if all values were bound, that is the count of the values that were
bound for the same field, since names of different fields or numbers differ. -/
theorem names_of_calls :
    (∀ calls : List Call,
      (empty.after calls).names.Nodup ∧
      IndexedParams.empty.after calls =
        ⟨(empty.after calls).entries, (empty.after calls).names.toFinset⟩ ∧
      (∀ name value, (empty.after calls).get? name = some value ↔
        (name, value) ∈ (empty.after calls).entries) ∧
      (∀ later, (empty.after calls).entries <+: (empty.after (calls ++ later)).entries ∧
        ∀ name value, (empty.after calls).get? name = some value →
          (empty.after (calls ++ later)).get? name = some value) ∧
      ∀ field value, ∃ n, IsLeast {n | fieldName field n ∉ (empty.after calls).names} n ∧
        ((empty.after calls).bind field value).1 = fieldName field n ∧
        ((empty.after calls).bind field value).2.entries =
          (empty.after calls).entries ++ [(fieldName field n, value)]) ∧
    (∀ (bound : List (String × Value)) (field : String) (value : Value),
      ((empty.after (bound.map fun b => .bind b.1 b.2)).bind field value).1 =
        fieldName field ((bound.map (·.1)).count field)) ∧
    ∀ field field' n n', fieldName field n = fieldName field' n' ↔ field = field' ∧ n = n' := by
  refine ⟨fun calls => ?_, fun bound field value => ?_, fun _ _ _ _ => fieldName_eq_iff⟩
  · have hnodup := nodup_names_after calls
    refine ⟨hnodup, empty.after_indexed calls, fun _ _ => get?_eq_some_iff hnodup,
      fun later => ?_, fun field value => ?_⟩
    · have hgrows := Grows.after (empty.after calls) later
      rw [← after_append] at hgrows
      exact ⟨hgrows.entries, fun _ _ => get?_of_prefix hgrows.entries⟩
    · exact ⟨_, (empty.after calls).isLeast_freeNumber field, rfl, rfl⟩
  · rw [bind, freeNumber_eq (fieldName_mem_names_after_binds bound field)]

/-- Two of these calls are refused: a name that a call before has generated, and one among those
taken over. -/
def sampleCalls : List Call :=
  [.bind "x" (.int32 1), .insert "@_x_1_" (.int32 2), .insert "@_x_0_" (.int32 3),
    .extend ⟨[("@_y_0_", .null), ("@_x_1_", .null), ("@_z_0_", .null)]⟩, .bind "x" (.int32 4)]

theorem names_of_calls_sample :
    (empty.after sampleCalls).entries =
      [("@_x_0_", .int32 1), ("@_x_1_", .int32 2), ("@_y_0_", .null), ("@_x_2_", .int32 4)] ∧
    (empty.after (sampleCalls ++ [.bind "x_1" .null])).get? "@_x_1_" = some (.int32 2) :=
  ⟨by decide +kernel,
    ((names_of_calls.1 sampleCalls).2.2.2.1 [.bind "x_1" .null]).2 _ _ (by decide +kernel)⟩

end Params

end EntityQuery.Sql
