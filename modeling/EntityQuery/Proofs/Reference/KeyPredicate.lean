import EntityQuery.Proofs.Reference.Derive
import EntityQuery.Proofs.Sql.Meaning

/-!
# Key predicates

The key predicate of a lookup is a disjunction over the keys, each a conjunction of equations
between a field of the target and a component of the key. No conjunction has an OR inside, so the
flat chain groups as the predicate does, and it holds of a row if and only if the row has one of the
keys.
-/
namespace EntityQuery

open Sql (Truth)

namespace Expr

variable {D : Dialect} {value : FieldRef → Option Value} {es : List Expr} {e : Expr}

/-- What is closed under a connective and holds of several expressions holds of them joined. -/
theorem join?_induction (op : Expr → Expr → Expr) {P : Expr → Prop}
    (hop : ∀ lhs rhs, P lhs → P rhs → P (op lhs rhs)) (hes : ∀ x ∈ es, P x)
    (h : join? op es = some e) : P e := by
  cases es with
  | nil => cases h
  | cons first rest =>
      obtain ⟨hfirst, hrest⟩ := List.forall_mem_cons.1 hes
      obtain rfl : rest.foldl op first = e := Option.some.inj h
      clear h hes
      induction rest generalizing first with
      | nil => exact hfirst
      | cons next rest ih =>
          obtain ⟨hnext, hlater⟩ := List.forall_mem_cons.1 hrest
          exact ih (op first next) (hop first next hfirst hnext) hlater

/-- What a connective puts in a row is put in a row for several expressions joined. -/
theorem flatMap_join? {α : Type} (op : Expr → Expr → Expr) (f : Expr → List α)
    (hop : ∀ lhs rhs, f (op lhs rhs) = f lhs ++ f rhs) (h : join? op es = some e) :
    f e = es.flatMap f := by
  cases es with
  | nil => cases h
  | cons first rest =>
      obtain rfl : rest.foldl op first = e := Option.some.inj h
      clear h
      induction rest generalizing first with
      | nil => simp
      | cons next rest ih =>
          rw [List.foldl_cons, ih, List.flatMap_cons, hop, List.flatMap_cons, List.flatMap_cons,
            List.append_assoc]

theorem meaning?_and_eq_true_iff {lhs rhs : Expr} :
    (Expr.and lhs rhs).meaning? D value = some .true ↔
      lhs.meaning? D value = some .true ∧ rhs.meaning? D value = some .true := by
  rcases hl : lhs.meaning? D value with _ | v <;> rcases hr : rhs.meaning? D value with _ | w
  all_goals simp [meaning?, hl, hr, Truth.and_eq_true_iff]

theorem meaning?_or_eq_true_iff {lhs rhs : Expr}
    (h : ((Expr.or lhs rhs).meaning? D value).isSome = true) :
    (Expr.or lhs rhs).meaning? D value = some .true ↔
      lhs.meaning? D value = some .true ∨ rhs.meaning? D value = some .true := by
  rcases hl : lhs.meaning? D value with _ | v <;> rcases hr : rhs.meaning? D value with _ | w
  all_goals simp [meaning?, hl, hr, Truth.or_eq_true_iff] at h ⊢

/-- A conjunction is true if and only if all its parts are. -/
theorem meaning?_allOf (h : allOf? es = some e) :
    e.meaning? D value = some .true ↔ ∀ x ∈ es, x.meaning? D value = some .true := by
  cases es with
  | nil => cases h
  | cons first rest =>
      obtain rfl : rest.foldl .and first = e := Option.some.inj h
      clear h
      induction rest generalizing first with
      | nil => simp
      | cons next rest ih =>
          rw [List.foldl_cons, ih, List.forall_mem_cons, meaning?_and_eq_true_iff, and_assoc,
            List.forall_mem_cons, List.forall_mem_cons]

/-- The first part of a disjunction that has a meaning has one. -/
theorem isSome_of_foldl_or {first : Expr} {rest : List Expr}
    (h : ((rest.foldl .or first).meaning? D value).isSome = true) :
    (first.meaning? D value).isSome = true := by
  induction rest generalizing first with
  | nil => exact h
  | cons next rest ih =>
      have hor : ((Expr.or first next).meaning? D value).isSome = true := ih h
      rcases hfirst : first.meaning? D value with _ | v
      · simp [meaning?, hfirst] at hor
      · rfl

/-- A disjunction that has a meaning is true if and only if one of its parts is. -/
theorem meaning?_anyOf (h : anyOf? es = some e) (hsome : (e.meaning? D value).isSome = true) :
    e.meaning? D value = some .true ↔ ∃ x ∈ es, x.meaning? D value = some .true := by
  cases es with
  | nil => cases h
  | cons first rest =>
      obtain rfl : rest.foldl .or first = e := Option.some.inj h
      clear h
      induction rest generalizing first with
      | nil => simp
      | cons next rest ih =>
          rw [List.foldl_cons] at hsome ⊢
          rw [ih _ hsome, List.exists_mem_cons_iff,
            meaning?_or_eq_true_iff (isSome_of_foldl_or hsome), or_assoc,
            List.exists_mem_cons_iff, List.exists_mem_cons_iff]

end Expr

/-- What the fields of a schema hold in a row, given by columns. -/
def Schema.rowValue? (schema : Schema) (row : String → Value) (ref : FieldRef) : Option Value :=
  (schema.field? ref.name).map fun field => row field.column

/-- The row has the values in the columns of the fields, component by component. -/
def Schema.RowHas (schema : Schema) (D : Dialect) (row : String → Value) (names : List String)
    (values : List Value) : Prop :=
  List.Forall₂ (fun name value => ∃ field, schema.field? name = some field ∧
    D.compare .eq (row field.column) value.bound = .true) names values

namespace Lookup

variable {D : Dialect} {schema : Schema} {row : String → Value}

/-- An equation between a field of the root and a value that is not null. -/
def IsEquation (e : Expr) : Prop :=
  ∃ name value, value.isNull = false ∧ e = .eq (.rootField name) (.literal value)

/-- The equations between fields and the components of a key. -/
def equations (names : List String) (key : List Value) : List Expr :=
  (names.zip key).map fun pair => .eq (.rootField pair.1) (.literal pair.2)

theorem meaning?_equation {name : String} {value : Value} (hnull : value.isNull = false) :
    (Expr.eq (.rootField name) (.literal value)).meaning? D (schema.rowValue? row) = some .true ↔
      ∃ field, schema.field? name = some field ∧
        D.compare .eq (row field.column) value.bound = .true := by
  rcases hfield : schema.field? name with _ | field
  · simp [Expr.eq, Expr.rootField, FieldRef.ofRoot, Expr.meaning?, Expr.leafMeaning?,
      Schema.rowValue?, hfield]
  · simp [Expr.eq, Expr.rootField, FieldRef.ofRoot, Expr.meaning?, Expr.leafMeaning?,
      Schema.rowValue?, hfield, hnull]

/-- All equations are true if and only if the row has the values. -/
theorem equations_true_iff {names : List String} {key : List Value}
    (hlength : names.length = key.length) (hnull : ∀ value ∈ key, value.isNull = false) :
    (∀ e ∈ equations names key, e.meaning? D (schema.rowValue? row) = some .true) ↔
      schema.RowHas D row names key := by
  unfold equations Schema.RowHas
  rw [List.forall_mem_map, List.forall₂_iff_zip, and_iff_right hlength]
  constructor
  · intro h name value hmem
    exact (meaning?_equation (hnull value (List.of_mem_zip hmem).2)).1 (h _ hmem)
  · intro h pair hmem
    exact (meaning?_equation (hnull pair.2 (List.of_mem_zip hmem).2)).2 (h hmem)

/-- Keys that the fields of a lookup can have. -/
structure KeysFit (lookup : Lookup) : Prop where
  length_eq : ∀ key, some key ∈ lookup.itemKeys → lookup.foreignKeys.length = key.length
  not_null : ∀ key, some key ∈ lookup.itemKeys → ∀ value ∈ key, value.isNull = false

variable {lookup : Lookup} {e : Expr}

theorem isEquation_of_mem {key : List Value} (hnull : ∀ value ∈ key, value.isNull = false)
    {names : List String} {leaf : Expr} (h : leaf ∈ equations names key) : IsEquation leaf := by
  obtain ⟨pair, hmem, rfl⟩ := List.mem_map.1 h
  exact ⟨pair.1, pair.2, hnull pair.2 (List.of_mem_zip hmem).2, rfl⟩

theorem leaves_equations (names : List String) (key : List Value) :
    (equations names key).flatMap Expr.leaves = equations names key := by
  unfold equations
  generalize names.zip key = pairs
  induction pairs with
  | nil => rfl
  | cons pair pairs ih => rw [List.map_cons, List.flatMap_cons, ih]; rfl

/-- The leaves of the key predicate are the equations of the keys. -/
theorem mem_leaves_iff (h : lookup.predicate? = some e) {leaf : Expr} :
    leaf ∈ e.leaves ↔ ∃ key ∈ lookup.distinctKeys, leaf ∈ equations lookup.foreignKeys key := by
  rw [Expr.flatMap_join? .or Expr.leaves (fun _ _ => rfl) h, List.mem_flatMap]
  have hkey (key : List Value) (p : Expr) (hp : lookup.keyPredicate? key = some p) :
      p.leaves = equations lookup.foreignKeys key := by
    have hparts : Expr.allOf? (equations lookup.foreignKeys key) = some p := hp
    rw [Expr.flatMap_join? .and Expr.leaves (fun _ _ => rfl) hparts, leaves_equations]
  constructor
  · rintro ⟨p, hp, hleaf⟩
    obtain ⟨key, hmem, hpredicate⟩ := List.mem_filterMap.1 hp
    exact ⟨key, hmem, hkey key p hpredicate ▸ hleaf⟩
  · rintro ⟨key, hmem, hleaf⟩
    rcases hp : Expr.allOf? (equations lookup.foreignKeys key) with _ | p
    · cases hparts : equations lookup.foreignKeys key with
      | nil => simp [hparts] at hleaf
      | cons first rest => rw [hparts] at hp; cases hp
    · exact ⟨p, List.mem_filterMap.2 ⟨key, hmem, hp⟩, (hkey key p hp).symm ▸ hleaf⟩

theorem isEquation_of_mem_leaves (h : lookup.predicate? = some e) (hfit : lookup.KeysFit)
    {leaf : Expr} (hleaf : leaf ∈ e.leaves) : IsEquation leaf := by
  obtain ⟨key, hmem, hleaf⟩ := (mem_leaves_iff h).1 hleaf
  exact isEquation_of_mem (hfit.not_null key (mem_itemKeys_of_mem_distinctKeys hmem)) hleaf

/-- The key predicate groups as it is flattened. -/
theorem andClosed_predicate? (h : lookup.predicate? = some e) : e.AndClosed := by
  refine Expr.join?_induction .or (P := Expr.AndClosed) (fun _ _ hl hr => ⟨hl, hr⟩) ?_ h
  intro p hp
  obtain ⟨key, -, hpredicate⟩ := List.mem_filterMap.1 hp
  have hand : p.hasOr false = false ∧ p.AndClosed := by
    refine Expr.join?_induction .and (P := fun e => e.hasOr false = false ∧ e.AndClosed)
      (fun lhs rhs hl hr => ⟨?_, hl.1, hr.1, hl.2, hr.2⟩) ?_ hpredicate
    · simp [Expr.hasOr, hl.1, hr.1]
    · intro x hx
      obtain ⟨pair, -, rfl⟩ := List.mem_map.1 hx
      exact ⟨rfl, trivial⟩
  exact hand.2

/-- There is an equation for every key, since there is a field. -/
theorem exists_keyPredicate {key : List Value} (hne : lookup.foreignKeys ≠ [])
    (hlength : lookup.foreignKeys.length = key.length) :
    ∃ p, lookup.keyPredicate? key = some p := by
  unfold keyPredicate?
  cases hnames : lookup.foreignKeys with
  | nil => exact absurd hnames hne
  | cons name names =>
      cases key with
      | nil => simp [hnames] at hlength
      | cons value values => exact ⟨_, rfl⟩

/-- The key predicate is true of a row if and only if the row has one of the keys. -/
theorem predicate?_true_iff (h : lookup.predicate? = some e) (hfit : lookup.KeysFit)
    (hne : lookup.foreignKeys ≠ [])
    (hsome : (e.meaning? D (schema.rowValue? row)).isSome = true) :
    e.meaning? D (schema.rowValue? row) = some .true ↔
      ∃ key ∈ lookup.distinctKeys, schema.RowHas D row lookup.foreignKeys key := by
  rw [Expr.meaning?_anyOf h hsome]
  have hkey : ∀ key ∈ lookup.distinctKeys, ∀ p, lookup.keyPredicate? key = some p →
      (p.meaning? D (schema.rowValue? row) = some .true ↔
        schema.RowHas D row lookup.foreignKeys key) := by
    intro key hmem p hp
    have hitem := mem_itemKeys_of_mem_distinctKeys hmem
    have hparts : Expr.allOf? (equations lookup.foreignKeys key) = some p := hp
    rw [Expr.meaning?_allOf hparts,
      equations_true_iff (hfit.length_eq key hitem) (hfit.not_null key hitem)]
  constructor
  · rintro ⟨p, hp, htrue⟩
    obtain ⟨key, hmem, hpredicate⟩ := List.mem_filterMap.1 hp
    exact ⟨key, hmem, (hkey key hmem p hpredicate).1 htrue⟩
  · rintro ⟨key, hmem, hhas⟩
    have hlength := hfit.length_eq key (mem_itemKeys_of_mem_distinctKeys hmem)
    obtain ⟨p, hp⟩ := exists_keyPredicate hne hlength
    exact ⟨p, List.mem_filterMap.2 ⟨key, hmem, hp⟩, (hkey key hmem p hp).2 hhas⟩

end Lookup

end EntityQuery
