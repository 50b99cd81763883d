import Mathlib.Data.List.Forall2
import Mathlib.Data.List.Zip

/-!
# Results

How a result that is no error has come about, and the partners of an element in lists that are
related element by element.
-/
namespace EntityQuery

theorem except_bind_eq_ok_iff {ε α β : Type} {x : Except ε α} {f : α → Except ε β} {y : β} :
    (x >>= f) = .ok y ↔ ∃ a, x = .ok a ∧ f a = .ok y := by
  constructor
  · intro h
    rcases x with e | a
    · cases h
    · exact ⟨a, rfl, h⟩
  · rintro ⟨a, rfl, hy⟩
    exact hy

theorem except_map_eq_ok_iff {ε α β : Type} {x : Except ε α} {f : α → β} {y : β} :
    f <$> x = .ok y ↔ ∃ a, x = .ok a ∧ f a = y := by
  constructor
  · intro h
    rcases x with e | a
    · cases h
    · exact ⟨a, rfl, Except.ok.inj h⟩
  · rintro ⟨a, rfl, rfl⟩
    rfl

theorem except_mapError_eq_ok_iff {ε ε' α : Type} {f : ε → ε'} {x : Except ε α} {a : α} :
    x.mapError f = .ok a ↔ x = .ok a := by
  cases x <;> simp [Except.mapError]

theorem except_exists_of_isOk {ε α : Type} {x : Except ε α} (h : x.isOk = true) :
    ∃ a, x = .ok a := by
  rcases x with e | a
  · cases h
  · exact ⟨a, rfl⟩

/-- What is known of the result of a computation that succeeds. -/
theorem except_exists_of_toOption_map {ε α β : Type} {x : Except ε α} {f : α → β} {y : β}
    (h : x.toOption.map f = some y) : ∃ a, x = .ok a ∧ f a = y := by
  cases x with
  | error e => cases h
  | ok a => exact ⟨a, rfl, Option.some.inj h⟩

section

variable {α β : Type} {R : α → β → Prop} {xs : List α} {ys : List β}

/-- The partner at the same place. -/
theorem forall₂_exists_zip_right (h : List.Forall₂ R xs ys) :
    ∀ x ∈ xs, ∃ y, (x, y) ∈ xs.zip ys ∧ R x y := by
  induction h with
  | nil => simp
  | cons hfirst _ ih =>
      refine List.forall_mem_cons.2 ⟨⟨_, List.mem_cons_self, hfirst⟩, fun x hmem => ?_⟩
      exact (ih x hmem).imp fun y hy => ⟨List.mem_cons_of_mem _ hy.1, hy.2⟩

theorem forall₂_exists_zip_left (h : List.Forall₂ R xs ys) :
    ∀ y ∈ ys, ∃ x, (x, y) ∈ xs.zip ys ∧ R x y := by
  intro y hmem
  obtain ⟨x, hplace, hR⟩ := forall₂_exists_zip_right h.flip y hmem
  rw [← List.zip_swap, List.mem_map] at hplace
  obtain ⟨_, hplace, hswap⟩ := hplace
  cases hswap
  exact ⟨_, hplace, hR⟩

theorem forall₂_exists_right (h : List.Forall₂ R xs ys) : ∀ x ∈ xs, ∃ y ∈ ys, R x y := by
  intro x hmem
  obtain ⟨y, hplace, hR⟩ := forall₂_exists_zip_right h x hmem
  exact ⟨y, (List.of_mem_zip hplace).2, hR⟩

theorem forall₂_exists_left (h : List.Forall₂ R xs ys) : ∀ y ∈ ys, ∃ x ∈ xs, R x y := by
  intro y hmem
  obtain ⟨x, hplace, hR⟩ := forall₂_exists_zip_left h y hmem
  exact ⟨x, (List.of_mem_zip hplace).1, hR⟩

/-- Lists whose partners look alike are alike. -/
theorem map_eq_map_of_forall₂ {γ : Type} {f : α → γ} {g : β → γ} (h : List.Forall₂ R xs ys)
    (hsame : ∀ x y, R x y → f x = g y) : xs.map f = ys.map g := by
  induction h with
  | nil => rfl
  | cons hfirst _ ih => rw [List.map_cons, List.map_cons, hsame _ _ hfirst, ih]

end

end EntityQuery
