import EntityQuery.Sql.Scope
import Mathlib.Order.Defs.Unbundled

/-!
# Construction steps

How to reason about construction steps without opening them: a run of two steps in turn, relations
between the scopes before and after a step, and steps that always succeed or always fail.
-/
namespace EntityQuery.Sql.Build

variable {α β : Type}

@[simp] theorem runOn_map (f : α → β) (step : Build α) (s : Scope) :
    (f <$> step).runOn s = ((step.runOn s).1.map f, (step.runOn s).2) := by
  rw [map_eq_pure_bind, runOn_bind]
  rcases step.runOn s with ⟨_ | x, t⟩ <;> rfl

theorem runOn_map_eq_ok {f : α → β} {step : Build α} {s t : Scope} {y : β} :
    (f <$> step).runOn s = (.ok y, t) ↔ ∃ x, step.runOn s = (.ok x, t) ∧ f x = y := by
  rw [runOn_map]
  rcases step.runOn s with ⟨_ | x, u⟩
  · simp [Except.map]
  · constructor
    · intro h
      cases h
      exact ⟨x, rfl, rfl⟩
    · rintro ⟨x, h, rfl⟩
      cases h
      rfl

/-- Two steps succeed in turn if the first does and the second does on what it leaves. -/
theorem runOn_bind_eq_ok {step : Build α} {next : α → Build β} {s t : Scope} {y : β} :
    (step >>= next).runOn s = (.ok y, t) ↔
      ∃ x u, step.runOn s = (.ok x, u) ∧ (next x).runOn u = (.ok y, t) := by
  rw [runOn_bind]
  constructor
  · intro h
    rcases hstep : step.runOn s with ⟨_ | x, u⟩
    · simp [hstep] at h
    · rw [hstep] at h
      exact ⟨x, u, rfl, h⟩
  · rintro ⟨x, u, hstep, hnext⟩
    rw [hstep]
    exact hnext

theorem exists_of_isOk {step : Build α} {s : Scope} (h : (step.runOn s).1.isOk = true) :
    ∃ x t, step.runOn s = (.ok x, t) := by
  rcases hrun : step.runOn s with ⟨_ | x, t⟩
  · rw [hrun] at h
    cases h
  · exact ⟨x, t, rfl⟩

/-- Whether or not the step succeeds, the scope after it is related to the one before. -/
def Keeps (R : Scope → Scope → Prop) (step : Build α) : Prop := ∀ s, R s (step.runOn s).2

namespace Keeps

variable {R : Scope → Scope → Prop}

theorem of_eq {step : Build α} (h : Keeps R step) {s t : Scope} {x : Except QueryError α}
    (hrun : step.runOn s = (x, t)) : R s t := by
  have hs := h s
  rwa [hrun] at hs

theorem get_bind {next : Scope → Build β} (h : ∀ s, R s ((next s).runOn s).2) :
    Keeps R ((get : Build Scope) >>= next) := by
  intro s
  rw [runOn_bind, runOn_get]
  exact h s

theorem map {step : Build α} (h : Keeps R step) (f : α → β) : Keeps R (f <$> step) := by
  intro s
  rw [runOn_map]
  exact h s

variable [IsPreorder Scope R]

theorem pure (x : α) : Keeps R (Pure.pure x : Build α) := fun s => refl_of R s

theorem throw (e : QueryError) : Keeps R (MonadExcept.throw e : Build α) := fun s => refl_of R s

theorem ofExcept (x : Except QueryError α) : Keeps R (Build.ofExcept x) := fun s => refl_of R s

theorem bind {step : Build α} {next : α → Build β} (hstep : Keeps R step)
    (hnext : ∀ x, Keeps R (next x)) : Keeps R (step >>= next) := by
  intro s
  have hs := hstep s
  rw [runOn_bind]
  rcases hrun : step.runOn s with ⟨_ | x, t⟩
  · rwa [hrun] at hs
  · rw [hrun] at hs
    exact trans_of R hs (hnext x t)

end Keeps

/-- The step succeeds wherever a property holds, and keeps it. -/
def SucceedsOn (P : Scope → Prop) (step : Build α) : Prop :=
  ∀ s, P s → ∃ x t, step.runOn s = (.ok x, t) ∧ P t

/-- The step fails on every scope. -/
def Fails (step : Build α) : Prop := ∀ s, ∃ e t, step.runOn s = (.error e, t)

namespace SucceedsOn

variable {P : Scope → Prop}

theorem pure (x : α) : SucceedsOn P (Pure.pure x : Build α) := fun s hs => ⟨x, s, rfl, hs⟩

theorem ofExcept {x : Except QueryError α} {a : α} (h : x = .ok a) :
    SucceedsOn P (Build.ofExcept x) := by
  intro s hs
  exact ⟨a, s, by rw [runOn_ofExcept, h], hs⟩

theorem bind {step : Build α} {next : α → Build β} (hstep : SucceedsOn P step)
    (hnext : ∀ x, SucceedsOn P (next x)) : SucceedsOn P (step >>= next) := by
  intro s hs
  obtain ⟨x, u, hx, hu⟩ := hstep s hs
  obtain ⟨y, t, hy, ht⟩ := hnext x u hu
  exact ⟨y, t, runOn_bind_eq_ok.2 ⟨x, u, hx, hy⟩, ht⟩

theorem get_bind {next : Scope → Build β}
    (h : ∀ s, P s → ∃ x t, (next s).runOn s = (.ok x, t) ∧ P t) :
    SucceedsOn P ((get : Build Scope) >>= next) := by
  intro s hs
  obtain ⟨x, t, hx, ht⟩ := h s hs
  exact ⟨x, t, runOn_bind_eq_ok.2 ⟨s, s, rfl, hx⟩, ht⟩

end SucceedsOn

theorem Fails.bind {step : Build α} (h : Fails step) (next : α → Build β) :
    Fails (step >>= next) := by
  intro s
  obtain ⟨e, t, he⟩ := h s
  exact ⟨e, t, by rw [runOn_bind, he]⟩

theorem Fails.of_next {next : α → Build β} (h : ∀ x, Fails (next x)) (step : Build α) :
    Fails (step >>= next) := by
  intro s
  rw [runOn_bind]
  rcases step.runOn s with ⟨e | x, t⟩
  · exact ⟨e, t, rfl⟩
  · exact h x t

theorem Fails.not_eq_ok {step : Build α} (h : Fails step) {s t : Scope} {x : α} :
    step.runOn s ≠ (.ok x, t) := by
  intro hrun
  obtain ⟨e, u, he⟩ := h s
  rw [hrun] at he
  cases he

end EntityQuery.Sql.Build
