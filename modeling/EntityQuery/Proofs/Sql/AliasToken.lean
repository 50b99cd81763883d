import EntityQuery.Proofs.Sql.Column
import Mathlib.Order.Basic

/-!
# Alias tokens

Different numbers have different tokens, so in one statement an alias stands for one table only, and
the table of an alias can be found again.
-/
namespace EntityQuery.Sql

/-- The last letter of a token. -/
def lastLetter (n : Nat) : Char := Char.ofNat ('a'.toNat + n % 26)

theorem lastLetter_inj {m n : Nat} (h : lastLetter m = lastLetter n) : m % 26 = n % 26 := by
  have hsame : ∀ i j : Fin 26,
      Char.ofNat ('a'.toNat + i.val) = Char.ofNat ('a'.toNat + j.val) → i = j := by decide
  have hm : m % 26 < 26 := Nat.mod_lt _ (by decide)
  have hn : n % 26 < 26 := Nat.mod_lt _ (by decide)
  exact congrArg Fin.val (hsame ⟨m % 26, hm⟩ ⟨n % 26, hn⟩ h)

theorem letterToken_eq (n : Nat) :
    letterToken n = (if n < 26 then [] else letterToken (n / 26 - 1)) ++ [lastLetter n] := by
  rw [letterToken]
  split <;> rfl

theorem letterToken_ne_nil (n : Nat) : letterToken n ≠ [] := by
  rw [letterToken_eq]
  simp

theorem letterToken_inj {m n : Nat} (h : letterToken m = letterToken n) : m = n := by
  induction m using Nat.strongRecOn generalizing n with
  | ind m ih =>
    rw [letterToken_eq m, letterToken_eq n] at h
    obtain ⟨hinit, hlast⟩ := List.append_inj' h rfl
    have hmod : m % 26 = n % 26 := lastLetter_inj (List.singleton_inj.1 hlast)
    by_cases hm : m < 26
    · by_cases hn : n < 26
      · omega
      · rw [if_pos hm, if_neg hn] at hinit
        exact absurd hinit.symm (letterToken_ne_nil _)
    · by_cases hn : n < 26
      · rw [if_neg hm, if_pos hn] at hinit
        exact absurd hinit (letterToken_ne_nil _)
      · rw [if_neg hm, if_neg hn] at hinit
        have hdiv := ih (m / 26 - 1) (by omega) hinit
        omega

namespace Aliases

theorem token_inj {m n : Nat} (h : token m = token n) : m = n :=
  letterToken_inj (String.ofList_injective h)

/-- The tables under their aliases. -/
def sources (aliases : Aliases) : List (String × String) :=
  aliases.toList.map fun entry => (entry.2, entry.1)

/-- From a number on, the alias of a number leads to the table at its place. -/
theorem lookup_zipIdx (tables : List String) (start i : Nat) :
    ((tables.zipIdx start).map fun entry => (token entry.2, entry.1)).lookup (token (start + i)) =
      tables[i]? := by
  induction tables generalizing start i with
  | nil => rfl
  | cons table tables ih =>
      rw [List.zipIdx_cons, List.map_cons, List.lookup_cons]
      cases i with
      | zero => simp
      | succ i =>
          have hne : (token (start + (i + 1)) == token start) = false := by
            refine beq_false_of_ne fun h => ?_
            have := token_inj h
            omega
          have hih := ih (start + 1) i
          rw [show start + 1 + i = start + (i + 1) by omega] at hih
          rw [hne]
          simpa using hih

/-- An alias leads to the table that it was given to. -/
theorem lookup_sources {aliases : Aliases} {table qualifier : String}
    (h : aliases.get? table = some qualifier) : aliases.sources.lookup qualifier = some table := by
  rw [get?, Option.map_eq_some_iff] at h
  obtain ⟨n, hn, rfl⟩ := h
  have hplace := lookup_zipIdx aliases.tables 0 n
  obtain ⟨hlt, htable, _⟩ := List.idxOf?_eq_some_iff.1 hn
  rw [Nat.zero_add, List.getElem?_eq_getElem hlt, htable] at hplace
  rw [sources, toList, List.map_map]
  exact hplace

end Aliases

end EntityQuery.Sql
