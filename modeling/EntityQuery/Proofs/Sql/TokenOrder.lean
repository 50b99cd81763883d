import EntityQuery.Proofs.Sql.AliasToken
import Mathlib.Data.Char
import Mathlib.Data.List.Shortlex
import Mathlib.Data.Set.Function
import Mathlib.Tactic.Ring

/-!
# The order of alias tokens

The tokens are all the words over the letters a to z, each once, by length and then alphabetically.
A word is read as a number whose digits are the places of its letters in the alphabet. Digits run
from 1 to 26 and there is no zero, so every number has one word only, and a longer word is a greater
number. The token of `n` is the word of `n + 1`.
-/
namespace EntityQuery.Sql

/-- A letter of the alphabet that tokens are written in. -/
def IsLetter (c : Char) : Prop := 'a' ≤ c ∧ c ≤ 'z'

/-- The place of a letter in the alphabet, counted from one. -/
def letterPlace (c : Char) : ℕ := c.toNat - 'a'.toNat + 1

/-- The number that letters write, with their places as its digits. -/
def letterNumber : List Char → ℕ
  | [] => 0
  | c :: cs => letterPlace c * 26 ^ cs.length + letterNumber cs

/-! ### Letters -/

theorem isLetter_iff {c : Char} : IsLetter c ↔ 97 ≤ c.toNat ∧ c.toNat ≤ 122 := Iff.rfl

theorem letterPlace_eq (c : Char) : letterPlace c = c.toNat - 97 + 1 := rfl

theorem letterPlace_bounds {c : Char} (h : IsLetter c) :
    1 ≤ letterPlace c ∧ letterPlace c ≤ 26 := by
  rw [isLetter_iff] at h
  rw [letterPlace_eq]
  omega

theorem letterPlace_lt {c d : Char} (hc : IsLetter c) (h : c < d) :
    letterPlace c < letterPlace d := by
  have hlt : c.toNat < d.toNat := h
  rw [isLetter_iff] at hc
  rw [letterPlace_eq, letterPlace_eq]
  omega

theorem toNat_lastLetter (n : ℕ) : (lastLetter n).toNat = 97 + n % 26 := by
  have hletters : ∀ i : Fin 26, (Char.ofNat ('a'.toNat + i.val)).toNat = 97 + i.val := by decide
  exact hletters ⟨n % 26, Nat.mod_lt n (by decide)⟩

theorem isLetter_lastLetter (n : ℕ) : IsLetter (lastLetter n) := by
  rw [isLetter_iff, toNat_lastLetter]
  omega

theorem letterPlace_lastLetter (n : ℕ) : letterPlace (lastLetter n) = n % 26 + 1 := by
  rw [letterPlace_eq, toNat_lastLetter]
  omega

/-! ### The number of a token -/

theorem letterNumber_concat (cs : List Char) (c : Char) :
    letterNumber (cs ++ [c]) = 26 * letterNumber cs + letterPlace c := by
  induction cs with
  | nil => simp [letterNumber]
  | cons d cs ih =>
      rw [List.cons_append, letterNumber, ih, letterNumber, List.length_append,
        List.length_singleton]
      ring

theorem letterNumber_letterToken (n : ℕ) : letterNumber (letterToken n) = n + 1 := by
  induction n using Nat.strongRecOn with
  | ind n ih =>
      rw [letterToken_eq, letterNumber_concat, letterPlace_lastLetter]
      split
      · rw [letterNumber]
        omega
      · rw [ih (n / 26 - 1) (by omega)]
        omega

theorem isLetter_of_mem_letterToken {n : ℕ} : ∀ c ∈ letterToken n, IsLetter c := by
  induction n using Nat.strongRecOn with
  | ind n ih =>
      intro c hmem
      rw [letterToken_eq] at hmem
      rcases List.mem_append.1 hmem with hinit | hlast
      · split at hinit
        · cases hinit
        · exact ih (n / 26 - 1) (by omega) c hinit
      · rw [List.mem_singleton.1 hlast]
        exact isLetter_lastLetter n

/-! ### The order of numbers and of words -/

/-- The least number of a length is that of as many first letters. -/
def leastNumber (length : ℕ) : ℕ := letterNumber (List.replicate length 'a')

theorem leastNumber_succ (length : ℕ) :
    leastNumber (length + 1) = 26 ^ length + leastNumber length := by
  have hplace : letterPlace 'a' = 1 := rfl
  simp [leastNumber, List.replicate_succ, letterNumber, hplace]

theorem leastNumber_mono : Monotone leastNumber :=
  monotone_nat_of_le_succ fun length => leastNumber_succ length ▸ Nat.le_add_left _ _

section

variable {cs ds : List Char}

/-- The numbers of one length lie between the least of it and the least of the next. -/
theorem letterNumber_bounds (h : ∀ c ∈ cs, IsLetter c) :
    leastNumber cs.length ≤ letterNumber cs ∧ letterNumber cs < leastNumber (cs.length + 1) := by
  induction cs with
  | nil => decide
  | cons c cs ih =>
      obtain ⟨hc, hcs⟩ := List.forall_mem_cons.1 h
      obtain ⟨hlow, hhigh⟩ := ih hcs
      obtain ⟨hfirst, hlast⟩ := letterPlace_bounds hc
      have hleast : 1 * 26 ^ cs.length ≤ letterPlace c * 26 ^ cs.length :=
        Nat.mul_le_mul_right _ hfirst
      have hgreatest : letterPlace c * 26 ^ cs.length ≤ 26 * 26 ^ cs.length :=
        Nat.mul_le_mul_right _ hlast
      rw [leastNumber_succ] at hhigh
      rw [List.length_cons, letterNumber, leastNumber_succ (cs.length + 1), pow_succ',
        leastNumber_succ]
      constructor <;> omega

theorem letterNumber_lt_of_lex (hcs : ∀ c ∈ cs, IsLetter c) (hds : ∀ d ∈ ds, IsLetter d)
    (hlength : cs.length = ds.length) (h : List.Lex (· < ·) cs ds) :
    letterNumber cs < letterNumber ds := by
  induction h with
  | nil => simp at hlength
  | @cons c cs ds _ ih =>
      have hsame : cs.length = ds.length := by simpa using hlength
      have hrest := ih (List.forall_mem_cons.1 hcs).2 (List.forall_mem_cons.1 hds).2 hsame
      rw [letterNumber, letterNumber, hsame]
      omega
  | @rel c cs d ds hlt =>
      have hsame : cs.length = ds.length := by simpa using hlength
      obtain ⟨hc, hcs⟩ := List.forall_mem_cons.1 hcs
      have hhigh := (letterNumber_bounds hcs).2
      have hlow := (letterNumber_bounds (List.forall_mem_cons.1 hds).2).1
      -- The first letters differ by one place at least, which is more than the rest can make up for.
      have hstep : (letterPlace c + 1) * 26 ^ ds.length ≤ letterPlace d * 26 ^ ds.length :=
        Nat.mul_le_mul_right _ (letterPlace_lt hc hlt)
      rw [Nat.add_mul] at hstep
      rw [hsame, leastNumber_succ] at hhigh
      rw [letterNumber, letterNumber, hsame]
      omega

theorem letterNumber_lt_of_shortlex (hcs : ∀ c ∈ cs, IsLetter c) (hds : ∀ d ∈ ds, IsLetter d)
    (h : List.Shortlex (· < ·) cs ds) : letterNumber cs < letterNumber ds := by
  rcases List.shortlex_def.1 h with hshorter | ⟨hlength, hlex⟩
  · calc letterNumber cs < leastNumber (cs.length + 1) := (letterNumber_bounds hcs).2
      _ ≤ leastNumber ds.length := leastNumber_mono hshorter
      _ ≤ letterNumber ds := (letterNumber_bounds hds).1
  · exact letterNumber_lt_of_lex hcs hds hlength hlex

theorem shortlex_iff_letterNumber_lt (hcs : ∀ c ∈ cs, IsLetter c) (hds : ∀ d ∈ ds, IsLetter d) :
    List.Shortlex (· < ·) cs ds ↔ letterNumber cs < letterNumber ds := by
  refine ⟨letterNumber_lt_of_shortlex hcs hds, fun hlt => ?_⟩
  rcases trichotomous_of (List.Shortlex (· < ·)) cs ds with hless | rfl | hmore
  · exact hless
  · exact absurd hlt (lt_irrefl _)
  · exact absurd (letterNumber_lt_of_shortlex hds hcs hmore) hlt.asymm

/-- No two words have one number. -/
theorem letterNumber_inj (hcs : ∀ c ∈ cs, IsLetter c) (hds : ∀ d ∈ ds, IsLetter d)
    (h : letterNumber cs = letterNumber ds) : cs = ds := by
  rcases trichotomous_of (List.Shortlex (· < ·)) cs ds with hless | heq | hmore
  · exact absurd h (letterNumber_lt_of_shortlex hcs hds hless).ne
  · exact heq
  · exact absurd h (letterNumber_lt_of_shortlex hds hcs hmore).ne'

/-- Every word is a token. -/
theorem letterToken_letterNumber (hcs : ∀ c ∈ cs, IsLetter c) (hne : cs ≠ []) :
    letterToken (letterNumber cs - 1) = cs := by
  refine letterNumber_inj isLetter_of_mem_letterToken hcs ?_
  have hleast : leastNumber 1 ≤ leastNumber cs.length :=
    leastNumber_mono (List.length_pos_of_ne_nil hne)
  have hone : leastNumber 1 = 1 := rfl
  have hnumber := (letterNumber_bounds hcs).1
  rw [letterNumber_letterToken]
  omega

end

/-! ### The loop that writes a token -/

/-- A run of the loop that takes the letters of its token off a number, the last one first. The run
ends at a number that is a single letter. Any other goes on with one less than its quotient by 26, a
subtraction that must not fall below zero. -/
inductive LetterLoop : ℕ → List Char → Prop
  | last {n : ℕ} (single : n < 26) : LetterLoop n [lastLetter n]
  | next {n : ℕ} {letters : List Char} (more : ¬ n < 26) (fits : 1 ≤ n / 26)
      (rest : LetterLoop (n / 26 - 1) letters) : LetterLoop n (lastLetter n :: letters)

/-- From every number the loop has a run. -/
theorem letterLoop_letterToken (n : ℕ) : LetterLoop n (letterToken n).reverse := by
  induction n using Nat.strongRecOn with
  | ind n ih =>
      rw [letterToken_eq, List.reverse_append]
      by_cases hsingle : n < 26
      · rw [if_pos hsingle]
        exact .last hsingle
      · rw [if_neg hsingle]
        exact .next hsingle (by omega) (ih (n / 26 - 1) (by omega))

/-- It has no other run. -/
theorem LetterLoop.eq_reverse {n : ℕ} {letters : List Char} (h : LetterLoop n letters) :
    letters = (letterToken n).reverse := by
  induction h with
  | last hsingle =>
      rw [letterToken_eq, if_pos hsingle]
      rfl
  | next hmore _ _ ih =>
      rw [letterToken_eq, if_neg hmore, List.reverse_append, ← ih]
      rfl

namespace Aliases

theorem letters_of_token (n : ℕ) : ∀ c ∈ (token n).toList, IsLetter c := by
  rw [token, String.toList_ofList]
  exact isLetter_of_mem_letterToken

theorem letterNumber_token (n : ℕ) : letterNumber (token n).toList = n + 1 := by
  rw [token, String.toList_ofList, letterNumber_letterToken]

/-- The tokens are the nonempty words over the letters, each at one number, and they come by length
and then alphabetically. The loop that writes a token ends for every number, never subtracts below
zero, and leaves the letters of the token, the last one first. -/
theorem token_enumerates_words :
    Set.BijOn token Set.univ {word | word ≠ "" ∧ ∀ c ∈ word.toList, 'a' ≤ c ∧ c ≤ 'z'} ∧
    (∀ m n, m < n ↔ List.Shortlex (· < ·) (token m).toList (token n).toList) ∧
    ∀ n letters, LetterLoop n letters ↔ letters = (token n).toList.reverse := by
  refine ⟨⟨?_, ?_, ?_⟩, ?_, ?_⟩
  · intro n _
    refine ⟨fun hempty => letterToken_ne_nil n ?_, letters_of_token n⟩
    rwa [token, String.ofList_eq_empty_iff] at hempty
  · exact fun m _ n _ h => token_inj h
  · rintro word ⟨hne, hletters⟩
    refine ⟨letterNumber word.toList - 1, Set.mem_univ _, ?_⟩
    rw [token, letterToken_letterNumber hletters (mt String.toList_eq_nil_iff.1 hne),
      String.ofList_toList]
  · intro m n
    rw [shortlex_iff_letterNumber_lt (letters_of_token m) (letters_of_token n),
      letterNumber_token, letterNumber_token, Nat.add_lt_add_iff_right]
  · intro n letters
    rw [token, String.toList_ofList]
    refine ⟨LetterLoop.eq_reverse, ?_⟩
    rintro rfl
    exact letterLoop_letterToken n

/-- The last word of two letters and the first of three. -/
example : token 701 = "zz" ∧ token 702 = "aaa" := by decide +kernel

end Aliases

end EntityQuery.Sql
