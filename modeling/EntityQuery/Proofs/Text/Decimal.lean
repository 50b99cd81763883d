import EntityQuery.Text.Blank
import EntityQuery.Text.Numeral
import Mathlib.Algebra.Group.Nat.Defs
import Mathlib.Data.List.DropRight

/-!
# Decimal notation

The whole number that a numeral writes, told by the places of its digits: a digit counts as often as
the power of ten with one factor for each digit after it. Reading agrees with this for numerals of
any length, with leading zeros or without, and trimming removes the blanks around a numeral and
nothing else.
-/
namespace EntityQuery.Text

/-- The number that decimal digits write, each by its place. -/
def placeValue : List Char → Nat
  | [] => 0
  | d :: ds => (d.toNat - '0'.toNat) * 10 ^ ds.length + placeValue ds

/-- At least one decimal digit, and nothing else. -/
structure Digits (ds : List Char) : Prop where
  ne_nil : ds ≠ []
  isDigit : ∀ d ∈ ds, d.isDigit = true

/-- A numeral with the whole number that it writes: digits, with a sign before them or without. -/
inductive Writes : List Char → Int → Prop
  | unsigned {ds : List Char} (digits : Digits ds) : Writes ds (placeValue ds)
  | plus {ds : List Char} (digits : Digits ds) : Writes ('+' :: ds) (placeValue ds)
  | minus {ds : List Char} (digits : Digits ds) : Writes ('-' :: ds) (-(placeValue ds))

/-- A numeral between blanks, if any, with the whole number that it writes. -/
def WritesAmongBlanks (cs : List Char) (n : Int) : Prop :=
  ∃ before numeral after, cs = before ++ numeral ++ after ∧
    (∀ c ∈ before, isBlank c = true) ∧ (∀ c ∈ after, isBlank c = true) ∧ Writes numeral n

/-- Reading digits one after the other gives each the weight of its place. -/
theorem ofDigitChars_eq_placeValue (ds : List Char) : Nat.ofDigitChars 10 ds 0 = placeValue ds := by
  induction ds with
  | nil => rfl
  | cons d ds ih =>
      rw [Nat.ofDigitChars_cons, Nat.ofDigitChars_eq_ofDigitChars_zero, ih, placeValue]
      simp [Nat.mul_comm]

theorem readNat?_eq_some_iff {cs : List Char} {n : Nat} :
    readNat? cs = some n ↔ Digits cs ∧ placeValue cs = n := by
  unfold readNat?
  rw [ofDigitChars_eq_placeValue]
  constructor
  · intro h
    split at h
    · cases h
    · next hdigits =>
      simp only [Bool.or_eq_true, not_or, List.isEmpty_iff] at hdigits
      exact ⟨⟨hdigits.1, by simpa using hdigits.2⟩, Option.some.inj h⟩
  · rintro ⟨hdigits, rfl⟩
    have hall : cs.all Char.isDigit = true := List.all_eq_true.2 hdigits.isDigit
    simp [hdigits.ne_nil, hall]

/-- What is read from a text is what the text writes. -/
theorem readInt?_eq_some_iff {cs : List Char} {n : Int} : readInt? cs = some n ↔ Writes cs n := by
  constructor
  · intro h
    unfold readInt? at h
    split at h
    all_goals
      simp only [Option.map_eq_some_iff, Option.bind_eq_bind, Option.bind_eq_some_iff,
        Option.pure_def, Option.some.injEq, readNat?_eq_some_iff] at h
      obtain ⟨_, ⟨_, ⟨hdigits, rfl⟩, rfl⟩, rfl⟩ := h
    · exact .minus hdigits
    · exact .plus hdigits
    · exact .unsigned hdigits
  · intro h
    cases h with
    | @unsigned ds hdigits =>
        obtain ⟨d, rest, rfl⟩ := List.exists_cons_of_ne_nil hdigits.ne_nil
        rw [readInt?_of_isDigit (hdigits.isDigit d List.mem_cons_self),
          readNat?_eq_some_iff.2 ⟨hdigits, rfl⟩]
        rfl
    | plus hdigits => rw [readInt?, readNat?_eq_some_iff.2 ⟨hdigits, rfl⟩]; rfl
    | minus hdigits => rw [readInt?, readNat?_eq_some_iff.2 ⟨hdigits, rfl⟩]; rfl

/-- No digit is a blank, and no sign. -/
theorem isBlank_eq_false {c : Char} (h : c.isDigit = true ∨ c = '+' ∨ c = '-') :
    isBlank c = false := by
  have hrange : 43 ≤ c.toNat ∧ c.toNat ≤ 57 := by
    rcases h with h | rfl | rfl
    · have hdigit := Char.isDigit_iff_toNat.1 h
      simp at hdigit
      omega
    · decide
    · decide
  have hapart : ∀ range ∈ blanks, range.2 < 43 ∨ 57 < range.1 := by decide
  rw [Bool.eq_false_iff, isBlank, ne_eq, Ranges.has_iff]
  rintro ⟨range, hmem, hlow, hhigh⟩
  have hside := hapart range hmem
  omega

/-- A numeral has no blanks in it. -/
theorem Writes.isBlank {cs : List Char} {n : Int} (h : Writes cs n) :
    ∀ c ∈ cs, isBlank c = false := by
  cases h with
  | unsigned hdigits => exact fun c hmem => isBlank_eq_false (.inl (hdigits.isDigit c hmem))
  | plus hdigits | minus hdigits =>
      refine List.forall_mem_cons.2 ⟨isBlank_eq_false (by decide), fun c hmem => ?_⟩
      exact isBlank_eq_false (.inl (hdigits.isDigit c hmem))

/-- What trimming removes at the two ends are blanks. -/
theorem exists_eq_append_trim (cs : List Char) : ∃ before after, cs = before ++ trim cs ++ after ∧
    (∀ c ∈ before, isBlank c = true) ∧ ∀ c ∈ after, isBlank c = true := by
  refine ⟨cs.takeWhile isBlank, (cs.dropWhile isBlank).rtakeWhile isBlank, ?_,
    fun c hmem => List.mem_takeWhile_imp hmem, fun c hmem => List.mem_rtakeWhile_imp hmem⟩
  show cs = cs.takeWhile isBlank ++ (cs.dropWhile isBlank).rdropWhile isBlank ++ _
  rw [List.append_assoc, List.rdropWhile_append_rtakeWhile, List.takeWhile_append_dropWhile]

/-- The blanks around a text without blanks are removed, all of them. -/
theorem trim_append {before inner after : List Char} (hbefore : ∀ c ∈ before, isBlank c = true)
    (hafter : ∀ c ∈ after, isBlank c = true) (hinner : ∀ c ∈ inner, isBlank c = false) :
    trim (before ++ inner ++ after) = inner := by
  have hfirst : (before ++ inner ++ after).dropWhile isBlank = inner ++ after ∨ inner = [] := by
    cases inner with
    | nil => exact .inr rfl
    | cons c inner =>
        rw [List.append_assoc, List.dropWhile_append_of_pos hbefore, List.cons_append,
          List.dropWhile_cons_of_neg (by simp [hinner c List.mem_cons_self])]
        exact .inl rfl
  rcases hfirst with hfirst | rfl
  · have hlast : trim inner = inner := trim_eq_self hinner
    have hskip : inner.dropWhile isBlank = inner := by
      rw [List.dropWhile_eq_self_iff]
      intro hlength
      simp [hinner _ (List.getElem_mem hlength)]
    rw [trim, hskip] at hlast
    rw [trim, hfirst, List.reverse_append, List.dropWhile_append_of_pos (by simpa using hafter)]
    exact hlast
  · have hall : ∀ c ∈ before ++ [] ++ after, isBlank c = true := by
      simp only [List.append_nil, List.mem_append]
      exact fun c hmem => hmem.elim (hbefore c) (hafter c)
    rw [trim, List.dropWhile_eq_nil_iff.2 hall]
    rfl

/-- What is read from a text after trimming is what a numeral in it writes, among blanks alone. -/
theorem readInt?_trim_eq_some_iff {cs : List Char} {n : Int} :
    readInt? (trim cs) = some n ↔ WritesAmongBlanks cs n := by
  rw [readInt?_eq_some_iff]
  constructor
  · intro h
    obtain ⟨before, after, hcs, hbefore, hafter⟩ := exists_eq_append_trim cs
    exact ⟨before, trim cs, after, hcs, hbefore, hafter, h⟩
  · rintro ⟨before, numeral, after, rfl, hbefore, hafter, h⟩
    rwa [trim_append hbefore hafter h.isBlank]

end EntityQuery.Text
