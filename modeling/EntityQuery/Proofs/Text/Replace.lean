import EntityQuery.Proofs.Text.Together
import EntityQuery.Sql.Query

/-!
# Replacement of patterns one after the other

Patterns that start with a mark are replaced in turn in a text whose other parts have no mark, and
where a sign that is in no pattern follows each place of a pattern. What a pattern becomes is made
of it alone. So the result is that of a replacement of all patterns at once, unless a pattern stands
in the replacement of an earlier one, where it is replaced too; and then it never is.
-/
namespace EntityQuery.Text

section Alone

variable {pattern : List Char}

theorem replaceFrom_eq_replaceTogetherFrom (pattern replacement : List Char) (skip : Nat)
    (text : List Char) :
    replaceFrom pattern replacement skip text =
      replaceTogetherFrom [(pattern, replacement)] skip text := by
  induction text generalizing skip with
  | nil => rfl
  | cons c text ih =>
    cases skip with
    | succ skip => exact ih skip
    | zero =>
      rw [replaceFrom, replaceTogetherFrom, longestMatch?, List.filter_cons]
      split
      · exact congrArg (replacement ++ ·) (ih _)
      · exact congrArg (c :: ·) (ih _)

/-- One pattern is replaced as if all were. -/
theorem replaceAll_eq_replaceTogether (h : pattern ≠ []) (replacement text : List Char) :
    replaceAll pattern replacement text = replaceTogether [(pattern, replacement)] text := by
  rw [replaceAll, if_neg (by simpa using h)]
  exact replaceFrom_eq_replaceTogetherFrom pattern replacement 0 text

/-- The pattern itself becomes its replacement. -/
theorem replaceAll_self (h : pattern ≠ []) (replacement : List Char) :
    replaceAll pattern replacement pattern = replacement := by
  rw [replaceAll_eq_replaceTogether h]
  exact replaceTogether_pattern h (by simp) List.mem_cons_self

end Alone

section Marks

variable {mark : Char} {pattern replacement xs ys zs : List Char}

/-- The first difference between two texts is that the first one has a mark, and the second another
character in its place. -/
inductive Overwritten (mark : Char) : List Char → List Char → Prop where
  | here {c : Char} (hc : c ≠ mark) (xs ys : List Char) : Overwritten mark (mark :: xs) (c :: ys)
  | there (c : Char) {xs ys : List Char} (h : Overwritten mark xs ys) :
      Overwritten mark (c :: xs) (c :: ys)

namespace Overwritten

theorem trans (h : Overwritten mark xs ys) (h' : Overwritten mark ys zs) :
    Overwritten mark xs zs := by
  induction h generalizing zs with
  | here hc xs ys =>
    cases h' with
    | here _ _ _ => exact absurd rfl hc
    | there _ _ => exact .here hc xs _
  | there c h ih =>
    cases h' with
    | here hd _ _ => exact .here hd _ _
    | there _ h' => exact .there c (ih h')

/-- What follows cannot make up for the difference. -/
theorem append_ne (h : Overwritten mark xs ys) (more more' : List Char) :
    xs ++ more ≠ ys ++ more' := by
  induction h with
  | here hc xs ys =>
    intro heq
    exact hc (List.cons.inj heq).1.symm
  | there c h ih =>
    intro heq
    exact ih (List.cons.inj heq).2

theorem ne (h : Overwritten mark xs ys) : xs ≠ ys := by
  have hne := h.append_ne [] []
  simpa using hne

end Overwritten

/-- The text starts with a character other than the mark. -/
def Opens (mark : Char) (text : List Char) : Prop := ∃ c rest, text = c :: rest ∧ c ≠ mark

/-- A pattern that starts with a mark, and a replacement that does not. -/
structure Unmarks (mark : Char) (entry : List Char × List Char) : Prop where
  starts : ∃ rest, entry.1 = mark :: rest
  replaces : Opens mark entry.2

theorem Unmarks.ne_nil {entry : List Char × List Char} (h : Unmarks mark entry) :
    entry.1 ≠ [] := by
  obtain ⟨rest, hrest⟩ := h.starts
  simp [hrest]

/-- Where the pattern does not occur nothing is replaced, and where it does a mark is. -/
theorem replaceAll_cases {entry : List Char × List Char} (h : Unmarks mark entry)
    (xs : List Char) :
    (¬ entry.1 <:+: xs ∧ replaceAll entry.1 entry.2 xs = xs) ∨
      (entry.1 <:+: xs ∧ Overwritten mark xs (replaceAll entry.1 entry.2 xs)) := by
  rw [replaceAll, if_neg (by simpa using h.ne_nil)]
  induction xs with
  | nil => exact .inl ⟨mt List.infix_nil.1 h.ne_nil, rfl⟩
  | cons c xs ih =>
    rw [replaceFrom]
    by_cases hhere : entry.1 <+: c :: xs
    · rw [if_pos (List.isPrefixOf_iff_prefix.2 hhere)]
      obtain ⟨rest, hrest⟩ := h.starts
      obtain ⟨d, later, hlater, hd⟩ := h.replaces
      have hc : c = mark := by
        rw [hrest] at hhere
        exact (List.cons_prefix_cons.1 hhere).1.symm
      subst hc
      rw [hlater]
      exact .inr ⟨hhere.isInfix, .here hd _ _⟩
    · rw [if_neg (mt List.isPrefixOf_iff_prefix.1 hhere), List.infix_cons_iff]
      rcases ih with ⟨hnone, hsame⟩ | ⟨hsome, hover⟩
      · exact .inl ⟨by simp [hhere, hnone], by rw [hsame]⟩
      · exact .inr ⟨.inr hsome, .there c hover⟩

/-- Replaces patterns one after the other. -/
def replaceEach (entries : List (List Char × List Char)) (text : List Char) : List Char :=
  entries.foldl (fun text entry => replaceAll entry.1 entry.2 text) text

variable {entries : List (List Char × List Char)}

@[simp] theorem replaceEach_cons (entry : List Char × List Char)
    (entries : List (List Char × List Char)) (text : List Char) :
    replaceEach (entry :: entries) text =
      replaceEach entries (replaceAll entry.1 entry.2 text) := rfl

/-- A text stays as it is if and only if none of the patterns occurs in it. -/
theorem replaceEach_cases (h : ∀ entry ∈ entries, Unmarks mark entry) (xs : List Char) :
    ((∀ entry ∈ entries, ¬ entry.1 <:+: xs) ∧ replaceEach entries xs = xs) ∨
      ((∃ entry ∈ entries, entry.1 <:+: xs) ∧ Overwritten mark xs (replaceEach entries xs)) := by
  induction entries generalizing xs with
  | nil => exact .inl ⟨by simp, rfl⟩
  | cons entry entries ih =>
    obtain ⟨hentry, hentries⟩ := List.forall_mem_cons.1 h
    rw [replaceEach_cons]
    rcases replaceAll_cases hentry xs with ⟨hnone, hsame⟩ | ⟨hsome, hover⟩
    · rw [hsame]
      rcases ih hentries xs with ⟨hrest, hkept⟩ | ⟨⟨later, hmem, hlater⟩, hover⟩
      · exact .inl ⟨List.forall_mem_cons.2 ⟨hnone, hrest⟩, hkept⟩
      · exact .inr ⟨⟨later, List.mem_cons_of_mem _ hmem, hlater⟩, hover⟩
    · refine .inr ⟨⟨entry, List.mem_cons_self, hsome⟩, ?_⟩
      rcases ih hentries (replaceAll entry.1 entry.2 xs) with ⟨-, hkept⟩ | ⟨-, hagain⟩
      · rw [hkept]
        exact hover
      · exact hover.trans hagain

/-- If no pattern occurs in a later one, each of them becomes what the later ones make of its
replacement. So all of them become their replacements if and only if no replacement has a later
pattern in it. -/
theorem replaceEach_patterns (h : ∀ entry ∈ entries, Unmarks mark entry)
    (hfirst : entries.Pairwise fun earlier later => ¬ earlier.1 <:+: later.1) :
    (∀ entry ∈ entries, replaceEach entries entry.1 = entry.2 ∨
      Overwritten mark entry.2 (replaceEach entries entry.1)) ∧
    ((∀ entry ∈ entries, replaceEach entries entry.1 = entry.2) ↔
      entries.Pairwise fun earlier later => ¬ later.1 <:+: earlier.2) := by
  induction entries with
  | nil => simp
  | cons entry entries ih =>
    obtain ⟨hentry, hentries⟩ := List.forall_mem_cons.1 h
    obtain ⟨hnone, hfirst⟩ := List.pairwise_cons.1 hfirst
    obtain ⟨hcases, hiff⟩ := ih hentries hfirst
    have hself : replaceEach (entry :: entries) entry.1 = replaceEach entries entry.2 := by
      rw [replaceEach_cons, replaceAll_self hentry.ne_nil]
    have hlater : ∀ later ∈ entries,
        replaceEach (entry :: entries) later.1 = replaceEach entries later.1 := by
      intro later hmem
      rcases replaceAll_cases hentry later.1 with ⟨-, hsame⟩ | ⟨hsome, -⟩
      · rw [replaceEach_cons, hsame]
      · exact absurd hsome (hnone later hmem)
    rw [List.forall_mem_cons, List.forall_mem_cons, List.pairwise_cons, hself, ← hiff]
    refine ⟨⟨?_, fun later hmem => hlater later hmem ▸ hcases later hmem⟩, and_congr ?_ ?_⟩
    · rcases replaceEach_cases hentries entry.2 with ⟨-, hsame⟩ | ⟨-, hover⟩
      · exact .inl hsame
      · exact .inr hover
    · rcases replaceEach_cases hentries entry.2 with ⟨hall, hsame⟩ | ⟨⟨later, hmem, hsome⟩, hover⟩
      · exact ⟨fun _ => hall, fun _ => hsame⟩
      · exact ⟨fun hsame => absurd hsame.symm hover.ne, fun hall => absurd hsome (hall later hmem)⟩
    · exact forall₂_congr fun later hmem => by rw [hlater later hmem]

theorem piecewise_replaceEach {closes : Char → Prop} (h : ∀ entry ∈ entries, Unmarks mark entry)
    (hcloses : ∀ sign, closes sign → ∀ entry ∈ entries, sign ∉ entry.1) :
    Piecewise mark closes (replaceEach entries) := by
  induction entries with
  | nil => exact .id mark closes
  | cons entry entries ih =>
    obtain ⟨hentry, hentries⟩ := List.forall_mem_cons.1 h
    have hfirst : Piecewise mark closes (replaceAll entry.1 entry.2) := by
      rw [funext (replaceAll_eq_replaceTogether hentry.ne_nil entry.2)]
      refine piecewise_replaceTogether ?_ fun sign hsign => ?_
      · simpa using hentry.starts
      · simpa using hcloses sign hsign entry List.mem_cons_self
    exact (ih hentries fun sign hsign later hmem =>
      hcloses sign hsign later (List.mem_cons_of_mem _ hmem)).comp hfirst

end Marks

section Places

variable {α : Type} {mark : Char} {shown shown' : α → List Char} {pieces : List (Piece α)}

/-- Two ways to show the items of a text make the same text only if they show them alike, if they
differ by a mark at most. -/
theorem weave_eq_weave_iff (mark : Char) (h : ∀ item ∈ itemsOf pieces,
    shown item = shown' item ∨ Overwritten mark (shown' item) (shown item)) :
    weave shown pieces = weave shown' pieces ↔
      ∀ item ∈ itemsOf pieces, shown item = shown' item := by
  induction pieces with
  | nil => simp [itemsOf]
  | cons piece pieces ih =>
    cases piece with
    | plain c =>
      rw [weave_plain, weave_plain, List.cons_inj_right]
      exact ih h
    | place item sign =>
      obtain ⟨hitem, hitems⟩ := List.forall_mem_cons.1 h
      have hall := List.forall_mem_cons (p := fun item => shown item = shown' item) (a := item)
        (l := itemsOf pieces)
      rw [weave_place, weave_place]
      refine Iff.trans ?_ hall.symm
      rcases hitem with hsame | hover
      · rw [hsame, List.append_cancel_left_eq, List.cons_inj_right, ih hitems]
        simp
      · constructor
        · intro heq
          exact absurd heq.symm (hover.append_ne _ _)
        · intro hsame
          exact absurd hsame.1.symm hover.ne

variable {closes : Char → Prop} {entries order : List (List Char × List Char)}
  {pieces : List (Piece (List Char × List Char))}

/-- A replacement in turn does what the replacement of all patterns at once does, if and only if no
pattern occurs in the replacement of an earlier one. -/
theorem replaceEach_weave_iff (hentries : ∀ entry ∈ entries, Unmarks mark entry)
    (hdistinct : (entries.map (·.1)).Nodup) (horder : order.Perm entries)
    (hfirst : order.Pairwise fun earlier later => ¬ earlier.1 <:+: later.1)
    (hcloses : ∀ sign, closes sign → ∀ entry ∈ entries, sign ∉ entry.1)
    (hclear : ∀ piece ∈ pieces, piece.Clear mark closes) (hitems : itemsOf pieces = entries) :
    replaceEach order (weave (·.1) pieces) = replaceTogether entries (weave (·.1) pieces) ↔
      order.Pairwise fun earlier later => ¬ later.1 <:+: earlier.2 := by
  have hmem : ∀ {entry}, entry ∈ order ↔ entry ∈ entries := horder.mem_iff
  have hmarks : ∀ entry ∈ order, Unmarks mark entry := fun entry h => hentries entry (hmem.1 h)
  have heach := (piecewise_replaceEach hmarks fun sign hsign entry h =>
    hcloses sign hsign entry (hmem.1 h)).weave (·.1) hclear
  have htogether := (piecewise_replaceTogether (fun entry h => (hentries entry h).starts)
    hcloses).weave (·.1) hclear
  obtain ⟨hcases, hiff⟩ := replaceEach_patterns hmarks hfirst
  have hpattern : ∀ entry ∈ entries, replaceTogether entries entry.1 = entry.2 := fun entry h =>
    replaceTogether_pattern (hentries entry h).ne_nil hdistinct h
  rw [heach, htogether, weave_eq_weave_iff mark, ← hiff, hitems]
  · refine forall_congr' fun entry => ?_
    rw [hmem]
    refine forall_congr' fun h => ?_
    rw [Function.comp_apply, Function.comp_apply, hpattern entry h]
  · intro entry h
    rw [hitems] at h
    rw [Function.comp_apply, Function.comp_apply, hpattern entry h]
    exact hcases entry (hmem.2 h)

end Places

end EntityQuery.Text
