import Mathlib.Data.List.Infix
import Mathlib.Data.List.MinMax
import Mathlib.Data.List.Nodup

/-!
# Replacement of several patterns at once

A text is read once from the left, and wherever patterns start the longest of them is replaced. What
has been put in is not read again. A replacement is piecewise if it goes on anew after each sign
that is in no pattern, and keeps each character that starts no pattern.
-/
namespace EntityQuery.Text

section Together

/-- The entry with the longest of the patterns that a text starts with. -/
def longestMatch? (entries : List (List Char × List Char)) (text : List Char) :
    Option (List Char × List Char) :=
  (entries.filter (·.1.isPrefixOf text)).argmax (·.1.length)

/-- Replaces patterns; `skip` characters still belong to the last one found. -/
def replaceTogetherFrom (entries : List (List Char × List Char)) :
    (skip : Nat) → List Char → List Char
  | _, [] => []
  | skip + 1, _ :: cs => replaceTogetherFrom entries skip cs
  | 0, c :: cs =>
      match longestMatch? entries (c :: cs) with
      | some entry => entry.2 ++ replaceTogetherFrom entries (entry.1.length - 1) cs
      | none => c :: replaceTogetherFrom entries 0 cs

/-- Replaces the pattern of each entry by its replacement, all at once. -/
def replaceTogether (entries : List (List Char × List Char)) (text : List Char) : List Char :=
  replaceTogetherFrom entries 0 text

variable {entries : List (List Char × List Char)} {entry : List Char × List Char}
  {pattern text xs ys : List Char} {sign : Char}

/-- A pattern without a sign does not reach over it. -/
theorem prefix_of_prefix_append_cons (hsign : sign ∉ pattern)
    (h : pattern <+: xs ++ sign :: ys) : pattern <+: xs := by
  by_cases hlength : pattern.length ≤ xs.length
  · exact List.prefix_of_prefix_length_le h (List.prefix_append xs _) hlength
  · have hsigned : xs ++ [sign] <+: pattern := by
      refine List.prefix_of_prefix_length_le ?_ h ?_
      · exact ⟨ys, by simp⟩
      · simp only [List.length_append, List.length_singleton]
        omega
    exact absurd (hsigned.subset (by simp)) hsign

theorem mem_of_longestMatch? (h : longestMatch? entries text = some entry) :
    entry ∈ entries ∧ entry.1 <+: text := by
  have hmem := List.mem_filter.1 (List.argmax_mem h)
  exact ⟨hmem.1, List.isPrefixOf_iff_prefix.1 hmem.2⟩

theorem longestMatch?_eq_none_iff :
    longestMatch? entries text = none ↔ ∀ entry ∈ entries, ¬ entry.1 <+: text := by
  simp [longestMatch?, List.filter_eq_nil_iff]

/-- No pattern is looked for beyond a sign that is in none of them. -/
theorem longestMatch?_append_cons (hsign : ∀ entry ∈ entries, sign ∉ entry.1) :
    longestMatch? entries (xs ++ sign :: ys) = longestMatch? entries xs := by
  unfold longestMatch?
  congr 1
  refine List.filter_congr fun entry hmem => ?_
  rw [Bool.eq_iff_iff, List.isPrefixOf_iff_prefix, List.isPrefixOf_iff_prefix]
  constructor
  · intro h
    exact prefix_of_prefix_append_cons (hsign entry hmem) h
  · intro h
    exact h.trans (List.prefix_append xs _)

/-- The longest of the patterns that a pattern starts with is the pattern itself. -/
theorem longestMatch?_pattern (hdistinct : (entries.map (·.1)).Nodup) (hmem : entry ∈ entries) :
    longestMatch? entries entry.1 = some entry := by
  have hcandidate : entry ∈ entries.filter (·.1.isPrefixOf entry.1) :=
    List.mem_filter.2 ⟨hmem, by simp⟩
  cases hlongest : longestMatch? entries entry.1 with
  | none => exact absurd List.prefix_rfl (longestMatch?_eq_none_iff.1 hlongest entry hmem)
  | some longest =>
    obtain ⟨hother, hprefix⟩ := mem_of_longestMatch? hlongest
    have hlength : entry.1.length ≤ longest.1.length :=
      List.le_of_mem_argmax (f := (·.1.length)) hcandidate hlongest
    have hpattern : longest.1 = entry.1 := hprefix.eq_of_length_le hlength
    rw [List.inj_on_of_nodup_map hdistinct hother hmem hpattern]

theorem replaceTogetherFrom_of_length_le {skip : Nat} (h : text.length ≤ skip) :
    replaceTogetherFrom entries skip text = [] := by
  induction text generalizing skip with
  | nil => cases skip <;> rfl
  | cons c text ih =>
    cases skip with
    | zero => simp at h
    | succ skip => exact ih (by simpa using h)

/-- Each pattern becomes its replacement. -/
theorem replaceTogether_pattern (hne : entry.1 ≠ [])
    (hdistinct : (entries.map (·.1)).Nodup) (hmem : entry ∈ entries) :
    replaceTogether entries entry.1 = entry.2 := by
  have hlongest := longestMatch?_pattern hdistinct hmem
  obtain ⟨c, rest, hpattern⟩ := List.exists_cons_of_ne_nil hne
  rw [hpattern] at hlongest
  simp only [replaceTogether, hpattern, replaceTogetherFrom, hlongest]
  rw [replaceTogetherFrom_of_length_le (by simp), List.append_nil]

/-- The shorter name is not taken for the longer one that starts with it, and what has been put in
stays, though it is a name. -/
example : replaceTogether [("@a_".toList, "@a_1_".toList), ("@a_1_".toList, "7".toList)]
    "x = @a_1_, y = @a_".toList = "x = 7, y = @a_1_".toList := by
  rfl

theorem replaceTogetherFrom_append_cons (hne : ∀ entry ∈ entries, entry.1 ≠ [])
    (hsign : ∀ entry ∈ entries, sign ∉ entry.1) {skip : Nat} (hskip : skip ≤ xs.length) :
    replaceTogetherFrom entries skip (xs ++ sign :: ys) =
      replaceTogetherFrom entries skip xs ++ sign :: replaceTogetherFrom entries 0 ys := by
  induction xs generalizing skip with
  | nil =>
    obtain rfl : skip = 0 := by simpa using hskip
    have hnone : longestMatch? entries (sign :: ys) = none := by
      rw [← List.nil_append (sign :: ys), longestMatch?_append_cons hsign,
        longestMatch?_eq_none_iff]
      simpa using hne
    simp [replaceTogetherFrom, hnone]
  | cons c xs ih =>
    cases skip with
    | succ skip => exact ih (by simpa using hskip)
    | zero =>
      have hsame : longestMatch? entries (c :: xs ++ sign :: ys) =
          longestMatch? entries (c :: xs) := longestMatch?_append_cons hsign
      rw [List.cons_append] at hsame ⊢
      rw [replaceTogetherFrom, replaceTogetherFrom, hsame]
      cases hlongest : longestMatch? entries (c :: xs) with
      | none => exact congrArg (c :: ·) (ih (Nat.zero_le _))
      | some entry =>
        have hlength := (mem_of_longestMatch? hlongest).2.length_le
        rw [List.length_cons] at hlength
        simp only [List.append_assoc]
        rw [ih (by omega)]

end Together

/-- The replacement keeps a character other than the mark, which starts all patterns, and goes on
anew after a sign that closes a pattern. -/
structure Piecewise (mark : Char) (closes : Char → Prop) (replace : List Char → List Char) :
    Prop where
  nil : replace [] = []
  plain : ∀ {c : Char} (text : List Char), c ≠ mark → replace (c :: text) = c :: replace text
  closed : ∀ {sign : Char} (xs ys : List Char), closes sign →
    replace (xs ++ sign :: ys) = replace xs ++ sign :: replace ys

section Piecewise

variable {mark : Char} {closes : Char → Prop} {replace replace' : List Char → List Char}
  {entries : List (List Char × List Char)}

theorem Piecewise.id (mark : Char) (closes : Char → Prop) : Piecewise mark closes id :=
  ⟨rfl, fun _ _ => rfl, fun _ _ _ => rfl⟩

theorem Piecewise.comp (h' : Piecewise mark closes replace') (h : Piecewise mark closes replace) :
    Piecewise mark closes (replace' ∘ replace) where
  nil := by rw [Function.comp_apply, h.nil, h'.nil]
  plain text hc := by
    simp only [Function.comp_apply]
    rw [h.plain text hc, h'.plain _ hc]
  closed xs ys hsign := by
    simp only [Function.comp_apply]
    rw [h.closed xs ys hsign, h'.closed _ _ hsign]

theorem piecewise_replaceTogether (hstarts : ∀ entry ∈ entries, ∃ rest, entry.1 = mark :: rest)
    (hcloses : ∀ sign, closes sign → ∀ entry ∈ entries, sign ∉ entry.1) :
    Piecewise mark closes (replaceTogether entries) where
  nil := rfl
  plain {c} text hc := by
    have hnone : longestMatch? entries (c :: text) = none := by
      refine longestMatch?_eq_none_iff.2 fun entry hmem hprefix => ?_
      obtain ⟨rest, hrest⟩ := hstarts entry hmem
      rw [hrest, List.cons_prefix_cons] at hprefix
      exact hc hprefix.1.symm
    simp [replaceTogether, replaceTogetherFrom, hnone]
  closed xs ys hsign := by
    refine replaceTogetherFrom_append_cons (fun entry hmem => ?_) (hcloses _ hsign) (Nat.zero_le _)
    obtain ⟨rest, hrest⟩ := hstarts entry hmem
    simp [hrest]

end Piecewise

/-- A piece of a text: a character that stays, or the place of an item, with the sign after it. -/
inductive Piece (α : Type) where
  | plain (c : Char)
  | place (item : α) (sign : Char)

namespace Piece

variable {α : Type}

/-- The item whose place it is. -/
def item? : Piece α → Option α
  | plain _ => none
  | place item _ => some item

/-- The piece with its item as it is shown. -/
def text (shown : α → List Char) : Piece α → List Char
  | plain c => [c]
  | place item sign => shown item ++ [sign]

/-- What stays is no mark, and the sign after an item closes it. -/
def Clear (mark : Char) (closes : Char → Prop) : Piece α → Prop
  | plain c => c ≠ mark
  | place _ sign => closes sign

end Piece

section Weave

variable {α β : Type}

/-- The text of pieces, with their items as they are shown. -/
def weave (shown : α → List Char) (pieces : List (Piece α)) : List Char :=
  pieces.flatMap (Piece.text shown)

/-- The items of pieces, in the order of their places. -/
def itemsOf (pieces : List (Piece α)) : List α := pieces.filterMap Piece.item?

variable {shown : α → List Char} {piece : Piece α} {pieces pieces' : List (Piece α)}
  {mark : Char} {closes : Char → Prop} {replace : List Char → List Char}

@[simp] theorem weave_nil : weave shown [] = [] := rfl

@[simp] theorem weave_plain (c : Char) :
    weave shown (.plain c :: pieces) = c :: weave shown pieces := rfl

@[simp] theorem weave_place (item : α) (sign : Char) :
    weave shown (.place item sign :: pieces) = shown item ++ sign :: weave shown pieces := by
  simp [weave, Piece.text]

@[simp] theorem weave_append :
    weave shown (pieces ++ pieces') = weave shown pieces ++ weave shown pieces' :=
  List.flatMap_append

@[simp] theorem itemsOf_append :
    itemsOf (pieces ++ pieces') = itemsOf pieces ++ itemsOf pieces' :=
  List.filterMap_append

/-- Only the items are replaced. -/
theorem Piecewise.weave (h : Piecewise mark closes replace) (shown : α → List Char)
    (hclear : ∀ piece ∈ pieces, piece.Clear mark closes) :
    replace (weave shown pieces) = Text.weave (replace ∘ shown) pieces := by
  induction pieces with
  | nil => exact h.nil
  | cons piece pieces ih =>
    obtain ⟨hpiece, hpieces⟩ := List.forall_mem_cons.1 hclear
    cases piece with
    | plain c => rw [weave_plain, weave_plain, h.plain _ hpiece, ih hpieces]
    | place item sign =>
      rw [weave_place, weave_place, h.closed _ _ hpiece, ih hpieces, Function.comp_apply]

/-- Other items that are shown alike can stand in the same places. -/
theorem exists_weave_eq {items : List β} {shown' : β → List Char}
    (hitems : items.map shown' = (itemsOf pieces).map shown)
    (hclear : ∀ piece ∈ pieces, piece.Clear mark closes) :
    ∃ pieces' : List (Piece β), weave shown' pieces' = weave shown pieces ∧
      itemsOf pieces' = items ∧ ∀ piece ∈ pieces', piece.Clear mark closes := by
  induction pieces generalizing items with
  | nil => exact ⟨[], rfl, (List.map_eq_nil_iff.1 hitems).symm, by simp⟩
  | cons piece pieces ih =>
    obtain ⟨hpiece, hpieces⟩ := List.forall_mem_cons.1 hclear
    cases piece with
    | plain c =>
      obtain ⟨pieces', hweave, hitems', hclear'⟩ := ih hitems hpieces
      refine ⟨.plain c :: pieces', ?_, hitems', List.forall_mem_cons.2 ⟨hpiece, hclear'⟩⟩
      rw [weave_plain, weave_plain, hweave]
    | place item sign =>
      obtain ⟨other, others, rfl, hother, hothers⟩ := List.map_eq_cons_iff.1 hitems
      obtain ⟨pieces', hweave, hitems', hclear'⟩ := ih hothers hpieces
      refine ⟨.place other sign :: pieces', ?_, congrArg (other :: ·) hitems',
        List.forall_mem_cons.2 ⟨hpiece, hclear'⟩⟩
      rw [weave_place, weave_place, hweave, hother]

end Weave

end EntityQuery.Text
