import EntityQuery.Proofs.Sql.Membership
import EntityQuery.Proofs.Sql.Places
import EntityQuery.Proofs.Text.Replace

/-!
# The text with literals

The text for people has literals in the place of parameters. The names are replaced one after the
other, the longer ones first, so that no name is taken for another one that it starts with. But a
literal is read again for the names that are still to be replaced: a text value that holds one of
them is changed. Otherwise, and only then, the result is that of a replacement of all names at once.
-/
namespace EntityQuery

/-- The column has none of the signs in its name that follow placeholders. -/
def Field.Separable (field : Field) : Prop := ∀ sign ∈ Sql.closers, sign ∉ field.column.toList

instance (field : Field) : Decidable field.Separable := List.decidableBAll _ _

/-- No column has one of the signs in its name. With them, a name could end beyond the place of
another one. -/
def Registry.Separable (registry : Registry) : Prop :=
  ∀ schema ∈ registry.schemas, ∀ field ∈ schema.fields, field.Separable

instance (registry : Registry) : Decidable registry.Separable :=
  inferInstanceAs (Decidable (∀ schema ∈ registry.schemas, ∀ field ∈ schema.fields, _))

/-- The names of the parameters with the literals of their values. -/
def SqlQuery.literals (query : SqlQuery) : List (List Char × List Char) :=
  query.params.entries.map fun entry => (entry.1.toList, entry.2.literal.toList)

namespace Text

section Opens

variable {mark c : Char}

theorem opens_cons (hc : c ≠ mark) (xs : List Char) : Opens mark (c :: xs) := ⟨c, xs, rfl, hc⟩

/-- A numeral starts with a digit. -/
theorem opens_toDigits (hmark : mark.isDigit = false) (n : Nat) :
    Opens mark (Nat.toDigits 10 n) := by
  obtain ⟨c, rest, hdigits⟩ := List.exists_cons_of_ne_nil (toDigits_ne_nil n)
  have hdigit : c.isDigit = true := isDigit_of_mem_toDigits (n := n) (by simp [hdigits])
  rw [hdigits]
  refine opens_cons (fun heq => ?_) rest
  rw [heq, hmark] at hdigit
  cases hdigit

theorem opens_intChars (n : Int) : Opens '@' (intChars n) := by
  unfold intChars
  split
  · exact opens_cons (by decide) _
  · exact opens_toDigits (by decide) _

end Opens

end Text

namespace Binary64.Style

/-- Digits with a point start with a digit. -/
theorem opens_positional {digits : List Char} (h : Text.Opens '@' digits) (style : Style)
    (exponent : Int) : Text.Opens '@' (style.positional digits exponent) := by
  obtain ⟨c, rest, rfl, hc⟩ := h
  unfold positional
  by_cases hexponent : 0 ≤ exponent
  · rw [if_pos hexponent]
    exact Text.opens_cons hc _
  rw [if_neg hexponent]
  by_cases hwhole : 0 < (c :: rest).length + exponent
  · obtain ⟨k, hk⟩ : ∃ k, ((c :: rest).length + exponent).toNat = k + 1 :=
      Nat.exists_eq_succ_of_ne_zero (by omega)
    rw [if_pos hwhole, hk, List.take_succ_cons]
    exact Text.opens_cons hc _
  · rw [if_neg hwhole]
    exact Text.opens_cons (by decide) _

/-- Plain text of a number starts with a sign, a digit or a letter. -/
theorem opens_plain (x : Binary64) : Text.Opens '@' (plain.write x).toList := by
  have hdecimal : ∀ d : Decimal, Text.Opens '@' (plain.decimal d) := fun d =>
    -- without bounds every number is written positionally
    opens_positional (Text.opens_toDigits (by decide) d.coefficient) plain d.exponent
  unfold write
  split
  · exact Text.opens_cons (by decide) _
  · rw [String.toList_ofList]
    split
    · exact Text.opens_cons (by decide) _
    · split
      · exact hdecimal _
      · exact Text.opens_cons (by decide) _

end Binary64.Style

/-- No literal starts with the mark of a placeholder. -/
theorem Value.opens_literal (value : Value) : Text.Opens '@' value.literal.toList := by
  cases value with
  | null => exact Text.opens_cons (by decide) _
  | bool b => cases b <;> exact Text.opens_cons (by decide) _
  | int32 n | int64 n => simpa [literal, Text.int] using Text.opens_intChars n.toInt
  | uint64 n => simpa [literal, Text.nat] using Text.opens_toDigits (by decide) n.toNat
  | float x => exact Binary64.Style.opens_plain x
  | text s => simpa [literal, Text.quoted] using Text.opens_cons (by decide) _
  | bytes bs =>
    simpa [literal] using Text.opens_cons (c := '<') (by decide) _

namespace SqlQuery

variable {query : SqlQuery}

/-- The sorted entries are replaced one after the other. -/
theorem inline_eq (query : SqlQuery) : query.inline.toList =
    Text.replaceEach ((query.params.entries.mergeSort notShorter).map fun entry =>
      (entry.1.toList, entry.2.literal.toList)) query.sql.toList := by
  rw [inline, String.toList_ofList, Text.replaceEach, List.foldl_map]

/-- A text that stands in another one is shorter, or is that text. -/
theorem eq_of_infix_of_size_le {s t : String} (h : s.toList <:+: t.toList)
    (hsize : t.utf8ByteSize ≤ s.utf8ByteSize) : s = t := by
  obtain ⟨before, after, htext⟩ := h
  have ht : t = String.ofList before ++ s ++ String.ofList after := by
    rw [← String.toList_inj]
    simp [← htext]
  have hsizes := congrArg String.utf8ByteSize ht
  rw [String.utf8ByteSize_append, String.utf8ByteSize_append] at hsizes
  have hbefore : String.ofList before = "" := String.utf8ByteSize_eq_zero_iff.1 (by omega)
  have hafter : String.ofList after = "" := String.utf8ByteSize_eq_zero_iff.1 (by omega)
  simp [ht, hbefore, hafter]

/-- Entries whose names get no longer are replaced in the order of binding. -/
theorem inline_eq_of_pairwise
    (h : query.params.entries.Pairwise fun earlier later => notShorter earlier later) :
    query.inline.toList = Text.replaceEach query.literals query.sql.toList := by
  rw [inline_eq, List.mergeSort_of_pairwise h]
  rfl

/-- The longer names are replaced first. -/
theorem sorted_pairwise (query : SqlQuery) :
    (query.params.entries.mergeSort notShorter).Pairwise fun earlier later =>
      later.1.utf8ByteSize ≤ earlier.1.utf8ByteSize := by
  have htrans : ∀ a b c : String × Value, notShorter a b → notShorter b c → notShorter a c := by
    intro a b c hab hbc
    simp only [notShorter, decide_eq_true_eq] at hab hbc ⊢
    omega
  have htotal : ∀ a b : String × Value, (notShorter a b || notShorter b a) = true := by
    intro a b
    simp only [notShorter, Bool.or_eq_true, decide_eq_true_eq]
    omega
  refine (List.pairwise_mergeSort htrans htotal query.params.entries).imp fun h => ?_
  simpa [notShorter] using h

/-- No name stands in one that is replaced after it. -/
theorem names_pairwise (hnames : query.params.names.Nodup) :
    (query.params.entries.mergeSort notShorter).Pairwise fun earlier later =>
      ¬ earlier.1.toList <:+: later.1.toList := by
  have hperm := List.mergeSort_perm query.params.entries notShorter
  have hdistinct : (query.params.entries.mergeSort notShorter).Pairwise fun earlier later =>
      earlier.1 ≠ later.1 :=
    List.pairwise_map.1 ((hperm.map Prod.fst).nodup_iff.2 hnames)
  refine (hdistinct.and query.sorted_pairwise).imp ?_
  rintro earlier later ⟨hne, hsize⟩ hinfix
  exact hne (eq_of_infix_of_size_le hinfix hsize)

end SqlQuery

namespace Sql

/-- The name of a parameter has the signs of its column, a mark, digits and underscores. -/
theorem notMem_fieldName {column : String} {sign : Char} (hcloses : sign ∈ closers)
    (hcolumn : sign ∉ column.toList) (n : Nat) : sign ∉ (Params.fieldName column n).toList := by
  have hfixed : ∀ sign ∈ closers, sign.isDigit = false ∧ sign ≠ '@' ∧ sign ≠ '_' := by
    simp [closers, Char.isDigit]
  obtain ⟨hdigit, hmark, hscore⟩ := hfixed sign hcloses
  have hnumber : sign ∉ (Text.nat n).toList := by
    intro hmem
    have hisDigit : sign.isDigit = true :=
      Text.isDigit_of_mem_toDigits (n := n) (by simpa [Text.nat] using hmem)
    simp [hdigit] at hisDigit
  simp [Params.fieldName, hcolumn, hnumber, hmark, hscore]

section Parameters

variable {ctx : Context} {clauses : Clauses} {references : List String} {t : Scope}
  {statement : Statement}

/-- Each parameter is named after a column. -/
theorem Statement.MadeOf.fieldName_of_mem (h : statement.MadeOf ctx clauses references t)
    (hroot : ctx.root ∈ ctx.registry.schemas) {name : String} (hmem : name ∈ t.params.names) :
    ∃ schema ∈ ctx.registry.schemas, ∃ field ∈ schema.fields,
      ∃ n, name = Params.fieldName field.column n := by
  rw [h.names_eq] at hmem
  obtain ⟨operand, hoperand, hname⟩ := List.mem_filterMap.1 hmem
  cases operand with
  | column c => cases hname
  | parameter other =>
    obtain rfl := Option.some.inj hname
    exact h.uses.fieldName_of_mem hroot hoperand

theorem Statement.MadeOf.names_nodup (h : statement.MadeOf ctx clauses references t) :
    t.params.names.Nodup :=
  h.uses.names_nodup (by simp [Context.scope, Scope.ofTable])

end Parameters

/-- What the replacement of names rests on: the names differ, start with a mark, have no closing
sign, and stand in the text each before such a sign, or at its end. -/
structure Replaceable (query : SqlQuery) : Prop where
  distinct : query.params.names.Nodup
  marked : ∀ name ∈ query.params.names, ∃ rest, name.toList = '@' :: rest
  unclosed : ∀ name ∈ query.params.names, ∀ sign ∈ closers, sign ∉ name.toList
  woven : Woven (query.sql.toList ++ [' ']) query.params.names

theorem replaceable_of_compile {registry : Registry} {root : String} {clauses : Clauses}
    {query : SqlQuery} (hunmarked : registry.Unmarked) (hseparable : registry.Separable)
    (h : compile registry root clauses = .ok query) : Replaceable query := by
  obtain ⟨ctx, hctx, hcompile⟩ := compile_ok h
  obtain ⟨hregistry, hroot⟩ := Context.of_ok hctx
  obtain ⟨statement, t, hrun, rfl⟩ := compileOn_ok hcompile
  obtain ⟨references, headed, assigned, filtered, ordered, steps⟩ := statementSteps_of_ok hrun
  have hmade : statement.MadeOf ctx clauses references t := .of_steps steps
  rw [← hregistry] at hunmarked hseparable
  refine ⟨hmade.names_nodup, fun name hmem => ?_, fun name hmem sign hsign => ?_,
    hmade.woven hunmarked hroot⟩
  · obtain ⟨schema, -, field, -, n, rfl⟩ := hmade.fieldName_of_mem hroot hmem
    simp [Params.fieldName]
  · obtain ⟨schema, hschema, field, hfield, n, rfl⟩ := hmade.fieldName_of_mem hroot hmem
    exact notMem_fieldName hsign (hseparable schema hschema field hfield sign hsign) n

namespace Replaceable

variable {query : SqlQuery} {entry : List Char × List Char}

theorem name_of_mem (hmem : entry ∈ query.literals) :
    ∃ name ∈ query.params.names, entry.1 = name.toList := by
  obtain ⟨bound, hbound, rfl⟩ := List.mem_map.1 hmem
  exact ⟨bound.1, List.mem_map_of_mem hbound, rfl⟩

theorem unmarks (h : Replaceable query) (hmem : entry ∈ query.literals) :
    Text.Unmarks '@' entry := by
  obtain ⟨bound, hbound, rfl⟩ := List.mem_map.1 hmem
  exact ⟨h.marked bound.1 (List.mem_map_of_mem hbound), bound.2.opens_literal⟩

theorem closes (h : Replaceable query) {sign : Char} (hsign : sign ∈ closers)
    (hmem : entry ∈ query.literals) : sign ∉ entry.1 := by
  obtain ⟨name, hname, heq⟩ := name_of_mem hmem
  rw [heq]
  exact h.unclosed name hname sign hsign

theorem patterns_nodup (h : Replaceable query) : (query.literals.map (·.1)).Nodup := by
  have hnames : query.literals.map (·.1) = query.params.names.map String.toList := by
    simp [SqlQuery.literals, Params.names]
  rw [hnames]
  exact h.distinct.map fun _ _ => String.toList_inj.1

/-- A replacement of the names goes on behind the text as if the text ended there. -/
theorem append_space {replace : List Char → List Char}
    (h : Text.Piecewise '@' (· ∈ closers) replace) (text : List Char) :
    replace (text ++ [' ']) = replace text ++ [' '] := by
  rw [h.closed text [] (by decide), h.nil]

theorem inline_eq_iff (h : Replaceable query) :
    query.inline.toList = Text.replaceTogether query.literals query.sql.toList ↔
      (query.params.entries.mergeSort SqlQuery.notShorter).Pairwise fun earlier later =>
        ¬ later.1.toList <:+: earlier.2.literal.toList := by
  let order := (query.params.entries.mergeSort SqlQuery.notShorter).map fun entry =>
    (entry.1.toList, entry.2.literal.toList)
  have horder : order.Perm query.literals := (List.mergeSort_perm _ _).map _
  have hfirst : order.Pairwise fun earlier later => ¬ earlier.1 <:+: later.1 :=
    List.pairwise_map.2 (query.names_pairwise h.distinct)
  have heach : Text.Piecewise '@' (· ∈ closers) (Text.replaceEach order) :=
    Text.piecewise_replaceEach (fun entry hmem => h.unmarks (horder.mem_iff.1 hmem))
      fun sign hsign entry hmem => h.closes hsign (horder.mem_iff.1 hmem)
  have htogether : Text.Piecewise '@' (· ∈ closers) (Text.replaceTogether query.literals) :=
    Text.piecewise_replaceTogether (fun entry hmem => (h.unmarks hmem).starts)
      fun sign hsign entry hmem => h.closes hsign hmem
  obtain ⟨names, htext, hitems, hclear⟩ := h.woven
  have hshown : query.literals.map (·.1) = (Text.itemsOf names).map String.toList := by
    simp [hitems, SqlQuery.literals, Params.names]
  obtain ⟨pieces, hweave, hitems', hclear'⟩ := Text.exists_weave_eq hshown hclear
  have hiff := Text.replaceEach_weave_iff (fun entry hmem => h.unmarks hmem) h.patterns_nodup
    horder hfirst (fun sign hsign entry hmem => h.closes hsign hmem) hclear' hitems'
  rw [hweave, ← htext, append_space heach, append_space htogether, List.append_left_inj] at hiff
  rw [query.inline_eq, hiff]
  exact List.pairwise_map

end Replaceable

/-- The text with literals is that of a replacement of all names at once, each by the literal of its
value, if and only if no literal has a name in it that is replaced later. -/
theorem inline_eq_replaceTogether_iff {registry : Registry} {root : String} {clauses : Clauses}
    {query : SqlQuery} (hunmarked : registry.Unmarked) (hseparable : registry.Separable)
    (h : compile registry root clauses = .ok query) :
    query.inline.toList = Text.replaceTogether query.literals query.sql.toList ↔
      (query.params.entries.mergeSort SqlQuery.notShorter).Pairwise fun earlier later =>
        ¬ later.1.toList <:+: earlier.2.literal.toList :=
  (replaceable_of_compile hunmarked hseparable h).inline_eq_iff

/-- The users of a name who are five years old. -/
def sampleNamed (name : String) : Clauses :=
  .ofList [.of .filter (.compare .eq (.rootField "Name") (.literal (.text name))),
    .of .filter (.compare .eq (.rootField "Age") (.literal (.int32 5)))]

/-- A literal that starts like a placeholder stays as it is. -/
theorem inline_eq_replaceTogether_iff_sample :
    ∃ query, compile sampleUsers "User" (sampleNamed "@_name_") = .ok query ∧
      query.inline.toList = Text.replaceTogether query.literals query.sql.toList := by
  have hbound : (compile sampleUsers "User" (sampleNamed "@_name_")).toOption.map
      (·.params.entries) = some [("@_name_0_", .text "@_name_"), ("@_age_0_", .int32 5)] := by
    decide +kernel
  obtain ⟨query, hquery, hentries⟩ := except_exists_of_toOption_map hbound
  refine ⟨query, hquery, ?_⟩
  rw [inline_eq_replaceTogether_iff (by decide +kernel) (by decide +kernel) hquery, hentries,
    List.mergeSort_of_pairwise (by decide +kernel)]
  decide +kernel

/-- The name that is looked for is itself that of the second parameter, whose literal takes its
place in turn. -/
theorem literal_replaced_again :
    sampleUsers.Unmarked ∧
    ∃ query, compile sampleUsers "User" (sampleNamed "@_age_0_") = .ok query ∧
      query.inline =
        "SELECT a.id, a.name, a.age FROM users a WHERE (a.name = '5') AND (a.age = 5)" ∧
      query.inline.toList ≠ Text.replaceTogether query.literals query.sql.toList := by
  have hbound : (compile sampleUsers "User" (sampleNamed "@_age_0_")).toOption.map
      (fun query => (query.sql, query.params.entries)) =
      some ("SELECT a.id, a.name, a.age FROM users a WHERE (a.name = @_name_0_) AND " ++
          "(a.age = @_age_0_)",
        [("@_name_0_", .text "@_age_0_"), ("@_age_0_", .int32 5)]) := by
    decide +kernel
  obtain ⟨query, hquery, hparts⟩ := except_exists_of_toOption_map hbound
  obtain ⟨hsql, hentries⟩ := Prod.mk.inj hparts
  have hinline : query.inline.toList =
      "SELECT a.id, a.name, a.age FROM users a WHERE (a.name = '5') AND (a.age = 5)".toList := by
    rw [query.inline_eq_of_pairwise (by rw [hentries]; decide +kernel), SqlQuery.literals, hsql,
      hentries]
    decide +kernel
  refine ⟨by decide +kernel, query, hquery, String.toList_inj.1 hinline, ?_⟩
  rw [hinline, SqlQuery.literals, hsql, hentries]
  decide +kernel

end Sql

end EntityQuery
