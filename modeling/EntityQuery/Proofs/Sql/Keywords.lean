import EntityQuery.Proofs.Sql.FragmentState
import EntityQuery.Proofs.Sql.Layout

/-!
# Keywords of fragments

Calls on one scope may ask several times for a part of the statement. Put one after the other, the
fragments that they give are the whole part: the first one opens its keyword, and later ones go on
after a separator. It does not matter how calls for different parts are interleaved, or which of
them fail.
-/
namespace EntityQuery.Sql

/-! ### Parts that go on -/

/-- A part with some items, of which there may be none. An open part goes on after a separator. -/
def partText (isOpen : Bool) (keyword separator : String) (items : List String) : String :=
  if items.isEmpty then ""
  else (if isOpen then separator else keyword ++ " ") ++ separator.intercalate items

section Parts

variable {isOpen : Bool} {keyword separator : String}

theorem partText_of_ne_nil {items : List String} (h : items ≠ []) :
    partText isOpen keyword separator items =
      (if isOpen then separator else keyword ++ " ") ++ separator.intercalate items := by
  rw [partText, if_neg (by simpa using h)]

/-- Later items go on where the first ones have opened the part. -/
theorem partText_append {first : List String} (h : first ≠ []) (rest : List String) :
    partText isOpen keyword separator (first ++ rest) =
      partText isOpen keyword separator first ++ partText true keyword separator rest := by
  by_cases hrest : rest = []
  · simp [hrest, partText]
  · rw [partText_of_ne_nil h, partText_of_ne_nil hrest, partText_of_ne_nil (by simp [h]),
      String.intercalate_append_of_ne_nil h hrest]
    simp [String.append_assoc]

/-- Items that are lists themselves may be listed in one. -/
theorem partText_map_intercalate {α : Type} {f : α → List String} {xs : List α}
    (h : ∀ x ∈ xs, f x ≠ []) :
    partText isOpen keyword separator (xs.map fun x => separator.intercalate (f x)) =
      partText isOpen keyword separator (xs.flatMap f) := by
  induction xs generalizing isOpen with
  | nil => rfl
  | cons x xs ih =>
      obtain ⟨hx, hxs⟩ := List.forall_mem_cons.1 h
      have hone : partText isOpen keyword separator [separator.intercalate (f x)] =
          partText isOpen keyword separator (f x) := by
        rw [partText_of_ne_nil hx, partText_of_ne_nil (List.cons_ne_nil _ _),
          String.intercalate_singleton]
      rw [List.map_cons, List.flatMap_cons, partText_append hx, ← ih hxs, ← hone,
        ← partText_append (List.cons_ne_nil _ _), List.singleton_append]

theorem listPiece_eq_partText {opens : Bool} {items : List String} (h : items ≠ []) :
    listPiece opens keyword items = partText (!opens) keyword ", " items := by
  rw [partText_of_ne_nil h, listPiece]
  cases opens <;> rfl

end Parts

/-! ### Chains of AND -/

/-- A sibling as it stands in a chain. -/
def siblingText (sibling : Connective × Condition) : String := "(" ++ sibling.2.text ++ ")"

theorem restText_of_and {chain : Chain} (h : ∀ sibling ∈ chain, sibling.1 = .and) :
    restText chain = String.join (chain.map fun sibling => " AND " ++ siblingText sibling) := by
  induction chain with
  | nil => rfl
  | cons sibling chain ih =>
      obtain ⟨hfirst, hrest⟩ := List.forall_mem_cons.1 h
      obtain ⟨connective, condition⟩ := sibling
      obtain rfl : connective = .and := hfirst
      have hopens : " " ++ Connective.and.text ++ " (" = " AND " ++ "(" := rfl
      rw [restText, hopens, ih hrest, List.map_cons, String.join_cons, siblingText]
      simp only [String.append_assoc]

/-- Without an OR in the open, a chain is its siblings with AND between them. -/
theorem chainText_of_and {chain : Chain} (h : ∀ sibling ∈ chain, sibling.1 = .and) :
    chainText chain = " AND ".intercalate (chain.map siblingText) := by
  cases chain with
  | nil => rw [chainText, List.map_nil, String.intercalate_nil]
  | cons sibling chain =>
      rw [List.map_cons, intercalate_cons_eq_join, List.map_map, chainText,
        restText_of_and fun s hmem => h s (List.mem_cons_of_mem _ hmem)]
      rfl

theorem join_conjoinedPieces (conjoined whereOpen : Bool) (chains : List Chain) :
    String.join ((conjoinedPieces conjoined whereOpen chains).map WherePiece.text) =
      partText whereOpen "WHERE" " AND "
        ((conjoinedPieces conjoined whereOpen chains).map fun piece => chainText piece.chain) := by
  induction chains generalizing whereOpen with
  | nil => rfl
  | cons chain chains ih =>
      rw [conjoinedPieces, List.map_cons, List.map_cons, String.join_cons, ih,
        ← List.singleton_append, partText_append (List.cons_ne_nil _ _),
        partText_of_ne_nil (List.cons_ne_nil _ _), String.intercalate_singleton, WherePiece.text]
      cases whereOpen <;> rfl

theorem chains_conjoinedPieces (whereOpen : Bool) (chains : List Chain) :
    (conjoinedPieces true whereOpen chains).map (·.chain) = chains.map (closeIf true) := by
  induction chains generalizing whereOpen with
  | nil => rfl
  | cons chain chains ih => rw [conjoinedPieces, List.map_cons, List.map_cons, ih, Bool.true_or]

/-- Where every chain with an OR is closed, the part is all siblings with AND between them. -/
theorem partText_conjoinedPieces {whereOpen : Bool} {chains : List Chain}
    (h : ∀ chain ∈ chains, ∃ orInside, ChainShape .and orInside chain) :
    partText whereOpen "WHERE" " AND "
        ((conjoinedPieces true whereOpen chains).map fun piece => chainText piece.chain) =
      partText whereOpen "WHERE" " AND "
        (chains.flatMap fun chain => (closeIf true chain).map siblingText) := by
  have htexts : ∀ chain ∈ chains, chainText (closeIf true chain) =
      " AND ".intercalate ((closeIf true chain).map siblingText) := by
    intro chain hmem
    obtain ⟨orInside, hshape⟩ := h chain hmem
    exact chainText_of_and hshape.and_of_mem_closeIf
  have hne : ∀ chain ∈ chains, (closeIf true chain).map siblingText ≠ [] := by
    intro chain hmem
    obtain ⟨orInside, hshape⟩ := h chain hmem
    obtain ⟨condition, rest, hstarts⟩ := hshape.closeIf_starts true
    simp [hstarts]
  have hpieces : (conjoinedPieces true whereOpen chains).map (fun piece => chainText piece.chain) =
      chains.map fun chain => " AND ".intercalate ((closeIf true chain).map siblingText) := by
    calc (conjoinedPieces true whereOpen chains).map (fun piece => chainText piece.chain)
        = ((conjoinedPieces true whereOpen chains).map (·.chain)).map chainText := by
          rw [List.map_map]
          rfl
      _ = chains.map fun chain => chainText (closeIf true chain) := by
          rw [chains_conjoinedPieces, List.map_map]
          rfl
      _ = chains.map fun chain => " AND ".intercalate ((closeIf true chain).map siblingText) :=
          List.map_congr_left htexts
  rw [hpieces, partText_map_intercalate hne]

/-! ### Calls for one part -/

namespace Fragment

/-- What a successful call opens. -/
def opened : Fragment → Scope → Scope
  | .filter _, s => { s with whereOpen := true }
  | .ordering .., s => { s with orderOpen := true }
  | .grouping .., s => { s with groupOpen := true }
  | .counting _, s | .assigning _, s | .limiting _, s => s

theorem opens (ctx : Context) (call : Fragment) : Build.Opens call.opened (call.build ctx) := by
  cases call with
  | filter predicate => exact (Build.Opens.wherePiece ctx predicate).map _
  | ordering descending projection => exact (Build.Opens.orderPiece ctx _ projection).map _
  | grouping distinct projection => exact (Build.Opens.groupPiece ctx _ projection).map _
  | counting projection => exact (Build.Opens.of_keeps (.countedColumn projection)).map _
  | assigning e => exact (Build.Opens.of_keeps (.assignments e)).map _
  | limiting count => exact (Build.Opens.of_keeps (.ofExcept _)).map _

theorem grows_opened (call : Fragment) (s : Scope) : s.Grows (call.opened s) := by
  cases call <;> exact ⟨List.prefix_rfl, List.prefix_rfl, List.prefix_rfl⟩

/-- The predicate that a call filters by. -/
def predicate? : Fragment → Option Expr
  | .filter predicate => some predicate
  | _ => none

end Fragment

/-- The parts that list columns. -/
inductive Listing where
  | order
  | group

namespace Listing

def keyword : Listing → String
  | .order => "ORDER BY"
  | .group => "GROUP BY"

def isOpen : Listing → Scope → Bool
  | .order, s => s.orderOpen
  | .group, s => s.groupOpen

/-- The projection that a call lists in the part, with what follows each column. -/
def listed? : Listing → Fragment → Option (String × Expr)
  | .order, .ordering descending projection => some (if descending then " DESC" else "", projection)
  | .group, .grouping _ projection => some ("", projection)
  | _, _ => none

end Listing

/-- The successful calls of a sort, with what they ask for and the fragments they give. -/
def madeBy {α : Type} (sort : Fragment → Option α)
    (answers : List (Fragment × Except QueryError String)) : List (α × String) :=
  answers.filterMap fun answer =>
    (sort answer.1).bind fun asked => answer.2.toOption.map fun text => (asked, text)

section Made

variable {α : Type} {sort : Fragment → Option α} {call : Fragment}

theorem madeBy_cons_ok {asked : α} (h : sort call = some asked) (text : String)
    (answers : List (Fragment × Except QueryError String)) :
    madeBy sort ((call, .ok text) :: answers) = (asked, text) :: madeBy sort answers := by
  rw [madeBy, List.filterMap_cons_some (b := (asked, text)) (by rw [h]; rfl)]
  rfl

theorem madeBy_cons_none (h : sort call = none) (x : Except QueryError String)
    (answers : List (Fragment × Except QueryError String)) :
    madeBy sort ((call, x) :: answers) = madeBy sort answers := by
  rw [madeBy, List.filterMap_cons_none (by rw [h]; rfl)]
  rfl

theorem madeBy_cons_error (sort : Fragment → Option α) (call : Fragment) (e : QueryError)
    (answers : List (Fragment × Except QueryError String)) :
    madeBy sort ((call, .error e) :: answers) = madeBy sort answers := by
  rw [madeBy, List.filterMap_cons_none (by cases sort call <;> rfl)]
  rfl

end Made

/-- The fields that successful calls list, each with what follows its column. -/
def fieldsOf (made : List ((String × Expr) × String)) : List (String × FieldRef) :=
  made.flatMap fun m => m.1.2.listedFields.map fun ref => (m.1.1, ref)

/-- A column as it is listed. -/
def listedText (column : String × Column) : String := column.2.text ++ column.1

/-- The column is that of the field, and the same follows it. -/
def ListedAs (ctx : Context) (t : Scope) (field : String × FieldRef) (column : String × Column) :
    Prop :=
  column.1 = field.1 ∧ ShownAs ctx t field.2 column.2

namespace Listing

variable {ctx : Context} {listing : Listing} {call : Fragment} {s t : Scope} {text : String}

theorem isOpen_of_extends (listing : Listing) (h : s.Extends t) :
    listing.isOpen t = listing.isOpen s := by
  cases listing with
  | order => exact h.flags.orderOpen
  | group => exact h.flags.groupOpen

theorem isOpen_opened (listing : Listing) (call : Fragment) (s : Scope) :
    listing.isOpen (call.opened s) = (listing.isOpen s || (listing.listed? call).isSome) := by
  cases listing <;> cases call <;> simp [isOpen, Fragment.opened, listed?]

/-- Columns that have been listed are those of the fields, and their piece goes on where the part is
open before. -/
theorem of_listedColumns {kind : ClauseKind} {e : Expr} {columns : List Column} {u : Scope}
    (h : (listedColumns ctx kind e).runOn s = (.ok columns, u)) (hgrows : u.Grows t)
    (listing : Listing) (suffix : String) :
    columns ≠ [] ∧ List.Forall₂ (ShownAs ctx t) e.listedFields columns ∧
      listPiece (!listing.isOpen u) listing.keyword
          (columns.map fun column => listedText (suffix, column)) =
        partText (listing.isOpen s) listing.keyword ", "
          (columns.map fun column => listedText (suffix, column)) := by
  have hne := listedColumns_ne_nil h
  have hshown := (Uses.of_listedColumns h).columns
  rw [List.filterMap_map, show Operand.column? ∘ Operand.column = some from rfl,
    List.filterMap_some] at hshown
  refine ⟨hne, hshown.imp fun _ _ hcolumn => hcolumn.of_grows hgrows, ?_⟩
  rw [listPiece_eq_partText (by simpa using hne), Bool.not_not,
    listing.isOpen_of_extends (extends_of_listedColumns h)]

/-- A successful call lists the columns of its projection, and opens the part if it is not open. -/
theorem run_listed {suffix : String} {projection : Expr}
    (hlisted : listing.listed? call = some (suffix, projection))
    (h : call.run ctx s = (.ok text, t)) :
    ∃ columns, columns ≠ [] ∧ List.Forall₂ (ShownAs ctx t) projection.listedFields columns ∧
      text = partText (listing.isOpen s) listing.keyword ", "
        (columns.map fun column => listedText (suffix, column)) := by
  cases listing with
  | order =>
      cases call with
      | ordering descending projection =>
          cases hlisted
          obtain ⟨piece, hpiece, rfl⟩ := Build.runOn_map_eq_ok.1 h
          obtain ⟨columns, u, hcolumns, hpiece⟩ := Build.runOn_bind_eq_ok.1 hpiece
          cases hpiece
          have hgrows := Fragment.grows_opened (.ordering descending projection) u
          exact ⟨columns, of_listedColumns hcolumns hgrows .order _⟩
      | filter _ | grouping _ _ | counting _ | assigning _ | limiting _ => cases hlisted
  | group =>
      cases call with
      | grouping distinct projection =>
          cases hlisted
          obtain ⟨piece, hpiece, rfl⟩ := Build.runOn_map_eq_ok.1 h
          obtain ⟨columns, u, hcolumns, hpiece⟩ := Build.runOn_bind_eq_ok.1 hpiece
          cases hpiece
          have hgrows := Fragment.grows_opened (.grouping distinct projection) u
          obtain ⟨hne, hshown, htext⟩ := of_listedColumns hcolumns hgrows .group ""
          have hitems : columns.map (fun column => listedText ("", column)) =
              columns.map Column.text := by
            simp [listedText]
          refine ⟨columns, hne, hshown, ?_⟩
          rw [← htext, hitems]
          rfl
      | filter _ | ordering _ _ | counting _ | assigning _ | limiting _ => cases hlisted

/-- The fragments of calls between two scopes go on from where the part is open: they list the
columns of all fields that the calls ask for, and the part is open afterwards if there are any. -/
structure Continues (listing : Listing) (ctx : Context) (s t : Scope)
    (made : List ((String × Expr) × String)) (columns : List (String × Column)) : Prop where
  shown : List.Forall₂ (ListedAs ctx t) (fieldsOf made) columns
  text : String.join (made.map (·.2)) =
    partText (listing.isOpen s) listing.keyword ", " (columns.map listedText)
  isOpen : listing.isOpen t = (listing.isOpen s || !made.isEmpty)

namespace Continues

variable {u : Scope} {made : List ((String × Expr) × String)} {columns : List (String × Column)}

theorem done (listing : Listing) (ctx : Context) (s : Scope) : listing.Continues ctx s s [] [] :=
  ⟨.nil, rfl, by simp⟩

/-- Before the calls, the part may be left alone. -/
theorem of_isOpen_eq (h : listing.Continues ctx t u made columns)
    (hopen : listing.isOpen t = listing.isOpen s) : listing.Continues ctx s u made columns :=
  ⟨h.shown, hopen ▸ h.text, hopen ▸ h.isOpen⟩

theorem cons (h : listing.Continues ctx t u made columns) (hgrows : t.Grows u)
    (hopen : listing.isOpen t = true) {listed : String × Expr} {first : List Column}
    (hne : first ≠ []) (hshown : List.Forall₂ (ShownAs ctx t) listed.2.listedFields first)
    (htext : text = partText (listing.isOpen s) listing.keyword ", "
      (first.map fun column => listedText (listed.1, column))) :
    listing.Continues ctx s u ((listed, text) :: made)
      (first.map (fun column => (listed.1, column)) ++ columns) where
  shown := by
    have hlists : List.Forall₂ (ListedAs ctx u)
        (listed.2.listedFields.map fun ref => (listed.1, ref))
        (first.map fun column => (listed.1, column)) := by
      rw [List.forall₂_map_left_iff, List.forall₂_map_right_iff]
      exact hshown.imp fun _ _ hcolumn => ⟨rfl, hcolumn.of_grows hgrows⟩
    exact List.rel_append hlists h.shown
  text := by
    have hlater := h.text
    rw [hopen] at hlater
    rw [List.map_cons, String.join_cons, hlater, htext, List.map_append, List.map_map,
      partText_append (by simpa using hne)]
    rfl
  isOpen := by
    rw [h.isOpen, hopen]
    simp

end Continues

/-- The fragments of calls in turn, whichever of them fail. -/
theorem continues_after (listing : Listing) (ctx : Context) (calls : List Fragment) (s : Scope) :
    ∃ columns, listing.Continues ctx s (s.after ctx calls)
      (madeBy listing.listed? (answers ctx calls s)) columns := by
  induction calls generalizing s with
  | nil => exact ⟨[], .done listing ctx s⟩
  | cons call calls ih =>
      show ∃ columns, listing.Continues ctx s ((call.run ctx s).2.after ctx calls) _ columns
      obtain ⟨columns, hlater⟩ := ih (call.run ctx s).2
      rw [answers]
      obtain ⟨u, hextends, ⟨text, hok⟩ | ⟨e, herror⟩⟩ := call.opens ctx s
      · have hrun : call.run ctx s = (.ok text, call.opened u) := hok
        have hopened := listing.isOpen_opened call u
        rw [listing.isOpen_of_extends hextends] at hopened
        rw [hrun] at hlater ⊢
        cases hlisted : listing.listed? call with
        | none =>
            rw [madeBy_cons_none hlisted]
            exact ⟨columns, hlater.of_isOpen_eq (by simpa [hlisted] using hopened)⟩
        | some listed =>
            obtain ⟨first, hne, hshown, htext⟩ := run_listed hlisted hrun
            rw [madeBy_cons_ok hlisted]
            have hopen : listing.isOpen (call.opened u) = true := by simp [hopened, hlisted]
            exact ⟨_, hlater.cons (Build.Keeps.after calls _) hopen hne hshown htext⟩
      · have hrun : call.run ctx s = (.error e, u) := herror
        rw [hrun] at hlater ⊢
        rw [madeBy_cons_error]
        exact ⟨columns, hlater.of_isOpen_eq (listing.isOpen_of_extends hextends)⟩

end Listing

/-- A call that succeeds without a filter leaves the WHERE part alone. -/
theorem Fragment.opened_of_no_predicate {call : Fragment} (h : call.predicate? = none) (s : Scope) :
    (call.opened s).conjoined = s.conjoined ∧ (call.opened s).whereOpen = s.whereOpen := by
  cases call with
  | filter _ => cases h
  | ordering _ _ | grouping _ _ | counting _ | assigning _ | limiting _ => exact ⟨rfl, rfl⟩

/-- The fragments of filters are the texts of pieces that are made in turn. -/
theorem exists_whereCalls (ctx : Context) (calls : List Fragment) (s : Scope) :
    ∃ pieces, WhereCalls ctx s ((madeBy Fragment.predicate? (answers ctx calls s)).map (·.1))
        pieces (s.after ctx calls) ∧
      (madeBy Fragment.predicate? (answers ctx calls s)).map (·.2) = pieces.map WherePiece.text := by
  induction calls generalizing s with
  | nil => exact ⟨[], .done s, rfl⟩
  | cons call calls ih =>
      show ∃ pieces, WhereCalls ctx s _ pieces ((call.run ctx s).2.after ctx calls) ∧ _
      obtain ⟨pieces, hcalls, htexts⟩ := ih (call.run ctx s).2
      rw [answers]
      obtain ⟨u, hextends, ⟨text, hok⟩ | ⟨e, herror⟩⟩ := call.opens ctx s
      · have hrun : call.run ctx s = (.ok text, call.opened u) := hok
        rw [hrun] at hcalls htexts ⊢
        cases hpredicate : call.predicate? with
        | none =>
            obtain ⟨hconjoined, hopen⟩ := call.opened_of_no_predicate hpredicate u
            have hgrows := trans_of Scope.Grows hextends.grows (call.grows_opened u)
            rw [madeBy_cons_none hpredicate]
            exact ⟨pieces, .other hgrows (hconjoined.trans hextends.flags.conjoined)
              (hopen.trans hextends.flags.whereOpen) hcalls, htexts⟩
        | some predicate =>
            obtain rfl : call = .filter predicate := by
              cases call <;> cases hpredicate
              rfl
            obtain ⟨piece, hpiece, rfl⟩ := Build.runOn_map_eq_ok.1 hok
            rw [madeBy_cons_ok hpredicate, List.map_cons, List.map_cons, htexts]
            exact ⟨piece :: pieces, .call hpiece hcalls, rfl⟩
      · have hrun : call.run ctx s = (.error e, u) := herror
        rw [hrun] at hcalls htexts ⊢
        rw [madeBy_cons_error]
        exact ⟨pieces, .other hextends.grows hextends.flags.conjoined hextends.flags.whereOpen
          hcalls, htexts⟩

theorem WhereCalls.whereOpen_eq {ctx : Context} {predicates : List Expr}
    {pieces : List WherePiece} {s t : Scope} (h : WhereCalls ctx s predicates pieces t) :
    t.whereOpen = (s.whereOpen || !predicates.isEmpty) := by
  induction h with
  | done s => simp
  | call hpiece _ ih =>
      obtain ⟨chain, u, -, -, rfl⟩ := wherePiece_ok hpiece
      simpa using ih
  | other _ _ hopen _ ih => rwa [hopen] at ih

/-- Keywords open once. On the scope of a new statement, however calls for its parts are interleaved
and whichever fail, the successful orderings are together one ORDER BY part with the columns of all
of them, each with DESC if its call was descending, and the successful groupings, those by distinct
keys included, are one GROUP BY part. The successful filters are one WHERE part, with AND between
their chains, and with AND between all siblings where chains with an OR are closed. The keyword of a
part is open if and only if a call for it has succeeded, and a failed call opens none. -/
theorem keywords_open_once (ctx : Context) (conjoined : Bool) (calls : List Fragment) :
    let start : Scope := { ctx.scope with conjoined }
    let final := start.after ctx calls
    let answered := answers ctx calls start
    (∀ listing : Listing, ∃ columns,
      List.Forall₂ (ListedAs ctx final) (fieldsOf (madeBy listing.listed? answered)) columns ∧
      String.join ((madeBy listing.listed? answered).map (·.2)) =
        partText false listing.keyword ", " (columns.map listedText) ∧
      listing.isOpen final = !(madeBy listing.listed? answered).isEmpty) ∧
    (∃ chains,
      List.Forall₂ (ChainFrom ctx final) ((madeBy Fragment.predicate? answered).map (·.1)) chains ∧
      String.join ((madeBy Fragment.predicate? answered).map (·.2)) =
        partText false "WHERE" " AND "
          ((conjoinedPieces conjoined false chains).map fun piece => chainText piece.chain) ∧
      (conjoined = true → String.join ((madeBy Fragment.predicate? answered).map (·.2)) =
        partText false "WHERE" " AND "
          (chains.flatMap fun chain => (closeIf true chain).map siblingText)) ∧
      final.whereOpen = !(madeBy Fragment.predicate? answered).isEmpty) ∧
    ∀ (call : Fragment) (s t : Scope) (e : QueryError),
      call.run ctx s = (.error e, t) → s.SameFlags t := by
  intro start final answered
  refine ⟨fun listing => ?_, ?_, fun call s t e h => ((call.opens ctx).extends_of_error h).flags⟩
  · obtain ⟨columns, hlisted⟩ := listing.continues_after ctx calls start
    have hclosed : listing.isOpen start = false := by cases listing <;> rfl
    exact ⟨columns, hlisted.shown, hclosed ▸ hlisted.text, by simpa [hclosed] using hlisted.isOpen⟩
  · obtain ⟨pieces, hcalls, htexts⟩ := exists_whereCalls ctx calls start
    obtain ⟨chains, hchains, rfl⟩ := hcalls.pieces_eq
    have hshape : ∀ chain ∈ chains, ∃ orInside, ChainShape .and orInside chain := by
      intro chain hmem
      obtain ⟨predicate, -, hchain⟩ := forall₂_exists_left hchains _ hmem
      exact ⟨_, hchain.shape⟩
    have htext := (congrArg String.join htexts).trans (join_conjoinedPieces conjoined false chains)
    have hopen := hcalls.whereOpen_eq
    rw [List.isEmpty_map, show start.whereOpen = false from rfl, Bool.false_or] at hopen
    refine ⟨chains, hchains, htext, ?_, hopen⟩
    rintro rfl
    exact htext.trans (partText_conjoinedPieces hshape)

/-- The first call fails, and so does one after the WHERE part has been opened. -/
def sampleRequests : List Fragment :=
  [.ordering false (.rootField "Lost"),
    .filter (.or (.fieldOf "Order" "Paid")
      (.compare .eq (.rootField "OrderId") (.literal (.int32 7)))),
    .ordering true (.rootField "Id"), sampleFailing, .grouping true (.rootField "OrderId"),
    .filter (.compare .ne (.rootField "Id") (.literal .null)),
    .ordering false (.fields [⟨none, "OrderId"⟩, ⟨some "Order", "Customer"⟩])]

theorem keywords_open_once_sample :
    (∃ columns : List (String × Column), columns.length = 3 ∧
      String.join ((madeBy Listing.order.listed?
        (answers ⟨sampleLines, sampleLine⟩ sampleRequests (.ofTable "lines"))).map (·.2)) =
          "ORDER BY " ++ ", ".intercalate (columns.map listedText)) ∧
    ∃ chains : List Chain, chains.length = 2 ∧
      String.join ((madeBy Fragment.predicate?
        (answers ⟨sampleLines, sampleLine⟩ sampleRequests (.ofTable "lines"))).map (·.2)) =
          partText false "WHERE" " AND "
            (chains.flatMap fun chain => (closeIf true chain).map siblingText) := by
  obtain ⟨hlistings, ⟨chains, hchains, -, htext, -⟩, -⟩ :=
    keywords_open_once ⟨sampleLines, sampleLine⟩ true sampleRequests
  obtain ⟨columns, hcolumns, horders, -⟩ := hlistings .order
  have hthree : columns.length = 3 := hcolumns.length_eq.symm.trans (by decide +kernel)
  have htwo : chains.length = 2 := hchains.length_eq.symm.trans (by decide +kernel)
  have hne : columns.map listedText ≠ [] := by
    intro hnone
    rw [List.map_eq_nil_iff.1 hnone] at hthree
    cases hthree
  refine ⟨⟨columns, hthree, ?_⟩, chains, htwo, htext rfl⟩
  exact horders.trans (partText_of_ne_nil hne)

end EntityQuery.Sql
