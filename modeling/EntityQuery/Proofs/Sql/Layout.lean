import EntityQuery.Proofs.Sql.Conjunction
import EntityQuery.Proofs.Sql.Groups
import EntityQuery.Proofs.Sql.Joins

/-!
# The layout of a statement

The text of a statement is its parts with single spaces between them: the head, the joins, and then
SET, WHERE, ORDER BY, GROUP BY and LIMIT, each if there is a clause for it. How clauses of different
groups are interleaved is neither seen in the text nor in the parameters. A part may be made in
pieces; its keyword stands only once, since the first piece opens it for the others.
-/
namespace EntityQuery

/-- What the statement of the clauses does: an assignment makes an update, a count makes a count. -/
def Clauses.statementKind (clauses : Clauses) : StatementKind :=
  if clauses.has .set then .update else if clauses.has .count then .count else .select

/-- The keywords of the parts that the clauses ask for, in the order of the text. -/
def Clauses.keywords (clauses : Clauses) : List String :=
  [("SET", clauses.has .set), ("WHERE", clauses.has .filter),
    ("ORDER BY", clauses.has .orderBy || clauses.has .orderByDescending),
    ("GROUP BY", clauses.has .groupBy || clauses.has .distinctBy),
    ("LIMIT", clauses.has .limit)].filterMap fun part => if part.2 then some part.1 else none

theorem Clauses.has_eq_any (clauses : Clauses) (kind : ClauseKind) :
    clauses.has kind = clauses.nodes.any (·.kind = kind) := by
  rw [has, first?, Bool.eq_iff_iff, List.find?_isSome, List.any_eq_true]

namespace Sql

/-- A part after the joins. -/
structure Part where
  keyword : String
  body : String

def Part.text (part : Part) : String := part.keyword ++ " " ++ part.body

/-- A part that is made in pieces, if there are any. -/
def Part.ofPieces {α : Type} (pieces : List α) (keyword body : String) : List Part :=
  if pieces.isEmpty then [] else [⟨keyword, body⟩]

def OrderPiece.items (piece : OrderPiece) : List String :=
  piece.columns.map fun column => column.text ++ if piece.descending then " DESC" else ""

def GroupPiece.items (piece : GroupPiece) : List String := piece.columns.map Column.text

namespace Statement

def setParts (s : Statement) : List Part :=
  (s.assignments.map fun made => Part.mk "SET" (commas (made.map Assignment.text))).toList

def whereParts (s : Statement) : List Part :=
  Part.ofPieces s.wherePieces "WHERE" (chainText (wholeChain s.wherePieces))

def orderParts (s : Statement) : List Part :=
  Part.ofPieces s.orderPieces "ORDER BY" (commas (s.orderPieces.flatMap OrderPiece.items))

def groupParts (s : Statement) : List Part :=
  Part.ofPieces s.groupPieces "GROUP BY" (commas (s.groupPieces.flatMap GroupPiece.items))

def limitParts (s : Statement) : List Part :=
  (s.limit.map fun n => Part.mk "LIMIT" (Text.nat n)).toList

/-- The parts after the joins, in order. -/
def clauseParts (s : Statement) : List Part :=
  s.setParts ++ s.whereParts ++ s.orderParts ++ s.groupParts ++ s.limitParts

end Statement

/-- The text is that of the parts that the clauses ask for, with single spaces between them, and no
part is empty. -/
structure Statement.LaidOut (ctx : Context) (clauses : Clauses) (statement : Statement)
    (text : String) : Prop where
  text : text = " ".intercalate
    (statement.headText ::
      (statement.joins.map Join.text ++ statement.clauseParts.map Part.text))
  kind : statement.kind = clauses.statementKind
  joins : ∃ references, referencedFields ctx.root (clauses.ofKind .reference) = .ok references ∧
    List.Forall₂ (JoinsTo ctx references) (clauses.joinedEntities ctx.root.entity) statement.joins
  keywords : statement.clauseParts.map (·.keyword) = clauses.keywords
  bodies : ∀ part ∈ statement.clauseParts, part.body ≠ ""

theorem OrderPiece.item_ne_empty (piece : OrderPiece) : ∀ item ∈ piece.items, item ≠ "" := by
  intro item hmem
  obtain ⟨column, -, rfl⟩ := List.mem_map.1 hmem
  simp [Column.text]

theorem GroupPiece.item_ne_empty (piece : GroupPiece) : ∀ item ∈ piece.items, item ≠ "" := by
  intro item hmem
  obtain ⟨column, -, rfl⟩ := List.mem_map.1 hmem
  simp [Column.text]

section Texts

theorem intercalate_cons_eq_join (separator first : String) (rest : List String) :
    separator.intercalate (first :: rest) = first ++ String.join (rest.map (separator ++ ·)) := by
  induction rest generalizing first with
  | nil => simp
  | cons next rest ih =>
      rw [String.intercalate_cons_cons, ih, List.map_cons, String.join_cons]
      simp [String.append_assoc]

theorem commas_ne_empty {items : List String} (hne : items ≠ []) (h : ∀ item ∈ items, item ≠ "") :
    commas items ≠ "" := by
  obtain ⟨item, rest, rfl⟩ := List.exists_cons_of_ne_nil hne
  have hitem : item ≠ "" := h item (by simp)
  simp [commas, intercalate_cons_eq_join, hitem]

theorem commas_append {xs ys : List String} (hxs : xs ≠ []) (hys : ys ≠ []) :
    commas (xs ++ ys) = commas xs ++ ", " ++ commas ys :=
  String.intercalate_append_of_ne_nil hxs hys

variable {α : Type} {items : α → List String}

/-- Several lists of items go on after commas. -/
theorem commas_append_flatMap {first : List String} (hfirst : first ≠ []) {rest : List α}
    (hrest : ∀ x ∈ rest, items x ≠ []) :
    commas (first ++ rest.flatMap items) =
      commas first ++ String.join (rest.map fun x => ", " ++ commas (items x)) := by
  induction rest generalizing first with
  | nil => simp
  | cons x rest ih =>
      obtain ⟨hx, hrest⟩ := List.forall_mem_cons.1 hrest
      have hboth : first ++ items x ≠ [] := by simp [hx]
      rw [List.flatMap_cons, ← List.append_assoc, ih hboth hrest, commas_append hfirst hx,
        List.map_cons, String.join_cons]
      simp [String.append_assoc]

theorem commas_flatMap_ne_empty {pieces : List α} (hne : pieces ≠ [])
    (hitems : ∀ x ∈ pieces, items x ≠ []) (htexts : ∀ x, ∀ item ∈ items x, item ≠ "") :
    commas (pieces.flatMap items) ≠ "" := by
  refine commas_ne_empty (fun hnone => ?_) fun item hmem => ?_
  · obtain ⟨piece, rest, rfl⟩ := List.exists_cons_of_ne_nil hne
    exact hitems piece (by simp) (List.flatMap_eq_nil_iff.1 hnone piece (by simp))
  · obtain ⟨piece, -, hin⟩ := List.mem_flatMap.1 hmem
    exact htexts piece item hin

/-- The first piece opens the keyword, and the others do not. -/
def OpensOnce (opens : α → Bool) : List α → Prop
  | [] => True
  | first :: rest => opens first = true ∧ ∀ piece ∈ rest, opens piece = false

/-- With a keyword that is opened once, the pieces of a list are one list. -/
theorem join_listPieces {opens : α → Bool} {keyword : String} {pieces : List α}
    (hne : pieces ≠ []) (hopens : OpensOnce opens pieces) (hitems : ∀ x ∈ pieces, items x ≠ []) :
    String.join (pieces.map fun x => listPiece (opens x) keyword (items x)) =
      keyword ++ " " ++ commas (pieces.flatMap items) := by
  obtain ⟨first, rest, rfl⟩ := List.exists_cons_of_ne_nil hne
  obtain ⟨hopen, hlater⟩ := hopens
  obtain ⟨hfirst, hrest⟩ := List.forall_mem_cons.1 hitems
  have hpieces : rest.map (fun x => listPiece (opens x) keyword (items x)) =
      rest.map fun x => ", " ++ commas (items x) := by
    refine List.map_congr_left fun x hmem => ?_
    rw [listPiece, hlater x hmem]
    simp
  rw [List.map_cons, String.join_cons, hpieces, List.flatMap_cons,
    commas_append_flatMap hfirst hrest, listPiece, hopen]
  simp [String.append_assoc]

end Texts

section Pieces

variable {α β : Type} {piece : α → Build β} {items : List α} {pieces : List β} {s t : Scope}

theorem length_of_piecesOf (h : (piecesOf piece items).runOn s = (.ok pieces, t)) :
    pieces.length = items.length :=
  (forall₂_piecesOf h).length_eq.symm

/-- What every piece has, all pieces have. -/
theorem forall_of_piecesOf {P : β → Prop}
    (hpiece : ∀ {item s made t}, (piece item).runOn s = (.ok made, t) → P made)
    (h : (piecesOf piece items).runOn s = (.ok pieces, t)) : ∀ made ∈ pieces, P made := by
  intro made hmem
  obtain ⟨item, -, u, v, hmade⟩ := forall₂_exists_left (forall₂_piecesOf h) made hmem
  exact hpiece hmade

variable {isOpen : Scope → Bool} {opens : β → Bool}

theorem not_opens_of_piecesOf
    (hpiece : ∀ {item s made t}, (piece item).runOn s = (.ok made, t) →
      opens made = !isOpen s ∧ isOpen t = true)
    (h : (piecesOf piece items).runOn s = (.ok pieces, t)) (hs : isOpen s = true) :
    ∀ made ∈ pieces, opens made = false := by
  induction items generalizing s pieces with
  | nil =>
      cases h
      simp
  | cons item items ih =>
      obtain ⟨first, u, hfirst, h⟩ := Build.runOn_bind_eq_ok.1 h
      obtain ⟨rest, v, hrest, h⟩ := Build.runOn_bind_eq_ok.1 h
      cases h
      obtain ⟨hopens, hu⟩ := hpiece hfirst
      exact List.forall_mem_cons.2 ⟨by rw [hopens, hs]; rfl, ih hrest hu⟩

/-- Pieces that open their keyword where it is not open yet open it once. -/
theorem opensOnce_of_piecesOf
    (hpiece : ∀ {item s made t}, (piece item).runOn s = (.ok made, t) →
      opens made = !isOpen s ∧ isOpen t = true)
    (h : (piecesOf piece items).runOn s = (.ok pieces, t)) (hs : isOpen s = false) :
    OpensOnce opens pieces := by
  cases items with
  | nil =>
      cases h
      trivial
  | cons item items =>
      obtain ⟨first, u, hfirst, h⟩ := Build.runOn_bind_eq_ok.1 h
      obtain ⟨rest, v, hrest, h⟩ := Build.runOn_bind_eq_ok.1 h
      cases h
      obtain ⟨hopens, hu⟩ := hpiece hfirst
      exact ⟨by rw [hopens, hs]; rfl, not_opens_of_piecesOf hpiece hrest hu⟩

end Pieces

/-- A flag that is left as it is. -/
def Scope.Same (flag : Scope → Bool) (s t : Scope) : Prop := flag t = flag s

instance (flag : Scope → Bool) : IsPreorder Scope (Scope.Same flag) where
  refl _ := rfl
  trans _ _ _ h h' := h'.trans h

namespace Build

theorem Keeps.wherePiece_orderOpen (ctx : Context) (e : Expr) :
    Keeps (Scope.Same (·.orderOpen)) (Sql.wherePiece ctx e) :=
  (Opens.wherePiece ctx e).flag_eq (fun h => h.flags.orderOpen) fun _ => rfl

theorem Keeps.wherePiece_groupOpen (ctx : Context) (e : Expr) :
    Keeps (Scope.Same (·.groupOpen)) (Sql.wherePiece ctx e) :=
  (Opens.wherePiece ctx e).flag_eq (fun h => h.flags.groupOpen) fun _ => rfl

theorem Keeps.orderPiece_groupOpen (ctx : Context) (descending : Bool) (e : Expr) :
    Keeps (Scope.Same (·.groupOpen)) (Sql.orderPiece ctx descending e) :=
  (Opens.orderPiece ctx descending e).flag_eq (fun h => h.flags.groupOpen) fun _ => rfl

end Build

section Steps

variable {ctx : Context} {clauses : Clauses} {s t : Scope}

theorem listedColumns_ne_nil {kind : ClauseKind} {e : Expr} {columns : List Column}
    (h : (listedColumns ctx kind e).runOn s = (.ok columns, t)) : columns ≠ [] := by
  have hcons : ∀ {ref refs}, (columnsOf ctx (ref :: refs)).runOn s = (.ok columns, t) →
      columns ≠ [] := by
    intro ref refs h
    obtain ⟨first, u, -, h⟩ := Build.runOn_bind_eq_ok.1 h
    obtain ⟨rest, v, -, h⟩ := Build.runOn_bind_eq_ok.1 h
    cases h
    simp
  unfold listedColumns at h
  split at h
  · exact hcons h
  · exact hcons h
  · cases h

theorem orderPiece_ok {descending : Bool} {e : Expr} {piece : OrderPiece}
    (h : (orderPiece ctx descending e).runOn s = (.ok piece, t)) :
    piece.items ≠ [] ∧ piece.opens = !s.orderOpen ∧ t.orderOpen = true := by
  obtain ⟨columns, u, hcolumns, h⟩ := Build.runOn_bind_eq_ok.1 h
  have hflags := (extends_of_listedColumns hcolumns).flags
  cases h
  exact ⟨by simpa [OrderPiece.items] using listedColumns_ne_nil hcolumns,
    by rw [← hflags.orderOpen], rfl⟩

theorem groupPiece_ok {kind : ClauseKind} {e : Expr} {piece : GroupPiece}
    (h : (groupPiece ctx kind e).runOn s = (.ok piece, t)) :
    piece.items ≠ [] ∧ piece.opens = !s.groupOpen ∧ t.groupOpen = true := by
  obtain ⟨columns, u, hcolumns, h⟩ := Build.runOn_bind_eq_ok.1 h
  have hflags := (extends_of_listedColumns hcolumns).flags
  cases h
  exact ⟨by simpa [GroupPiece.items] using listedColumns_ne_nil hcolumns,
    by rw [← hflags.groupOpen], rfl⟩

theorem chain_ne_nil_of_wherePiece {e : Expr} {piece : WherePiece}
    (h : (wherePiece ctx e).runOn s = (.ok piece, t)) : piece.chain ≠ [] := by
  obtain ⟨chain, u, hchain, rfl, -⟩ := wherePiece_ok h
  obtain ⟨condition, rest, hstarts⟩ :=
    (chainOf_shape hchain).closeIf_starts (u.conjoined || u.whereOpen)
  simp [hstarts]

theorem assignedPairs_ne_nil {e : Expr} {pairs : List (FieldRef × Expr)}
    (h : assignedPairs e = .ok pairs) : pairs ≠ [] := by
  unfold assignedPairs at h
  split at h
  · cases h
    simp
  · cases h
    simp
  · cases h

/-- An update assigns something. -/
theorem setPart_ok {assignments : Option (List Assignment)}
    (h : (setPart ctx clauses).runOn s = (.ok assignments, t)) :
    assignments.isSome = clauses.has .set ∧ ∀ made ∈ assignments, made ≠ [] := by
  unfold setPart at h
  split at h
  · next hnone =>
      cases h
      simp [Clauses.has, hnone]
  · next node hsome =>
      obtain ⟨made, u, hmade, h⟩ := Build.runOn_bind_eq_ok.1 h
      cases h
      refine ⟨by simp [Clauses.has, hsome], fun _ hmem => ?_⟩
      obtain rfl := Option.some.inj hmem
      obtain ⟨pairs, v, hpairs, hmade⟩ := Build.runOn_bind_eq_ok.1 hmade
      obtain ⟨pair, rest, rfl⟩ :=
        List.exists_cons_of_ne_nil (assignedPairs_ne_nil (congrArg Prod.fst hpairs))
      obtain ⟨first, w, -, hmade⟩ := Build.runOn_bind_eq_ok.1 hmade
      obtain ⟨later, x, -, hmade⟩ := Build.runOn_bind_eq_ok.1 hmade
      cases hmade
      simp

theorem headOf_ok {head : Head} (h : (headOf ctx clauses).runOn s = (.ok head, t)) :
    head.kind = clauses.statementKind := by
  unfold headOf at h
  split at h
  · next hset =>
      cases h
      simp [Clauses.statementKind, Clauses.has, hset, Head.kind]
  · next hset hcount =>
      obtain ⟨counted, u, -, h⟩ := Build.runOn_bind_eq_ok.1 h
      cases h
      simp [Clauses.statementKind, Clauses.has, hset, hcount, Head.kind]
  · next hset hcount =>
      cases h
      simp [Clauses.statementKind, Clauses.has, hset, hcount, Head.kind]

theorem limitPart_ok {limit : Option Nat} (h : limitPart clauses = .ok limit) :
    limit.isSome = clauses.has .limit := by
  unfold limitPart at h
  split at h
  · next hnone =>
      cases h
      simp [Clauses.has, hnone]
  · next node hsome =>
      obtain ⟨n, -, rfl⟩ := except_map_eq_ok_iff.1 h
      simp [Clauses.has, hsome]

end Steps

namespace Part

variable {α : Type} {pieces : List α} {keyword body text : String}

theorem body_ne_empty_of_mem_ofPieces (h : pieces ≠ [] → body ≠ "") :
    ∀ part ∈ ofPieces pieces keyword body, part.body ≠ "" := by
  unfold ofPieces
  split
  · simp
  · next hne => simpa using h (by simpa using hne)

theorem filter_ofPieces (hnone : pieces = [] → text = "")
    (hsome : pieces ≠ [] → text = keyword ++ " " ++ body) :
    [text].filter (!·.isEmpty) = (ofPieces pieces keyword body).map Part.text := by
  unfold ofPieces
  cases pieces with
  | nil => simp [hnone rfl]
  | cons piece pieces => simp [hsome (by simp), Part.text]

end Part

section Asked

theorem isEmpty_predicatesOf (clauses : Clauses) :
    (predicatesOf clauses).isEmpty = !clauses.has .filter := by
  rw [Clauses.has_eq_any, predicatesOf, Clauses.ofKind]
  induction clauses.nodes with
  | nil => rfl
  | cons node nodes ih =>
      by_cases hkind : node.kind = .filter
      · simp [hkind]
      · simpa [hkind] using ih

theorem isEmpty_orderings (clauses : Clauses) :
    (orderings clauses.nodes).isEmpty =
      !(clauses.has .orderBy || clauses.has .orderByDescending) := by
  rw [Clauses.has_eq_any, Clauses.has_eq_any]
  induction clauses.nodes with
  | nil => rfl
  | cons node nodes ih =>
      rw [orderings, List.filterMap_cons]
      cases hkind : node.kind <;> simp_all [orderings]

theorem isEmpty_groupings (clauses : Clauses) :
    (groupings clauses.nodes).isEmpty = !(clauses.has .groupBy || clauses.has .distinctBy) := by
  rw [Clauses.has_eq_any, Clauses.has_eq_any]
  induction clauses.nodes with
  | nil => rfl
  | cons node nodes ih =>
      rw [groupings, List.filterMap_cons]
      cases hkind : node.kind <;> simp_all [groupings]

/-- The statement has the parts that the clauses ask for, each keyword is opened once, and no part
lists nothing. -/
structure Statement.Answers (clauses : Clauses) (s : Statement) : Prop where
  set : s.assignments.isSome = clauses.has .set
  assignments : ∀ made ∈ s.assignments, made ≠ []
  filter : s.wherePieces.isEmpty = !clauses.has .filter
  whereText : s.wherePieces ≠ [] →
    s.whereText = "WHERE" ++ " " ++ chainText (wholeChain s.wherePieces)
  chains : ∀ piece ∈ s.wherePieces, piece.chain ≠ []
  order : s.orderPieces.isEmpty = !(clauses.has .orderBy || clauses.has .orderByDescending)
  orderOpens : OpensOnce OrderPiece.opens s.orderPieces
  orderItems : ∀ piece ∈ s.orderPieces, piece.items ≠ []
  group : s.groupPieces.isEmpty = !(clauses.has .groupBy || clauses.has .distinctBy)
  groupOpens : OpensOnce GroupPiece.opens s.groupPieces
  groupItems : ∀ piece ∈ s.groupPieces, piece.items ≠ []
  limit : s.limit.isSome = clauses.has .limit

theorem isEmpty_of_piecesOf {α β : Type} {piece : α → Build β} {items : List α} {pieces : List β}
    {s t : Scope} (h : (piecesOf piece items).runOn s = (.ok pieces, t)) :
    pieces.isEmpty = items.isEmpty := by
  have hlength := length_of_piecesOf h
  cases pieces <;> cases items <;> simp_all

theorem answers_of_statementOf {ctx : Context} {clauses : Clauses} {t : Scope}
    {statement : Statement} (h : (statementOf ctx clauses).runOn ctx.scope = (.ok statement, t)) :
    statement.Answers clauses := by
  obtain ⟨chains, hchains, hconjoins⟩ := conjoins_of_statementOf h rfl
  obtain ⟨references, headed, assigned, filtered, ordered, steps⟩ := statementSteps_of_ok h
  obtain ⟨hset, hassignments⟩ := setPart_ok steps.assignments
  have hassigned : ctx.scope.Extends assigned :=
    .trans ((Build.Keeps.headOf clauses).of_eq steps.head)
      ((Build.Keeps.setPart clauses).of_eq steps.assignments)
  -- neither list is open before its first piece is made
  have horderOpen : filtered.orderOpen = false :=
    ((Build.Keeps.piecesOf (Build.Keeps.wherePiece_orderOpen ctx) _).of_eq steps.wheres).trans
      hassigned.flags.orderOpen
  have hfilteredGroup : filtered.groupOpen = false :=
    ((Build.Keeps.piecesOf (Build.Keeps.wherePiece_groupOpen ctx) _).of_eq steps.wheres).trans
      hassigned.flags.groupOpen
  have hgroupOpen : ordered.groupOpen = false :=
    ((Build.Keeps.piecesOf (fun _ => .orderPiece_groupOpen ctx _ _) _).of_eq steps.orders).trans
      hfilteredGroup
  have hfilter := (isEmpty_of_piecesOf steps.wheres).trans (isEmpty_predicatesOf clauses)
  refine ⟨hset, hassignments, hfilter, fun hne => ?_,
    forall_of_piecesOf chain_ne_nil_of_wherePiece steps.wheres,
    (isEmpty_of_piecesOf steps.orders).trans (isEmpty_orderings clauses),
    opensOnce_of_piecesOf (fun h => (orderPiece_ok h).2) steps.orders horderOpen,
    forall_of_piecesOf (fun h => (orderPiece_ok h).1) steps.orders,
    (isEmpty_of_piecesOf steps.groups).trans (isEmpty_groupings clauses),
    opensOnce_of_piecesOf (fun h => (groupPiece_ok h).2) steps.groups hgroupOpen,
    forall_of_piecesOf (fun h => (groupPiece_ok h).1) steps.groups, limitPart_ok steps.limit⟩
  have hmade : chains ≠ [] := by
    rintro rfl
    have hlength := (length_of_piecesOf steps.wheres).trans hchains.length_eq
    exact hne (List.length_eq_zero_iff.1 hlength)
  rw [hconjoins.text_of_ne_nil hmade, spell_chainTokens]
  rfl

variable {clauses : Clauses} {statement : Statement}

namespace Statement.Answers

theorem keywords_eq (h : statement.Answers clauses) :
    statement.clauseParts.map (·.keyword) = clauses.keywords := by
  rw [Clauses.keywords, ← h.set, ← h.limit]
  simp only [clauseParts, setParts, whereParts, orderParts, groupParts, limitParts, Part.ofPieces,
    h.filter, h.order, h.group]
  cases statement.assignments <;> cases clauses.has .filter <;>
    cases clauses.has .orderBy || clauses.has .orderByDescending <;>
    cases clauses.has .groupBy || clauses.has .distinctBy <;> cases statement.limit <;> rfl

theorem body_ne_empty (h : statement.Answers clauses) :
    ∀ part ∈ statement.clauseParts, part.body ≠ "" := by
  have hset : ∀ part ∈ statement.setParts, part.body ≠ "" := by
    intro part hmem
    obtain ⟨made, hmade, rfl⟩ := Option.map_eq_some_iff.1 (Option.mem_toList.1 hmem)
    exact commas_ne_empty (by simpa using h.assignments made hmade) (by simp [Assignment.text])
  have hwhere : ∀ part ∈ statement.whereParts, part.body ≠ "" := by
    refine Part.body_ne_empty_of_mem_ofPieces fun hne => ?_
    obtain ⟨piece, rest, hpieces⟩ := List.exists_cons_of_ne_nil hne
    obtain ⟨sibling, chain, hchain⟩ :=
      List.exists_cons_of_ne_nil (h.chains piece (by simp [hpieces]))
    simp [hpieces, wholeChain, hchain, chainText]
  have horder : ∀ part ∈ statement.orderParts, part.body ≠ "" :=
    Part.body_ne_empty_of_mem_ofPieces fun hne =>
      commas_flatMap_ne_empty hne h.orderItems OrderPiece.item_ne_empty
  have hgroup : ∀ part ∈ statement.groupParts, part.body ≠ "" :=
    Part.body_ne_empty_of_mem_ofPieces fun hne =>
      commas_flatMap_ne_empty hne h.groupItems GroupPiece.item_ne_empty
  have hlimit : ∀ part ∈ statement.limitParts, part.body ≠ "" := by
    intro part hmem
    obtain ⟨n, -, rfl⟩ := Option.map_eq_some_iff.1 (Option.mem_toList.1 hmem)
    simp [Text.nat]
  simp only [clauseParts, List.forall_mem_append]
  exact ⟨⟨⟨⟨hset, hwhere⟩, horder⟩, hgroup⟩, hlimit⟩

/-- The parts after the joins that are not empty are those that are asked for. -/
theorem filter_laterParts (h : statement.Answers clauses) :
    statement.laterParts.filter (!·.isEmpty) = statement.clauseParts.map Part.text := by
  have hset : (statement.assignments.map assignmentsText).toList.filter (!·.isEmpty) =
      statement.setParts.map Part.text := by
    unfold setParts
    cases statement.assignments with
    | none => rfl
    | some made => simp [assignmentsText, Part.text]
  have hwhere : [statement.whereText].filter (!·.isEmpty) = statement.whereParts.map Part.text :=
    Part.filter_ofPieces (fun hnone => by rw [Statement.whereText, hnone]; rfl) h.whereText
  have horder : [statement.orderText].filter (!·.isEmpty) = statement.orderParts.map Part.text :=
    Part.filter_ofPieces (fun hnone => by rw [orderText, hnone]; rfl)
      fun hne => join_listPieces hne h.orderOpens h.orderItems
  have hgroup : [statement.groupText].filter (!·.isEmpty) = statement.groupParts.map Part.text :=
    Part.filter_ofPieces (fun hnone => by rw [groupText, hnone]; rfl)
      fun hne => join_listPieces hne h.groupOpens h.groupItems
  have hlimit : (statement.limit.map limitText).toList.filter (!·.isEmpty) =
      statement.limitParts.map Part.text := by
    unfold limitParts
    cases statement.limit with
    | none => rfl
    | some n => simp [limitText, Part.text]
  have hparts : statement.laterParts = (statement.assignments.map assignmentsText).toList ++
      [statement.whereText] ++ [statement.orderText] ++ [statement.groupText] ++
        (statement.limit.map limitText).toList := by
    simp [laterParts]
  rw [hparts]
  simp only [List.filter_append, List.map_append, clauseParts, hset, hwhere, horder, hgroup,
    hlimit]

theorem text_eq (h : statement.Answers clauses) :
    statement.text = " ".intercalate
      (statement.headText ::
        (statement.joins.map Join.text ++ statement.clauseParts.map Part.text)) := by
  rw [Statement.text_eq, spaced, h.filter_laterParts, intercalate_cons_eq_join, List.map_append,
    String.join_append, List.map_map, List.map_map, String.append_assoc]
  rfl

end Statement.Answers

end Asked

/-- A statement and its parameters are those of the groups. -/
theorem plan_congr {clauses clauses' : Clauses} (h : clauses.SameGroups clauses')
    (registry : Registry) (root : String) :
    plan registry root clauses = plan registry root clauses' := by
  have hplan (ctx : Context) :
      planOn ctx ctx.scope clauses = planOn ctx ctx.scope clauses' := by
    rw [planOn, planOn, statementOf_congr h ctx]
  simp only [plan, hplan]

/-- Clauses of different groups may be interleaved in any way: the query is the same, and so is an
error. The text of a query is the head, the joins and the parts that the clauses ask for, in the
fixed order. -/
theorem compile_by_groups (registry : Registry) (root : String) (clauses : Clauses) :
    (∀ clauses', clauses.SameGroups clauses' →
      compile registry root clauses = compile registry root clauses') ∧
    ∀ query, compile registry root clauses = .ok query →
      ∃ ctx statement, Context.of registry root = .ok ctx ∧
        plan registry root clauses = .ok (statement, query.params) ∧
        statement.LaidOut ctx clauses query.sql := by
  constructor
  · intro clauses' h
    rw [compile, compile, plan_congr h]
  · intro query h
    obtain ⟨ctx, hctx, hcompile⟩ := compile_ok h
    obtain ⟨statement, t, hrun, rfl⟩ := compileOn_ok hcompile
    obtain ⟨references, headed, assigned, filtered, ordered, steps⟩ := statementSteps_of_ok hrun
    have hmade : statement.MadeOf ctx clauses references t := .of_steps steps
    have hanswers := answers_of_statementOf hrun
    exact ⟨ctx, statement, hctx, plan_of_statementOf hctx hrun,
      ⟨hanswers.text_eq, headOf_ok steps.head, ⟨references, steps.referenced, hmade.joined.joins⟩,
        hanswers.keywords_eq, hanswers.body_ne_empty⟩⟩

/-- Two filters on lines, a limit and an ordering. -/
def sampleInterleaved : Clauses :=
  .ofList [.of .filter (.fieldOf "Order" "Paid"), .of .limit (.literal (.int32 3)),
    .of .orderBy (.rootField "Id"),
    .of .filter (.compare .gt (.rootField "OrderId") (.literal (.int32 7)))]

/-- The same, one group after the other. -/
def sampleGrouped : Clauses :=
  .ofList [.of .orderBy (.rootField "Id"), .of .limit (.literal (.int32 3)),
    .of .filter (.fieldOf "Order" "Paid"),
    .of .filter (.compare .gt (.rootField "OrderId") (.literal (.int32 7)))]

theorem compile_by_groups_sample :
    ∃ query statement, compile sampleLines "Line" sampleInterleaved = .ok query ∧
      compile sampleLines "Line" sampleGrouped = .ok query ∧
      plan sampleLines "Line" sampleInterleaved = .ok (statement, query.params) ∧
      statement.clauseParts.map (·.keyword) = ["WHERE", "ORDER BY", "LIMIT"] := by
  have hok : (compile sampleLines "Line" sampleInterleaved).isOk = true := by decide +kernel
  obtain ⟨query, hquery⟩ := except_exists_of_isOk hok
  have hsame : sampleInterleaved.SameGroups sampleGrouped := by
    intro group
    cases group <;> rfl
  obtain ⟨hgroups, hlaid⟩ := compile_by_groups sampleLines "Line" sampleInterleaved
  obtain ⟨ctx, statement, -, hplan, hparts⟩ := hlaid query hquery
  have hkeywords : sampleInterleaved.keywords = ["WHERE", "ORDER BY", "LIMIT"] := by decide
  exact ⟨query, statement, hquery, (hgroups _ hsame).symm.trans hquery, hplan,
    hparts.keywords.trans hkeywords⟩

end Sql

end EntityQuery
