import EntityQuery.Query.Clause
import Mathlib.Data.List.Basic
import Mathlib.Data.List.Induction

/-!
# Collecting clauses

What a collection of clauses holds after any number of additions, read off the clauses that were
added and not off the way in which this was done. Predicates and references stand as they came. Of
every other kind one clause is left, the last of those that came, at the place of the first.
-/
namespace EntityQuery.Clauses

/-- What is left of some clauses at the place of one of them. A clause of a kind that accumulates
stays; of any other kind, the last one stands at the place of the first. -/
def settledAt (nodes : List Clause) (place : ℕ) (node : Clause) : Option Clause :=
  if node.kind.isSingleton then
    if (nodes.take place).any (·.kind = node.kind) then none
    else (nodes.filter (·.kind = node.kind)).getLast?
  else some node

/-- What is left of some clauses, in order. -/
def settled (nodes : List Clause) : List Clause :=
  nodes.zipIdx.filterMap fun entry => settledAt nodes entry.2 entry.1

/-! ### One replacement -/

/-- What becomes of a clause when another takes the place of those of its kind. -/
def replacedBy (node c : Clause) : Clause := if c.kind = node.kind then node else c

theorem map_replacedBy_of_none {node : Clause} {nodes : List Clause}
    (h : ∀ c ∈ nodes, c.kind ≠ node.kind) : nodes.map (replacedBy node) = nodes :=
  (List.map_congr_left fun c hmem => if_neg (h c hmem)).trans (List.map_id _)

theorem filter_kind_eq_nil_iff {kind : ClauseKind} {nodes : List Clause} :
    nodes.filter (·.kind = kind) = [] ↔ ∀ c ∈ nodes, c.kind ≠ kind := by
  simp [List.filter_eq_nil_iff]

/-- Without a clause of its kind, a clause stands at the end. -/
theorem replaceOrAppend_of_none {node : Clause} {nodes : List Clause}
    (h : nodes.filter (·.kind = node.kind) = []) :
    replaceOrAppend node nodes = nodes ++ [node] := by
  induction nodes with
  | nil => rfl
  | cons c cs ih =>
      obtain ⟨hc, hcs⟩ := List.forall_mem_cons.1 (filter_kind_eq_nil_iff.1 h)
      rw [replaceOrAppend, if_neg hc, ih (filter_kind_eq_nil_iff.2 hcs)]
      rfl

/-- If there is one clause of its kind, a clause takes its place. -/
theorem replaceOrAppend_of_one {node old : Clause} {nodes : List Clause}
    (h : nodes.filter (·.kind = node.kind) = [old]) :
    replaceOrAppend node nodes = nodes.map (replacedBy node) := by
  induction nodes with
  | nil => cases h
  | cons c cs ih =>
      rw [List.filter_cons] at h
      rw [replaceOrAppend, List.map_cons]
      by_cases hc : c.kind = node.kind
      · rw [if_pos (by simpa using hc)] at h
        have hothers := filter_kind_eq_nil_iff.1 (List.cons.inj h).2
        rw [if_pos hc, replacedBy, if_pos hc, map_replacedBy_of_none hothers]
      · rw [if_neg (by simpa using hc)] at h
        rw [if_neg hc, replacedBy, if_neg hc, ih h]

/-- In a collection with at most one clause of its kind, a clause is the only one of its kind. -/
theorem filter_replaceOrAppend_self {node : Clause} {nodes : List Clause}
    (h : (nodes.filter (·.kind = node.kind)).length ≤ 1) :
    (replaceOrAppend node nodes).filter (·.kind = node.kind) = [node] := by
  rcases hkind : nodes.filter (·.kind = node.kind) with - | ⟨old, - | ⟨other, rest⟩⟩
  · rw [replaceOrAppend_of_none hkind, List.filter_append, hkind]
    simp
  · rw [replaceOrAppend_of_one hkind, List.filter_map]
    have hsame : (fun c : Clause => decide (c.kind = node.kind)) ∘ replacedBy node =
        fun c => decide (c.kind = node.kind) := by
      funext c
      by_cases hc : c.kind = node.kind <;> simp [replacedBy, hc]
    have hold : old.kind = node.kind := by
      have hmem : old ∈ nodes.filter (·.kind = node.kind) := hkind ▸ List.mem_singleton_self old
      simpa using (List.mem_filter.1 hmem).2
    rw [hsame, hkind]
    simp [replacedBy, hold]
  · rw [hkind] at h
    simp at h

theorem filter_accumulating_replaceOrAppend {node : Clause} (h : node.kind.isSingleton = true)
    (nodes : List Clause) : (replaceOrAppend node nodes).filter (!·.kind.isSingleton) =
      nodes.filter (!·.kind.isSingleton) := by
  induction nodes with
  | nil => simp [replaceOrAppend, h]
  | cons c cs ih =>
      rw [replaceOrAppend]
      split
      · next same => simp [h, same]
      · rw [List.filter_cons, List.filter_cons, ih]

/-! ### Runs of additions -/

theorem ofList_concat (nodes : List Clause) (node : Clause) :
    ofList (nodes ++ [node]) = (ofList nodes).push node := by
  rw [ofList, extend_append]
  rfl

/-- Predicates and references are left as they came. -/
theorem filter_accumulating_ofList (nodes : List Clause) :
    (ofList nodes).nodes.filter (!·.kind.isSingleton) = nodes.filter (!·.kind.isSingleton) := by
  induction nodes using List.reverseRecOn with
  | nil => rfl
  | append_singleton nodes node ih =>
      rw [ofList_concat, List.filter_append, ← ih]
      cases hkind : node.kind.isSingleton
      · rw [push_of_not_isSingleton hkind, List.filter_append]
      · rw [push_of_isSingleton hkind, filter_accumulating_replaceOrAppend hkind]
        simp [hkind]

/-- Of a kind that is held once, the last clause is left. -/
theorem ofKind_ofList {kind : ClauseKind} (h : kind.isSingleton = true) (nodes : List Clause) :
    (ofList nodes).ofKind kind = (nodes.filter (·.kind = kind)).getLast?.toList := by
  induction nodes using List.reverseRecOn with
  | nil => rfl
  | append_singleton nodes node ih =>
      rw [ofList_concat, List.filter_append]
      by_cases hkind : node.kind = kind
      · subst hkind
        have hone : ((ofList nodes).nodes.filter (·.kind = node.kind)).length ≤ 1 := by
          have hlast := congrArg List.length ih
          rw [ofKind] at hlast
          rw [hlast]
          cases (nodes.filter (·.kind = node.kind)).getLast? <;> simp
        rw [push_of_isSingleton h, ofKind, filter_replaceOrAppend_self hone]
        simp
      · rw [ofKind_push_of_ne hkind, ih]
        simp [hkind]

theorem length_ofKind_ofList_le {kind : ClauseKind} (h : kind.isSingleton = true)
    (nodes : List Clause) : ((ofList nodes).ofKind kind).length ≤ 1 := by
  rw [ofKind_ofList h]
  cases (nodes.filter (·.kind = kind)).getLast? <;> simp

/-- What a later clause leaves of an earlier one. -/
def superseded (node c : Clause) : Clause :=
  if node.kind.isSingleton then replacedBy node c else c

theorem superseded_of_accumulates {c : Clause} (h : ¬ c.kind.isSingleton = true)
    (node : Clause) : superseded node c = c := by
  unfold superseded replacedBy
  split
  · next hnode =>
      refine if_neg fun hsame => h ?_
      rw [hsame]
      exact hnode
  · rfl

/-- A later clause changes what is left at an earlier place only as it supersedes that. -/
theorem settledAt_concat {nodes : List Clause} {c : Clause} {place : ℕ}
    (hplace : nodes[place]? = some c) (node : Clause) :
    settledAt (nodes ++ [node]) place c = (settledAt nodes place c).map (superseded node) := by
  obtain ⟨hlt, hget⟩ := List.getElem?_eq_some_iff.1 hplace
  have hmem : c ∈ nodes := hget ▸ List.getElem_mem hlt
  unfold settledAt
  rw [List.take_append_of_le_length (Nat.le_of_lt hlt)]
  by_cases hkind : c.kind.isSingleton = true
  · rw [if_pos hkind, if_pos hkind]
    split
    · rfl
    · rcases hlast : (nodes.filter (·.kind = c.kind)).getLast? with - | last
      · have hnone := List.getLast?_eq_none_iff.1 hlast
        exact absurd rfl (filter_kind_eq_nil_iff.1 hnone c hmem)
      · have hkept := List.mem_of_getLast? hlast
        have hsame : last.kind = c.kind := by simpa using (List.mem_filter.1 hkept).2
        rw [List.filter_append, List.getLast?_append, hlast, Option.map_some, superseded,
          replacedBy, hsame]
        by_cases hnode : node.kind = c.kind
        · simp [hnode, hkind]
        · simp [hnode, Ne.symm hnode]
  · rw [if_neg hkind, if_neg hkind, Option.map_some, superseded_of_accumulates hkind]

theorem settled_concat (nodes : List Clause) (node : Clause) :
    settled (nodes ++ [node]) = (settled nodes).map (superseded node) ++
      (settledAt (nodes ++ [node]) nodes.length node).toList := by
  have hearlier : nodes.zipIdx.filterMap (fun entry =>
      settledAt (nodes ++ [node]) entry.2 entry.1) =
        nodes.zipIdx.filterMap fun entry =>
          (settledAt nodes entry.2 entry.1).map (superseded node) :=
    List.filterMap_congr fun entry hmem =>
      settledAt_concat (List.mk_mem_zipIdx_iff_getElem?.1 hmem) node
  rw [settled, List.zipIdx_append, List.filterMap_append, hearlier, Nat.zero_add, settled,
    List.map_filterMap]
  cases hlast : settledAt (nodes ++ [node]) nodes.length node <;> simp [hlast]

/-- Collecting clauses leaves what the clauses themselves say. -/
theorem nodes_ofList (nodes : List Clause) : (ofList nodes).nodes = settled nodes := by
  induction nodes using List.reverseRecOn with
  | nil => rfl
  | append_singleton nodes node ih =>
      rw [ofList_concat, settled_concat, ← ih, settledAt, List.take_left]
      cases hkind : node.kind.isSingleton
      · have hstay : superseded node = id := funext fun c => if_neg (by simp [hkind])
        rw [push_of_not_isSingleton hkind, hstay, List.map_id]
        rfl
      · have hone := ofKind_ofList hkind nodes
        have hreplace : superseded node = replacedBy node := funext fun c => if_pos hkind
        rw [ofKind] at hone
        rw [push_of_isSingleton hkind, hreplace, if_pos rfl, List.filter_append]
        rcases hlast : (nodes.filter (·.kind = node.kind)).getLast? with - | last
        · -- the clause is the first of its kind
          rw [hlast] at hone
          have hnone := List.getLast?_eq_none_iff.1 hlast
          have hfirst : nodes.any (·.kind = node.kind) = false := by
            simpa using filter_kind_eq_nil_iff.1 hnone
          rw [replaceOrAppend_of_none hone,
            map_replacedBy_of_none (filter_kind_eq_nil_iff.1 hone), hfirst, hnone]
          simp
        · rw [hlast] at hone
          have hlater : nodes.any (·.kind = node.kind) = true := by
            have hkept := List.mem_filter.1 (List.mem_of_getLast? hlast)
            exact List.any_eq_true.2 ⟨last, hkept.1, hkept.2⟩
          rw [replaceOrAppend_of_one hone, hlater]
          simp

/-- Clauses of which none takes the place of another are collected as they are. -/
theorem ofList_eq_self {nodes : List Clause}
    (h : ∀ kind, kind.isSingleton = true → (nodes.filter (·.kind = kind)).length ≤ 1) :
    ofList nodes = ⟨nodes⟩ := by
  induction nodes using List.reverseRecOn with
  | nil => rfl
  | append_singleton nodes node ih =>
      have hearlier (kind : ClauseKind) (hkind : kind.isSingleton = true) :=
        Nat.le_trans ((List.sublist_append_left nodes [node]).filter (·.kind = kind)).length_le
          (h kind hkind)
      rw [ofList_concat, ih hearlier]
      cases hkind : node.kind.isSingleton
      · exact push_of_not_isSingleton hkind _
      · have hnone : nodes.filter (·.kind = node.kind) = [] := by
          have hone := h node.kind hkind
          rw [List.filter_append, List.filter_cons_of_pos (by simp), List.length_append] at hone
          exact List.length_eq_zero_iff.1 (by simpa using hone)
        rw [push_of_isSingleton hkind, replaceOrAppend_of_none hnone]

theorem ofList_nodes_ofList (nodes : List Clause) : ofList (ofList nodes).nodes = ofList nodes :=
  ofList_eq_self fun _ hkind => length_ofKind_ofList_le hkind nodes

theorem foldl_extend (clauses : Clauses) (parts : List (List Clause)) :
    parts.foldl extend clauses = clauses.extend parts.flatten := by
  induction parts generalizing clauses with
  | nil => rfl
  | cons part parts ih => rw [List.foldl_cons, ih, List.flatten_cons, extend_append]

/-- Clauses are collected alike one by one, in groups or all at once. What is left is `settled`: all
predicates and references in the order in which they came, and of each other kind that came the last
clause, at the place of the first; so there is at most one. More clauses can be added to a
collection or collected with the others, and what a collection holds is collected to the same. -/
theorem settled_of_collected (nodes : List Clause) :
    nodes.foldl push empty = ofList nodes ∧
    (∀ parts : List (List Clause), parts.flatten = nodes →
      parts.foldl extend empty = ofList nodes) ∧
    (ofList nodes).nodes = settled nodes ∧
    (ofList nodes).nodes.filter (!·.kind.isSingleton) = nodes.filter (!·.kind.isSingleton) ∧
    (∀ kind, kind.isSingleton = true →
      (ofList nodes).ofKind kind = (nodes.filter (·.kind = kind)).getLast?.toList ∧
        ((ofList nodes).ofKind kind).length ≤ 1) ∧
    (∀ more, (ofList nodes).extend more = ofList (nodes ++ more)) ∧
    ofList (ofList nodes).nodes = ofList nodes := by
  refine ⟨rfl, ?_, nodes_ofList nodes, filter_accumulating_ofList nodes, ?_, ?_,
    ofList_nodes_ofList nodes⟩
  · rintro parts rfl
    exact foldl_extend empty parts
  · exact fun kind hkind => ⟨ofKind_ofList hkind nodes, length_ofKind_ofList_le hkind nodes⟩
  · exact fun more => (extend_append empty nodes more).symm

/-- Two predicates, two orderings and a limit. -/
def sampleCollected : List Clause :=
  [.of .filter (.rootField "A"), .of .orderBy (.rootField "A"), .of .filter (.rootField "B"),
    .of .orderBy (.rootField "B"), .of .limit (.literal (.int32 5))]

/-- The later ordering stands between the predicates, however the clauses are grouped. -/
theorem settled_of_collected_sample :
    [sampleCollected.take 2, [], sampleCollected.drop 2].foldl extend empty =
      ofList sampleCollected ∧
    (ofList sampleCollected).nodes =
      [.of .filter (.rootField "A"), .of .orderBy (.rootField "B"), .of .filter (.rootField "B"),
        .of .limit (.literal (.int32 5))] ∧
    (ofList sampleCollected).ofKind .orderBy = [.of .orderBy (.rootField "B")] := by
  obtain ⟨-, hparts, hsettled, -, honce, -, -⟩ := settled_of_collected sampleCollected
  exact ⟨hparts _ rfl, hsettled.trans rfl, (honce .orderBy rfl).1.trans rfl⟩

end EntityQuery.Clauses
