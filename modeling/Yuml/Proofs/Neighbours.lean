import Yuml.Proofs.Resolution
import Yuml.Proofs.Table

/-!
# Neighbours: what becomes of the edge at an index

`resolve` works on the ring of a row. This file says what a run against the table of the same row does
with the edge at an INDEX, without ring, table or ledger:

* the neighbours of an index are the elements before and behind it, the row being closed to a ring
  (`previous?`, `following?`);
* an edge is joined if and only if both of them are nodes (`isJoinedAt`), and every other edge is dropped
  because it stands beside an edge (`isStrayAt`): a node of the row is never unknown to its table;
* `Links` is what the relation of a joined edge says: the RANKS of its neighbours among the distinct keys
  of the nodes, whether it touches a note, whether it is dashed and whether it enters a bar.

`Resolution.Complete` puts this together for a run, and `resolve_complete` is true of every row and
ledger.
-/

namespace Yuml

/-! ## 1. Neighbours -/

/-- The element before an index; the last one stands before the first. -/
def previous? (row : List Placed) (i : Nat) : Option Placed :=
  row[(i + row.length - 1) % row.length]?

/-- The element behind an index; the first one stands behind the last. -/
def following? (row : List Placed) (i : Nat) : Option Placed := row[(i + 1) % row.length]?

theorem previous?_inner {row : List Placed} {i : Nat} (h : i < row.length) (h₀ : 0 < i) :
    previous? row i = row[i - 1]? := by
  have hindex : (i + row.length - 1) % row.length = i - 1 := by
    rw [show i + row.length - 1 = i - 1 + row.length by omega, Nat.add_mod_right,
      Nat.mod_eq_of_lt (by omega)]
  rw [previous?, hindex]

theorem following?_inner {row : List Placed} {i : Nat} (h : i + 1 < row.length) :
    following? row i = row[i + 1]? := by
  rw [following?, Nat.mod_eq_of_lt h]

/-- Whether an edge stands at an index. -/
def isEdgeAt (row : List Placed) (i : Nat) : Bool := row[i]?.any (·.isEdge)

/-- Whether both neighbours of an index are nodes. -/
def isBetweenNodes (row : List Placed) (i : Nat) : Bool :=
  (previous? row i).any (fun p => !p.isEdge) && (following? row i).any (fun p => !p.isEdge)

/-- Whether the edge at an index is joined to its neighbours. -/
def isJoinedAt (row : List Placed) (i : Nat) : Bool := isEdgeAt row i && isBetweenNodes row i

/-- Whether the edge at an index stands beside another edge. -/
def isStrayAt (row : List Placed) (i : Nat) : Bool := isEdgeAt row i && !isBetweenNodes row i

/-- **The ring has at each index the element there between its neighbours.** -/
theorem getElem?_ring {row : List Placed} {i : Nat} {q : Placed × Placed × Placed} :
    (ring row)[i]? = some q ↔
      previous? row i = some q.1 ∧ row[i]? = some q.2.1 ∧ following? row i = some q.2.2 := by
  unfold ring previous? following?
  rw [List.getElem?_zip_eq_some, List.getElem?_zip_eq_some, rotateRight_eq_rotate,
    rotateLeft_eq_rotate]
  by_cases hi : i < row.length
  · have hindex : i + (row.length - 1) = i + row.length - 1 := by omega
    rw [List.getElem?_rotate hi, List.getElem?_rotate hi, hindex]
  · have hnone : row[i]? = none := List.getElem?_eq_none (Nat.le_of_not_lt hi)
    rw [hnone]
    constructor
    · rintro ⟨-, h, -⟩
      cases h
    · rintro ⟨-, h, -⟩
      cases h

theorem length_ring (row : List Placed) : (ring row).length = row.length := by
  have h := congrArg List.length (map_ring row)
  rwa [List.length_map] at h

/-! ## 2. Lists by index -/

section Index

variable {α β γ : Type}

/-- What is made of the members of a list, each with its index, is made of the indices. -/
theorem filterMap_zipIdx (f : α → Option β) (g : Nat → β → γ) (l : List α) :
    (l.zipIdx.filterMap fun q => (f q.1).map (g q.2)) =
      (List.range l.length).filterMap fun i => (l[i]?.bind f).map (g i) := by
  induction l using List.reverseRecOn with
  | nil => rfl
  | append_singleton l a ih =>
    have hfront : ∀ i ∈ List.range l.length, (l ++ [a])[i]? = l[i]? := fun i hi =>
      List.getElem?_append_left (List.mem_range.mp hi)
    have hcongr : ((List.range l.length).filterMap fun i => ((l ++ [a])[i]?.bind f).map (g i)) =
        (List.range l.length).filterMap fun i => (l[i]?.bind f).map (g i) :=
      List.filterMap_congr fun i hi => by rw [hfront i hi]
    rw [List.zipIdx_append, List.filterMap_append, ih, List.length_append, List.length_singleton,
      List.range_succ, List.filterMap_append, hcongr]
    simp [List.filterMap_cons]

theorem filterMap_eq_range (f : α → Option β) (l : List α) :
    l.filterMap f = (List.range l.length).filterMap fun i => l[i]?.bind f := by
  have h := filterMap_zipIdx f (fun _ b => b) l
  simp only [Option.map_id'] at h
  rw [← h]
  conv_lhs => rw [← List.zipIdx_map_fst 0 l, List.filterMap_map]
  rfl

/-- What a partial function makes of a list stands beside the members that it is defined on. -/
theorem forall₂_filterMap (f : α → Option β) (l : List α) :
    List.Forall₂ (fun a b => f a = some b) (l.filter fun a => (f a).isSome) (l.filterMap f) := by
  induction l with
  | nil => exact .nil
  | cons a l ih =>
    rw [List.filter_cons, List.filterMap_cons]
    cases ha : f a with
    | none => exact ih
    | some b => exact .cons ha ih

theorem filterMap_ite (p : α → Bool) (g : α → β) (l : List α) :
    (l.filterMap fun a => if p a = true then some (g a) else none) = (l.filter p).map g := by
  induction l with
  | nil => rfl
  | cons a l ih =>
    rw [List.filterMap_cons, List.filter_cons, ih]
    cases p a <;> rfl

end Index

/-! ## 3. Ranks and owners -/

/-- The nodes of a row. -/
def nodesOf (row : List Placed) : List Placed := row.filter fun p => !p.isEdge

/-- The rank of a key among the distinct keys of the nodes of a row, counted from 1 in the order in which
    they first occur. -/
def rank (row : List Placed) (key : Text) : Nat :=
  ((nodesOf row).map Placed.key).eraseDups.idxOf key + 1

/-- The first node of a row that has a key. -/
def firstWith? (row : List Placed) (key : Text) : Option Placed :=
  (nodesOf row).find? fun p => p.key == key

namespace IdentityTable

/-- The number of an identity is the rank of its key. -/
theorem Claims.id_eq {ps : List Placed} {t : IdentityTable} (h : Claims ps t) {i : Identity}
    (hi : i ∈ t) : i.id = (ps.map Placed.key).eraseDups.idxOf i.key + 1 := by
  obtain ⟨k, hk⟩ := List.mem_iff_getElem?.mp hi
  have hkey : (t.map (·.key))[k]? = some i.key := by rw [List.getElem?_map, hk]; rfl
  obtain ⟨hlt, hget⟩ := List.getElem?_eq_some_iff.mp hkey
  rw [h.id_of_getElem? hk, ← h.keys, ← hget, h.nodup.idxOf_getElem k hlt]

end IdentityTable

/-- What the table of a row says of the identity that a node of the row belongs to. -/
theorem lookup_ofElements {row : List Placed} {p : Placed} (hp : p ∈ row)
    (hnode : p.isEdge = false) :
    ∃ i, (IdentityTable.ofElements row).lookup p = some i ∧ i.id = rank row p.key ∧
      firstWith? row p.key = some i.owner := by
  have hclaims := IdentityTable.ofElements_claims row
  have hmem : p ∈ row.filter fun p => !p.isEdge := List.mem_filter.mpr ⟨hp, by rw [hnode]; rfl⟩
  obtain ⟨i, hi⟩ := hclaims.lookup_isSome hmem
  have hit : i ∈ IdentityTable.ofElements row := List.mem_of_find?_eq_some hi
  have hkey : i.key = p.key :=
    eq_of_beq (List.find?_some (p := fun i : Identity => i.key == p.key) hi)
  refine ⟨i, hi, ?_, ?_⟩
  · rw [hclaims.id_eq hit, hkey]
    rfl
  · rw [← hkey]
    exact hclaims.owner i hit

/-! ## 4. The edge at an index -/

/-- What the relation of an edge between two nodes of a row says. -/
structure Links (row : List Placed) (previous following : Placed) (e : Placed × Relation) :
    Prop where
  source : e.2.source = rank row previous.key
  target : e.2.target = rank row following.key
  touchesNote : e.2.touchesNote = (previous.element.isNote || following.element.isNote)
  dashed : e.2.dashed = (e.2.touchesNote || e.1.element.isDashed)
  port : e.2.port.isSome = (firstWith? row following.key).any Placed.isBar

/-- An edge with its relation, as they are found for the edge at an index of a row. -/
def LinkedAt (row : List Placed) (i : Nat) (e : Placed × Relation) : Prop :=
  row[i]? = some e.1 ∧ ∃ previous following,
    previous? row i = some previous ∧ following? row i = some following ∧
      Links row previous following e

section At

variable {row : List Placed} {i : Nat} {p e f : Placed}

theorem isEdgeAt_eq (he : row[i]? = some e) : isEdgeAt row i = e.isEdge := by
  rw [isEdgeAt, he]
  rfl

/-- No edge stands where the ring has no position. -/
theorem isEdgeAt_of_ring_eq_none (h : (ring row)[i]? = none) : isEdgeAt row i = false := by
  rw [List.getElem?_eq_none_iff, length_ring, ← List.getElem?_eq_none_iff] at h
  rw [isEdgeAt, h]
  rfl

/-- **Between two nodes of a row an edge is never dropped**: both have an identity in its table. Beside
    an edge it always is. -/
theorem endpoints_at (h : (ring row)[i]? = some (p, e, f)) :
    (isBetweenNodes row i = false ∧
      endpoints (IdentityTable.ofElements row) p f = .error .adjacentEdge) ∨
    (isBetweenNodes row i = true ∧
      ∃ source target, endpoints (IdentityTable.ofElements row) p f = .ok (source, target) ∧
        source.id = rank row p.key ∧ target.id = rank row f.key ∧
        firstWith? row f.key = some target.owner) := by
  obtain ⟨hp, -, hf⟩ := getElem?_ring.mp h
  have hbetween : isBetweenNodes row i = !(p.isEdge || f.isEdge) := by
    rw [isBetweenNodes, hp, hf, Bool.not_or]
    rfl
  rw [hbetween]
  cases hends : p.isEdge || f.isEdge with
  | true => exact .inl ⟨rfl, if_pos hends⟩
  | false =>
    obtain ⟨hpn, hfn⟩ := Bool.or_eq_false_iff.mp hends
    obtain ⟨source, hsource, hsid, -⟩ := lookup_ofElements (List.mem_of_getElem? hp) hpn
    obtain ⟨target, htarget, htid, howner⟩ := lookup_ofElements (List.mem_of_getElem? hf) hfn
    refine .inr ⟨rfl, source, target, ?_, hsid, htid, howner⟩
    rw [endpoints, hpn, hfn, hsource, htarget]
    rfl

/-- The join at an index is there if the edge stands between two nodes, and what its relation says of
    these does not depend on what has been written down before. -/
theorem join_at (row : List Placed) (i : Nat) :
    ((ring row)[i]?.bind (Join.of? (IdentityTable.ofElements row))).isSome = isJoinedAt row i ∧
      ∀ j, (ring row)[i]?.bind (Join.of? (IdentityTable.ofElements row)) = some j →
        ∀ l, LinkedAt row i (j.edge, j.relation l) := by
  cases hq : (ring row)[i]? with
  | none =>
    rw [isJoinedAt, isEdgeAt_of_ring_eq_none hq]
    exact ⟨rfl, fun _ h => by cases h⟩
  | some q =>
    obtain ⟨p, e, f⟩ := q
    obtain ⟨hp, he, hf⟩ := getElem?_ring.mp hq
    rw [isJoinedAt, isEdgeAt_eq he, Option.bind_some, Join.of?]
    cases hedge : e.isEdge with
    | false => exact ⟨rfl, fun _ h => by cases h⟩
    | true =>
      rw [if_pos rfl]
      rcases endpoints_at hq with ⟨hstray, hdrop⟩ |
        ⟨hnodes, source, target, hok, hsid, htid, howner⟩
      · rw [hdrop, hstray]
        exact ⟨rfl, fun _ h => by cases h⟩
      · rw [hok, hnodes]
        refine ⟨rfl, fun j hj l => ?_⟩
        cases hj
        refine ⟨he, p, f, hp, hf, congrArg Int.ofNat hsid, congrArg Int.ofNat htid, rfl, rfl, ?_⟩
        rw [howner]
        exact nextPort_isSome l target.owner

/-- **An edge is dropped only because it stands beside another edge.** -/
theorem dropReason_at (row : List Placed) (i : Nat) :
    (ring row)[i]?.bind (dropReason? (IdentityTable.ofElements row)) =
      if isStrayAt row i = true then some .adjacentEdge else none := by
  cases hq : (ring row)[i]? with
  | none =>
    rw [isStrayAt, isEdgeAt_of_ring_eq_none hq]
    rfl
  | some q =>
    obtain ⟨p, e, f⟩ := q
    obtain ⟨-, he, -⟩ := getElem?_ring.mp hq
    rw [isStrayAt, isEdgeAt_eq he, Option.bind_some, dropReason?]
    cases hedge : e.isEdge with
    | false => rfl
    | true =>
      rw [if_pos rfl]
      rcases endpoints_at hq with ⟨hstray, hdrop⟩ | ⟨hnodes, source, target, hok, -⟩
      · rw [hdrop, hstray]
        rfl
      · rw [hok, hnodes]
        rfl

end At

/-! ## 5. Runs -/

/-- Joins that stand at some indices are drawn there, one after the other. -/
theorem forall₂_linkedAt_drawn {row : List Placed} {is : List Nat} {js : List Join}
    (h : List.Forall₂ (fun i j => ∀ l, LinkedAt row i (j.edge, j.relation l)) is js) (l : Ledger) :
    List.Forall₂ (LinkedAt row) is (drawn l js) := by
  induction h generalizing l with
  | nil => exact .nil
  | cons hj _ ih => exact .cons (hj l) (ih _)

/-- What is written down of some joins: the relation of each, in their order. -/
theorem links_after (l : Ledger) (js : List Join) :
    (l.after js).links = l.links ++ (drawn l js).map fun e => (e.1.place, e.2) := by
  induction js generalizing l with
  | nil => exact (List.append_nil _).symm
  | cons j js ih =>
    rw [Ledger.after, ih, drawn, List.map_cons, Ledger.record]
    exact List.append_assoc _ _ _

/-- What a run over a row has found, by the indices of the row. -/
structure Resolution.Complete (row : List Placed) (before : Ledger) (r : Resolution) : Prop where
  /-- The edges that are joined, in the order of the row, each with its relation. -/
  edges : List.Forall₂ (LinkedAt row) ((List.range row.length).filter (isJoinedAt row)) r.edges
  /-- All other edges are dropped. -/
  dropped : r.dropped = ((List.range row.length).filter (isStrayAt row)).length
  /-- Each is dropped because it stands beside an edge. -/
  events : r.events =
    ((List.range row.length).filter (isStrayAt row)).map fun i => .edgeDropped i .adjacentEdge
  /-- An edge that is joined gets its relation, and no other gets one. -/
  links : r.ledger.links = before.links ++ r.edges.map fun e => (e.1.place, e.2)

/-- The joins of a row stand at the indices of the edges between two nodes. -/
theorem forall₂_joins (row : List Placed) :
    List.Forall₂ (fun i j => ∀ l, LinkedAt row i (j.edge, j.relation l))
      ((List.range row.length).filter (isJoinedAt row))
      (joins (IdentityTable.ofElements row) (ring row)) := by
  have hisSome : (fun i => ((ring row)[i]?.bind (Join.of? (IdentityTable.ofElements row))).isSome) =
      isJoinedAt row := funext fun i => (join_at row i).1
  have hforall := forall₂_filterMap
    (fun i => (ring row)[i]?.bind (Join.of? (IdentityTable.ofElements row))) (List.range row.length)
  rw [hisSome, ← length_ring, ← filterMap_eq_range] at hforall
  rw [← length_ring]
  exact hforall.imp fun i j hj => (join_at row i).2 j hj

/-- What a run counts as dropped, and what it reports, are the edges that stand beside an edge. -/
theorem filterMap_dropReason? (row : List Placed) :
    (ring row).filterMap (dropReason? (IdentityTable.ofElements row)) =
      ((List.range row.length).filter (isStrayAt row)).map fun _ => .adjacentEdge := by
  rw [filterMap_eq_range, length_ring]
  simp only [dropReason_at]
  exact filterMap_ite _ _ _

theorem dropEvents_eq (row : List Placed) :
    dropEvents (IdentityTable.ofElements row) (ring row) 0 =
      ((List.range row.length).filter (isStrayAt row)).map fun i => .edgeDropped i .adjacentEdge := by
  rw [dropEvents, filterMap_zipIdx, length_ring]
  simp only [dropReason_at, apply_ite (Option.map _), Option.map_some, Option.map_none]
  exact filterMap_ite _ _ _

/-- **What a run over a row finds against the table of the same row**, for every row and ledger: the
    edge at an index is joined to its neighbours if and only if both are nodes, and its relation is as
    these say; every other edge is dropped, and only because it stands beside an edge. -/
theorem resolve_complete (row : List Placed) (l : Ledger) :
    Resolution.Complete row l (resolve row (IdentityTable.ofElements row) l) := by
  rw [resolve_eq]
  refine ⟨forall₂_linkedAt_drawn (forall₂_joins row) l, ?_, dropEvents_eq row, links_after l _⟩
  show ((ring row).filterMap (dropReason? _)).length = _
  rw [filterMap_dropReason?, List.length_map]

/-- The ends of a row are neighbours: an edge behind a single node leads back to it. -/
example :
    let row := Placed.row 0 [.node (.decision "a".toList), .edge (.arrow none true .topDown) none]
    (resolve row (IdentityTable.ofElements row) Ledger.empty).edges.map
      (fun e => (e.2.source, e.2.target)) = [(1, 1)] := by decide

end Yuml
