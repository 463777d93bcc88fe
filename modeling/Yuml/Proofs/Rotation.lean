import Yuml.Proofs.Neighbours

/-!
# Rotation: the elements of a row stand in a ring

Where a row is cut open decides the numbers of its nodes, which element owns a node and which ports a
bar gives out. It does not decide which edges are drawn. A STRAND is what is left of an edge that is
drawn when the numbers are taken away: the keys of the nodes that it connects, how it is drawn, and the
edge as it was written.

* the ring of a row that is turned is the ring of the row, turned (`ring_rotate`), so both seams of a row
  are like any other place in it;
* the strands of a run are found position by position on the ring (`map_strand?_edges`): neither the
  table nor the ledger has a part in them, nor have the places of the elements
  (`filterMap_strandAt?_congr`).

So a row and every rotation of its elements have the same strands, and drop as many edges
(`resolve_rotate`).
-/

namespace Yuml

/-! ## 1. The ring -/

/-- **The ring of a row that is turned is the ring of the row, turned.** -/
theorem ring_rotate (row : List Placed) (n : Nat) : ring (row.rotate n) = (ring row).rotate n := by
  have hcomm : ∀ k, (row.rotate n).rotate k = (row.rotate k).rotate n := fun k => by
    rw [List.rotate_rotate, List.rotate_rotate, Nat.add_comm]
  have hinner : ((row.rotate n).zip ((row.rotate 1).rotate n)) = (row.zip (row.rotate 1)).rotate n :=
    (List.zipWith_rotate_distrib Prod.mk row (row.rotate 1) n (by rw [List.length_rotate])).symm
  have hlength : (row.rotate (row.length - 1)).length = (row.zip (row.rotate 1)).length := by
    rw [List.length_zip, List.length_rotate, List.length_rotate, Nat.min_self]
  unfold ring
  rw [rotateRight_eq_rotate, rotateRight_eq_rotate, rotateLeft_eq_rotate, rotateLeft_eq_rotate,
    List.length_rotate, hcomm, hcomm, hinner]
  exact (List.zipWith_rotate_distrib Prod.mk _ _ n hlength).symm

/-! ## 2. Strands -/

/-- An edge that is drawn, told without the numbers of a run. -/
structure Strand where
  /-- The key of the node that it leaves. -/
  source : Text
  /-- The key of the node that it enters. -/
  target : Text
  dashed : Bool
  touchesNote : Bool
  /-- The edge as it stands in the row. -/
  edge : Element
  deriving DecidableEq, Repr

/-- The key that owns a number in a table. -/
def IdentityTable.keyOf? (t : IdentityTable) (id : Int) : Option Text :=
  (t.find? fun i => (i.id : Int) == id).map (·.key)

/-- The strand of an edge with its relation: the numbers that this names are looked up in the table. -/
def strand? (t : IdentityTable) (e : Placed × Relation) : Option Strand := do
  let source ← t.keyOf? e.2.source
  let target ← t.keyOf? e.2.target
  return ⟨source, target, e.2.dashed, e.2.touchesNote, e.1.element⟩

/-- The strand of an edge between two elements. -/
def strandBetween (previous edge following : Placed) : Strand :=
  let touchesNote := previous.element.isNote || following.element.isNote
  ⟨previous.key, following.key, touchesNote || edge.element.isDashed, touchesNote, edge.element⟩

/-- The strand at a position of the ring, where an edge stands there between two nodes. -/
def strandAt? (q : Placed × Placed × Placed) : Option Strand :=
  if q.2.1.isEdge && !(q.1.isEdge || q.2.2.isEdge) then some (strandBetween q.1 q.2.1 q.2.2) else none

/-! ## 3. The strands of a run -/

/-- A number is owned by the key that was looked up for it. -/
theorem IdentityTable.Claims.keyOf?_id {ps : List Placed} {t : IdentityTable}
    (h : IdentityTable.Claims ps t) {p : Placed} {i : Identity} (hi : t.lookup p = some i) :
    t.keyOf? i.id = some p.key := by
  have hmem : i ∈ t := List.mem_of_find?_eq_some hi
  have hkey : i.key = p.key :=
    eq_of_beq (List.find?_some (p := fun i : Identity => i.key == p.key) hi)
  rw [keyOf?, h.find?_id hmem, ← hkey]
  rfl

section Run

variable {row : List Placed}

/-- A join has the strand of its three elements, whatever has been written down before. -/
theorem strand?_join {j : Join} (hj : j ∈ joins (IdentityTable.ofElements row) (ring row))
    (l : Ledger) : strand? (IdentityTable.ofElements row) (j.edge, j.relation l) =
      some (strandBetween j.previous j.edge j.following) := by
  have hclaims := IdentityTable.ofElements_claims row
  have hof := of_mem_joins hj
  have hsource : (IdentityTable.ofElements row).keyOf? (j.relation l).source = some j.previous.key :=
    hclaims.keyOf?_id hof.source
  have htarget : (IdentityTable.ofElements row).keyOf? (j.relation l).target = some j.following.key :=
    hclaims.keyOf?_id hof.target
  rw [strand?, hsource, htarget]
  rfl

/-- At a position of the ring there is a join just where there is a strand, and it has this strand. -/
theorem map_strandBetween_join {q : Placed × Placed × Placed} (hq : q ∈ ring row) :
    (Join.of? (IdentityTable.ofElements row) q).map
      (fun j => strandBetween j.previous j.edge j.following) = strandAt? q := by
  obtain ⟨p, e, f⟩ := q
  obtain ⟨hp, -, hf⟩ := mem_ring hq
  rw [Join.of?, strandAt?]
  cases he : e.isEdge with
  | false => rfl
  | true =>
    rw [if_pos rfl, endpoints]
    cases hends : p.isEdge || f.isEdge with
    | true => rfl
    | false =>
      obtain ⟨hpn, hfn⟩ := Bool.or_eq_false_iff.mp hends
      obtain ⟨source, hsource, -⟩ := lookup_ofElements hp hpn
      obtain ⟨target, htarget, -⟩ := lookup_ofElements hf hfn
      rw [hsource, htarget]
      rfl

/-- The strands of edges that are drawn one after the other. -/
theorem map_strand?_drawn {t : IdentityTable} {js : List Join}
    (h : ∀ j ∈ js, ∀ l, strand? t (j.edge, j.relation l) =
      some (strandBetween j.previous j.edge j.following)) (l : Ledger) :
    (drawn l js).map (strand? t) =
      (js.map fun j => strandBetween j.previous j.edge j.following).map some := by
  induction js generalizing l with
  | nil => rfl
  | cons j js ih =>
    obtain ⟨hj, hjs⟩ := List.forall_mem_cons.mp h
    rw [drawn, List.map_cons, List.map_cons, List.map_cons, hj, ih hjs]

/-- **Every edge that a run draws has a strand, and the strands are found on the ring.** -/
theorem map_strand?_edges (row : List Placed) (l : Ledger) :
    (resolve row (IdentityTable.ofElements row) l).edges.map
        (strand? (IdentityTable.ofElements row)) =
      ((ring row).filterMap strandAt?).map some := by
  have hstrands : (joins (IdentityTable.ofElements row) (ring row)).map
      (fun j => strandBetween j.previous j.edge j.following) = (ring row).filterMap strandAt? := by
    rw [joins, List.map_filterMap]
    exact List.filterMap_congr fun q hq => map_strandBetween_join hq
  rw [resolve_eq]
  dsimp only
  rw [map_strand?_drawn (fun j hj => strand?_join hj) l, hstrands]

/-- Where the elements stand does not matter for the strands. -/
theorem filterMap_strandAt?_congr {row' : List Placed}
    (h : row'.map (·.element) = row.map (·.element)) :
    (ring row').filterMap strandAt? = (ring row).filterMap strandAt? := by
  have hplaced : ∀ r : List Placed, (ring r).filterMap strandAt? =
      (ring ((r.map (·.element)).map fun e => ⟨0, e⟩)).filterMap strandAt? := by
    intro r
    rw [List.map_map, ring_map, List.filterMap_map]
    rfl
  rw [hplaced row', hplaced row, h]

end Run

/-! ## 4. Rotations -/

/-- **The elements of a row stand in a ring**: a row and one with its elements turned, each with its own
    table and whatever ledger, drop as many edges, and the edges that they draw have the same strands, each
    as often as in the other: those of the edges that stand between two nodes on the ring. -/
theorem resolve_rotate {row row' : List Placed} {n : Nat}
    (h : row'.map (·.element) = (row.map (·.element)).rotate n) (l l' : Ledger) :
    let t := IdentityTable.ofElements row
    let t' := IdentityTable.ofElements row'
    let r := resolve row t l
    let r' := resolve row' t' l'
    r'.dropped = r.dropped ∧
      (r'.edges.map (strand? t')).Perm (r.edges.map (strand? t)) ∧
      r.edges.map (strand? t) = ((ring row).filterMap strandAt?).map some := by
  intro t t' r r'
  have hturned : row'.map (·.element) = (row.rotate n).map (·.element) := by
    rw [h, List.map_rotate]
  have hstrands : r.edges.map (strand? t) = ((ring row).filterMap strandAt?).map some :=
    map_strand?_edges row l
  have hstrands' : r'.edges.map (strand? t') = ((ring row').filterMap strandAt?).map some :=
    map_strand?_edges row' l'
  have hperm : (r'.edges.map (strand? t')).Perm (r.edges.map (strand? t)) := by
    rw [hstrands, hstrands', filterMap_strandAt?_congr hturned, ring_rotate]
    exact ((List.rotate_perm _ n).filterMap _).map some
  have hdrawn : r'.edges.length = r.edges.length := by
    rw [← List.length_map (strand? t'), ← List.length_map (strand? t), hperm.length_eq]
  -- both rows have the same edges, so what is not drawn is dropped in either
  have hedges : row'.countP (·.isEdge) = row.countP (·.isEdge) := by
    have hcount : ∀ q : List Placed, q.countP (·.isEdge) = (q.map (·.element)).countP (·.isEdge) :=
      fun q => (List.countP_map).symm
    rw [hcount, hcount, h]
    exact (List.rotate_perm _ n).countP_eq _
  have hconserved : r.edges.length + r.dropped = row.countP (·.isEdge) := resolve_conserves row t l
  have hconserved' : r'.edges.length + r'.dropped = row'.countP (·.isEdge) :=
    resolve_conserves row' t' l'
  exact ⟨by omega, hperm, hstrands⟩

/-- Turning a row changes the numbers of its nodes and the owner of a label: the edge that entered a port
    of a bar ends at another number without a port, and it has the same strand. -/
theorem resolve_rotate_bar :
    let bar := Element.node (.bar "x".toList 0)
    let box := Element.node (.activity "x".toList Paint.none)
    let flow := Element.edge (.arrow none true .topDown) none
    let xs := [.node (.decision "a".toList), flow, bar, box]
    let row := Placed.row 0 xs
    let row' := Placed.row 0 (xs.rotate 3)
    let t := IdentityTable.ofElements row
    let t' := IdentityTable.ofElements row'
    let r := resolve row t Ledger.empty
    let r' := resolve row' t' Ledger.empty
    r.edges.map (fun e => (e.2.source, e.2.target, e.2.port)) = [(1, 2, some 1)] ∧
      r'.edges.map (fun e => (e.2.source, e.2.target, e.2.port)) = [(2, 1, none)] ∧
      r'.dropped = r.dropped ∧
      (r'.edges.map (strand? t')).Perm (r.edges.map (strand? t)) ∧
      r.edges.map (strand? t) = ((ring row).filterMap strandAt?).map some := by
  intro bar box flow xs row row' t t' r r'
  have h : row'.map (·.element) = (row.map (·.element)).rotate 3 := by decide
  exact ⟨by decide, by decide, resolve_rotate h Ledger.empty Ledger.empty⟩

end Yuml
