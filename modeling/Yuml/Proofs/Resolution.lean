import Yuml.Relation
import Mathlib.Data.List.Rotate

/-!
# Resolution: what a run over a row of elements finds

`resolve` folds a step over the ring of a row. This file gives the run without the fold:

* a JOIN is an edge between two neighbours whose identities are known; `joins` are the joins of a
  row, and every other edge is dropped with a reason (`dropReason?`);
* `drawn` gives each join its relation, one after the other, and `Ledger.after` is what has been
  written down when all of them have theirs;
* `resolve_eq`: these are the edges, the drop count, the reports and the ledger of the run.

From there every fact is an induction on the joins. The port ledger is `portsAt_after` (a bar has
given out one port for every join that enters it) and `ports_drawn` (the joins into a bar have consecutive
ports, in their order).

A run reads of an element whether it is an edge, a note or dashed, and its key. It does the same after
any change that keeps these (`Element.Unseen.resolve_map`).
-/

namespace Yuml

/-! ## 1. The ring -/

theorem rotateLeft_eq_rotate {α : Type} (l : List α) : l.rotateLeft = l.rotate 1 := by
  unfold List.rotateLeft
  dsimp only
  split
  · rename_i h
    match l, h with
    | [], _ => rfl
    | [a], _ => exact (List.rotate_singleton a 1).symm
  · rw [List.rotate_eq_drop_append_take_mod]

theorem rotateRight_eq_rotate {α : Type} (l : List α) :
    l.rotateRight = l.rotate (l.length - 1) := by
  unfold List.rotateRight
  dsimp only
  split
  · rename_i h
    match l, h with
    | [], _ => rfl
    | [_], _ => rfl
  · rename_i h
    have h₁ : 1 % l.length = 1 := Nat.mod_eq_of_lt (by omega)
    have h₂ : (l.length - 1) % l.length = l.length - 1 := Nat.mod_eq_of_lt (by omega)
    rw [List.rotate_eq_drop_append_take_mod, h₁, h₂]

theorem map_ring (row : List Placed) : (ring row).map (·.2.1) = row := by
  have h₁ : row.rotateRight.length = row.length := by
    rw [rotateRight_eq_rotate, List.length_rotate]
  have h₂ : row.rotateLeft.length = row.length := by
    rw [rotateLeft_eq_rotate, List.length_rotate]
  have e : (ring row).map Prod.snd = row.zip row.rotateLeft := by
    rw [ring, List.map_snd_zip]
    rw [List.length_zip, h₁, h₂, Nat.min_self]
  calc (ring row).map (·.2.1) = ((ring row).map Prod.snd).map Prod.fst := by rw [List.map_map]; rfl
    _ = row := by rw [e, List.map_fst_zip h₂.ge]

/-- The three elements at a position of the ring are elements of the row. -/
theorem mem_ring {row : List Placed} {q : Placed × Placed × Placed} (h : q ∈ ring row) :
    q.1 ∈ row ∧ q.2.1 ∈ row ∧ q.2.2 ∈ row := by
  obtain ⟨p, e, f⟩ := q
  obtain ⟨hp, h⟩ := List.of_mem_zip h
  obtain ⟨he, hf⟩ := List.of_mem_zip h
  rw [rotateRight_eq_rotate, List.mem_rotate] at hp
  rw [rotateLeft_eq_rotate, List.mem_rotate] at hf
  exact ⟨hp, he, hf⟩

/-! ## 2. Joins -/

/-- An edge between two neighbours, with the identities that it connects. -/
structure Join where
  previous : Placed
  edge : Placed
  following : Placed
  source : Identity
  target : Identity

/-- The join at a position of the ring, if its edge is drawn. -/
def Join.of? (t : IdentityTable) (q : Placed × Placed × Placed) : Option Join :=
  if q.2.1.isEdge then
    match endpoints t q.1 q.2.2 with
    | .ok (source, target) => some ⟨q.1, q.2.1, q.2.2, source, target⟩
    | .error _ => none
  else none

/-- Why the edge at a position of the ring is dropped, if it is. -/
def dropReason? (t : IdentityTable) (q : Placed × Placed × Placed) : Option DropReason :=
  if q.2.1.isEdge then
    match endpoints t q.1 q.2.2 with
    | .ok _ => none
    | .error reason => some reason
  else none

/-- The joins at some positions of the ring, in order. -/
def joins (t : IdentityTable) (qs : List (Placed × Placed × Placed)) : List Join :=
  qs.filterMap (Join.of? t)

/-- The relation of a join when some things have been written down before. -/
def Join.relation (l : Ledger) (j : Join) : Relation :=
  relate l j.previous j.edge j.following j.source j.target

/-- What has been written down when some joins have got their relations, one after the other. -/
def Ledger.after : Ledger → List Join → Ledger
  | l, [] => l
  | l, j :: js => Ledger.after (l.record j.edge j.target.owner (j.relation l)) js

/-- The edges of some joins with their relations, one after the other. -/
def drawn : Ledger → List Join → List (Placed × Relation)
  | _, [] => []
  | l, j :: js =>
    (j.edge, j.relation l) :: drawn (l.record j.edge j.target.owner (j.relation l)) js

/-- What is reported about the edges that are dropped at positions counted from `first`. -/
def dropEvents (t : IdentityTable) (qs : List (Placed × Placed × Placed)) (first : Nat) :
    List Event :=
  (qs.zipIdx first).filterMap fun q => (dropReason? t q.1).map (.edgeDropped q.2)

/-! ## 3. The run -/

theorem step_eq (t : IdentityTable) (r : Resolution) (q : Placed × Placed × Placed) (index : Nat) :
    Resolution.step t r (q, index) =
      { edges := r.edges ++ drawn r.ledger (Join.of? t q).toList,
        dropped := r.dropped + (dropReason? t q).toList.length,
        events := r.events ++ ((dropReason? t q).map (Event.edgeDropped index)).toList,
        ledger := r.ledger.after (Join.of? t q).toList } := by
  unfold Resolution.step Join.of? dropReason?
  dsimp only
  split
  · cases endpoints t q.1 q.2.2 with
    | ok pair => simp [drawn, Ledger.after, Join.relation]
    | error reason => simp [drawn, Ledger.after]
  · simp [drawn, Ledger.after]

theorem drawn_append (l : Ledger) (js ks : List Join) :
    drawn l (js ++ ks) = drawn l js ++ drawn (l.after js) ks := by
  induction js generalizing l with
  | nil => rfl
  | cons j js ih => rw [List.cons_append, drawn, drawn, ih]; rfl

theorem Ledger.after_append (l : Ledger) (js ks : List Join) :
    l.after (js ++ ks) = (l.after js).after ks := by
  induction js generalizing l with
  | nil => rfl
  | cons j js ih => rw [List.cons_append, Ledger.after, ih]; rfl

theorem joins_cons (t : IdentityTable) (q : Placed × Placed × Placed)
    (qs : List (Placed × Placed × Placed)) :
    joins t (q :: qs) = (Join.of? t q).toList ++ joins t qs := by
  unfold joins
  rw [List.filterMap_cons]
  cases Join.of? t q <;> rfl

/-- A run over some positions, from whatever was found before. -/
theorem foldl_step_eq (t : IdentityTable) (qs : List (Placed × Placed × Placed)) (first : Nat)
    (r : Resolution) :
    (qs.zipIdx first).foldl (Resolution.step t) r =
      { edges := r.edges ++ drawn r.ledger (joins t qs),
        dropped := r.dropped + (qs.filterMap (dropReason? t)).length,
        events := r.events ++ dropEvents t qs first,
        ledger := r.ledger.after (joins t qs) } := by
  induction qs generalizing first r with
  | nil => simp [joins, drawn, Ledger.after, dropEvents]
  | cons q qs ih =>
    rw [List.zipIdx_cons, List.foldl_cons, ih, step_eq, joins_cons, drawn_append,
      Ledger.after_append]
    simp only [dropEvents, List.zipIdx_cons, List.filterMap_cons, List.append_assoc,
      Resolution.mk.injEq, true_and, and_true]
    cases dropReason? t q with
    | none => simp
    | some reason => simp; omega

/-- **What a run over a row finds**: its joins with their relations, and a report for every other
    edge. -/
theorem resolve_eq (row : List Placed) (t : IdentityTable) (l : Ledger) :
    resolve row t l =
      { edges := drawn l (joins t (ring row)),
        dropped := ((ring row).filterMap (dropReason? t)).length,
        events := dropEvents t (ring row) 0,
        ledger := l.after (joins t (ring row)) } := by
  rw [resolve, foldl_step_eq]
  simp [Resolution.start]

theorem length_drawn (l : Ledger) (js : List Join) : (drawn l js).length = js.length := by
  induction js generalizing l with
  | nil => rfl
  | cons j js ih => rw [drawn, List.length_cons, List.length_cons, ih]

/-- **Every edge is joined or dropped**, and nothing else is. -/
theorem length_joins_add_dropped (t : IdentityTable) (qs : List (Placed × Placed × Placed)) :
    (joins t qs).length + (qs.filterMap (dropReason? t)).length = qs.countP (·.2.1.isEdge) := by
  induction qs with
  | nil => rfl
  | cons q qs ih =>
    rw [joins_cons, List.filterMap_cons, List.countP_cons, ← ih]
    unfold Join.of? dropReason?
    by_cases hq : q.2.1.isEdge = true
    · simp only [hq, if_true]
      cases endpoints t q.1 q.2.2 <;> simp <;> omega
    · simp [hq]

/-- **Each edge of a row is drawn once or dropped once.** -/
theorem resolve_conserves (row : List Placed) (t : IdentityTable) (l : Ledger) :
    (resolve row t l).edges.length + (resolve row t l).dropped = row.countP (·.isEdge) := by
  rw [resolve_eq]
  dsimp only
  rw [length_drawn, length_joins_add_dropped]
  conv_rhs => rw [← map_ring row, List.countP_map]
  rfl

/-! ## 4. What a join is made of -/

/-- What is known of a join of a row: its edge stands between two elements of the row, and these
    have the identities that it connects. -/
structure Join.Of (t : IdentityTable) (row : List Placed) (j : Join) : Prop where
  edge_mem : j.edge ∈ row
  isEdge : j.edge.isEdge = true
  source : t.lookup j.previous = some j.source
  target : t.lookup j.following = some j.target

theorem endpoints_eq_ok {t : IdentityTable} {p f : Placed} {source target : Identity}
    (h : endpoints t p f = .ok (source, target)) :
    t.lookup p = some source ∧ t.lookup f = some target := by
  unfold endpoints at h
  split at h
  · cases h
  · split at h
    · cases h
      exact ⟨‹_›, ‹_›⟩
    · cases h

theorem of_mem_joins {t : IdentityTable} {row : List Placed} {j : Join}
    (h : j ∈ joins t (ring row)) : j.Of t row := by
  obtain ⟨q, hq, hj⟩ := List.mem_filterMap.mp h
  obtain ⟨-, he, -⟩ := mem_ring hq
  unfold Join.of? at hj
  split at hj
  · rename_i hedge
    split at hj
    · rename_i source target hends
      cases hj
      obtain ⟨hs, ht⟩ := endpoints_eq_ok hends
      exact ⟨he, hedge, hs, ht⟩
    · cases hj
  · cases hj

theorem Join.Of.source_mem {t : IdentityTable} {row : List Placed} {j : Join} (h : j.Of t row) :
    j.source ∈ t := List.mem_of_find?_eq_some h.source

theorem Join.Of.target_mem {t : IdentityTable} {row : List Placed} {j : Join} (h : j.Of t row) :
    j.target ∈ t := List.mem_of_find?_eq_some h.target

theorem exists_join_of_mem_drawn {l : Ledger} {js : List Join} {e : Placed × Relation}
    (h : e ∈ drawn l js) : ∃ j ∈ js, ∃ l', e = (j.edge, j.relation l') := by
  induction js generalizing l with
  | nil => exact absurd h List.not_mem_nil
  | cons j js ih =>
    rcases List.mem_cons.mp h with rfl | h
    · exact ⟨j, List.mem_cons_self, l, rfl⟩
    · obtain ⟨k, hk, l', e⟩ := ih h
      exact ⟨k, List.mem_cons_of_mem j hk, l', e⟩

/-- Only edges are drawn. -/
theorem isEdge_of_mem_edges {row : List Placed} {t : IdentityTable} {l : Ledger}
    {e : Placed × Relation} (h : e ∈ (resolve row t l).edges) : e.1.isEdge = true := by
  rw [resolve_eq] at h
  obtain ⟨j, hj, l', rfl⟩ := exists_join_of_mem_drawn h
  exact (of_mem_joins hj).isEdge

/-! ## 5. Ports -/

/-- Whether the element is a bar. -/
def Placed.isBar (p : Placed) : Bool :=
  match p.element with
  | .node n => n.isBar
  | .edge _ _ => false

/-- Whether a join enters the bar at a place. -/
def Join.enters (place : Nat) (j : Join) : Bool :=
  j.target.owner.isBar && j.target.owner.place == place

/-- Whether an edge with its relation ends at the node with some number. -/
def endsAt (id : Nat) (e : Placed × Relation) : Bool := e.2.target == (id : Int)

theorem nextPort_isSome (l : Ledger) (p : Placed) : (l.nextPort p).isSome = p.isBar := by
  obtain ⟨place, element⟩ := p
  cases element with
  | edge => rfl
  | node n => cases n <;> rfl

theorem nextPort_of_not_isBar (l : Ledger) {p : Placed} (h : p.isBar = false) :
    l.nextPort p = none := by
  rw [← nextPort_isSome l] at h
  exact Option.isSome_eq_false_iff.mp h |> Option.isNone_iff_eq_none.mp

/-- A bar stands with the ports that it has given out. -/
theorem Ledger.current_bar (l : Ledger) {p : Placed} {label : Text} {fanin : Int}
    (h : p.element = .node (.bar label fanin)) :
    l.current p = .node (.bar label (fanin + l.portsAt p.place)) := by
  rw [Ledger.current, h]

/-- A join that gets its relation takes a port of the bar that it enters, and of no other. -/
theorem portsAt_record (l : Ledger) (j : Join) (place : Nat) :
    (l.record j.edge j.target.owner (j.relation l)).portsAt place =
      l.portsAt place + if j.enters place = true then 1 else 0 := by
  unfold Ledger.record Ledger.portsAt Join.enters
  dsimp only
  rw [nextPort_isSome, List.count_append]
  cases j.target.owner.isBar with
  | false => simp
  | true => simp [List.count_singleton]

/-- **A bar has given out one port for every join that enters it.** -/
theorem portsAt_after (l : Ledger) (js : List Join) (place : Nat) :
    (l.after js).portsAt place = l.portsAt place + js.countP (Join.enters place) := by
  induction js generalizing l with
  | nil => rfl
  | cons j js ih =>
    rw [Ledger.after, ih, portsAt_record, List.countP_cons]
    omega

/-- **The joins into a bar have consecutive ports**, in their order, whatever joins stand between
    them: `q` tells the edges of these joins from the others, and no other bar has its place. -/
theorem ports_drawn {p : Placed} {label : Text} {fanin : Int}
    (hbar : p.element = .node (.bar label fanin)) {q : Placed × Relation → Bool} (l : Ledger)
    (js : List Join) (hq : ∀ j ∈ js, ∀ l, q (j.edge, j.relation l) = j.enters p.place)
    (howner : ∀ j ∈ js, j.enters p.place = true → j.target.owner = p) :
    ((drawn l js).filter q).map (·.2.port) =
      (List.range (js.countP (Join.enters p.place))).map fun n : Nat =>
        some (fanin + l.portsAt p.place + (n : Int) + 1) := by
  induction js generalizing l with
  | nil => rfl
  | cons j js ih =>
    obtain ⟨hqj, hq⟩ := List.forall_mem_cons.mp hq
    obtain ⟨hownerj, howner⟩ := List.forall_mem_cons.mp howner
    rw [drawn, List.countP_cons]
    by_cases hent : j.enters p.place = true
    · have hport : (j.relation l).port = some (fanin + l.portsAt p.place + 1) := by
        show l.nextPort j.target.owner = _
        rw [hownerj hent, Ledger.nextPort, hbar]
      rw [List.filter_cons_of_pos ((hqj l).trans hent), List.map_cons, ih _ hq howner, if_pos hent,
        List.range_succ_eq_map, List.map_cons, List.map_map, hport, portsAt_record, if_pos hent]
      congr 1
      · simp
      · refine List.map_congr_left fun n _ => ?_
        simp only [Function.comp_apply]
        congr 1
        omega
    · have hskip : ¬ q (j.edge, j.relation l) = true := by rw [hqj l]; exact hent
      rw [List.filter_cons_of_neg hskip, ih _ hq howner, if_neg hent, portsAt_record, if_neg hent]
      rfl

/-! ## 6. Changes that a run does not see -/

/-- A change of elements that keeps all that a run reads of them. -/
structure Element.Unseen (f : Element → Element) : Prop where
  isEdge : ∀ e, (f e).isEdge = e.isEdge
  isNote : ∀ e, (f e).isNote = e.isNote
  isDashed : ∀ e, (f e).isDashed = e.isDashed
  key : ∀ e, (f e).key = e.key

/-- A placed element with a change of the element. -/
def Placed.map (f : Element → Element) (p : Placed) : Placed := ⟨p.place, f p.element⟩

/-- What a run has found, with a change of the edges that are drawn. -/
def Resolution.mapEdges (f : Element → Element) (r : Resolution) : Resolution :=
  { r with edges := r.edges.map fun e => (e.1.map f, e.2) }

theorem map_row (f : Element → Element) (first : Nat) (xs : List Element) :
    (Placed.row first xs).map (Placed.map f) = Placed.row first (xs.map f) := by
  unfold Placed.row
  rw [List.zipIdx_map, List.map_map, List.map_map]
  rfl

theorem ring_map (f : Placed → Placed) (row : List Placed) :
    ring (row.map f) = (ring row).map fun q => (f q.1, f q.2.1, f q.2.2) := by
  unfold ring
  rw [rotateRight_eq_rotate, rotateLeft_eq_rotate, rotateRight_eq_rotate, rotateLeft_eq_rotate,
    List.length_map, ← List.map_rotate, ← List.map_rotate, List.zip_map, List.zip_map]
  rfl

namespace Element.Unseen

variable {f : Element → Element}

/-- One step does the same with a change that it does not see. -/
theorem step_map (hf : Unseen f) (t : IdentityTable) (r : Resolution)
    (q : (Placed × Placed × Placed) × Nat) :
    Resolution.step t (r.mapEdges f) ((q.1.1.map f, q.1.2.1.map f, q.1.2.2.map f), q.2) =
      (Resolution.step t r q).mapEdges f := by
  obtain ⟨⟨p, e, n⟩, i⟩ := q
  have hedge : (e.map f).isEdge = e.isEdge := hf.isEdge e.element
  have hends : endpoints t (p.map f) (n.map f) = endpoints t p n := by
    simp [endpoints, IdentityTable.lookup, Placed.map, Placed.isEdge, Placed.key, hf.isEdge, hf.key]
  have hrelate : ∀ source target, relate r.ledger (p.map f) (e.map f) (n.map f) source target =
      relate r.ledger p e n source target := by
    intro source target
    simp [relate, Placed.map, hf.isNote, hf.isDashed]
  unfold Resolution.step
  dsimp only
  rw [hedge, hends]
  cases e.isEdge with
  | false => rfl
  | true =>
    rw [if_pos rfl, if_pos rfl]
    cases endpoints t p n with
    | error reason => rfl
    | ok st =>
      simp only [Resolution.mapEdges, hrelate, List.map_append]
      rfl

/-- **A run does the same with a change that it does not see.** -/
theorem resolve_map (hf : Unseen f) (row : List Placed) (t : IdentityTable) (l : Ledger) :
    resolve (row.map (Placed.map f)) t l = (resolve row t l).mapEdges f := by
  rw [resolve, ring_map, List.zipIdx_map, List.foldl_map]
  show List.foldl _ ((Resolution.start l).mapEdges f) _ = _
  exact List.foldl_hom _ fun r q => hf.step_map t r q

end Element.Unseen

end Yuml
