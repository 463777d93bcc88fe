import Mathlib
import Yuml.Proofs.Chart
import Yuml.Proofs.Neighbours

/-!
# Appending: what stays when a row goes on

The elements of a row stand in a ring, so what is appended to a row comes between its last element and
its first. Where these two are nodes (`Bounded`) no edge stands beside the seam, and everything that the
row has found is found again: `Resolution.Extends` says that

* the table begins with the identities that it had (`table`);
* the edges that are drawn begin with those that were, each with the relation that it had (`edges`);
* no fewer edges are dropped (`dropped`);
* a bar has no fewer edges entering it (`bars`).

Everything comes from one fact about the ring: at the index of an edge it is the same
(`getElem?_ring_append`).
-/

namespace Yuml

/-! ## 1. The ring -/

/-- A row whose first and last elements are nodes. -/
structure Bounded (row : List Placed) : Prop where
  first : ∀ p ∈ row.head?, p.isEdge = false
  last : ∀ p ∈ row.getLast?, p.isEdge = false

section Ring

variable {ps : List Placed}

/-- An edge of a bounded row stands inside. -/
theorem Bounded.inner (h : Bounded ps) {i : Nat} {e : Placed} (he : ps[i]? = some e)
    (hedge : e.isEdge = true) : 0 < i ∧ i + 1 < ps.length := by
  obtain ⟨hlt, -⟩ := List.getElem?_eq_some_iff.mp he
  have hfirst : i ≠ 0 := by
    rintro rfl
    rw [← List.head?_eq_getElem?] at he
    rw [h.first e he] at hedge
    cases hedge
  have hlast : i ≠ ps.length - 1 := by
    rintro rfl
    rw [← List.getLast?_eq_getElem?] at he
    rw [h.last e he] at hedge
    cases hedge
  omega

/-- **Inside a row the ring does not change** when the row goes on. -/
theorem getElem?_ring_append (qs : List Placed) {i : Nat} (h₀ : 0 < i) (h : i + 1 < ps.length) :
    (ring (ps ++ qs))[i]? = (ring ps)[i]? := by
  have hlen : ps.length ≤ (ps ++ qs).length := by
    rw [List.length_append]
    exact Nat.le_add_right _ _
  have hprevious : previous? (ps ++ qs) i = previous? ps i := by
    rw [previous?_inner (by omega) h₀, previous?_inner (by omega) h₀,
      List.getElem?_append_left (by omega)]
  have hfollowing : following? (ps ++ qs) i = following? ps i := by
    rw [following?_inner (by omega), following?_inner h, List.getElem?_append_left h]
  have hedge : (ps ++ qs)[i]? = ps[i]? := List.getElem?_append_left (by omega)
  refine Option.ext fun q => ?_
  rw [getElem?_ring, getElem?_ring, hprevious, hedge, hfollowing]

/-- What is found of edges only is not found at the index of a node. -/
theorem bind_ring_of_node {β : Type} {row : List Placed} {i : Nat} {e : Placed}
    (he : row[i]? = some e) (hnode : e.isEdge = false) {f : Placed × Placed × Placed → Option β}
    (hf : ∀ q, q.2.1.isEdge = false → f q = none) : (ring row)[i]?.bind f = none := by
  refine Option.bind_eq_none_iff.mpr fun q hq => hf q ?_
  obtain ⟨-, hq, -⟩ := getElem?_ring.mp hq
  rw [← Option.some.inj (he.symm.trans hq)]
  exact hnode

/-- What is found of the edges of a bounded row is where the findings of a longer row begin, if it is
    found of edges only and does not change for two neighbours of the row. -/
theorem Bounded.filterMap_ring_prefix {β : Type} (h : Bounded ps) (qs : List Placed)
    {f f' : Placed × Placed × Placed → Option β}
    (hf : ∀ q, q.2.1.isEdge = false → f q = none) (hf' : ∀ q, q.2.1.isEdge = false → f' q = none)
    (hff' : ∀ q, q.1 ∈ ps → q.2.2 ∈ ps → f' q = f q) :
    (ring ps).filterMap f <+: (ring (ps ++ qs)).filterMap f' := by
  have hat : ∀ i ∈ List.range ps.length, (ring ps)[i]?.bind f = (ring (ps ++ qs))[i]?.bind f' := by
    intro i hi
    have hi : i < ps.length := List.mem_range.mp hi
    obtain ⟨e, he⟩ : ∃ e, ps[i]? = some e := ⟨_, List.getElem?_eq_getElem hi⟩
    cases hedge : e.isEdge with
    | true =>
      -- an edge stands inside, so its neighbours are the same in both rings
      obtain ⟨h₀, h₁⟩ := h.inner he hedge
      rw [getElem?_ring_append qs h₀ h₁]
      refine Option.bind_congr fun q hq => ?_
      obtain ⟨hp, -, hf⟩ := mem_ring (List.mem_of_getElem? hq)
      exact (hff' q hp hf).symm
    | false =>
      have he' : (ps ++ qs)[i]? = some e := (List.getElem?_append_left hi).trans he
      rw [bind_ring_of_node he hedge hf, bind_ring_of_node he' hedge hf']
  rw [filterMap_eq_range f, filterMap_eq_range f', length_ring, length_ring, List.length_append,
    List.range_add, List.filterMap_append, List.filterMap_congr hat]
  exact List.prefix_append _ _

end Ring

/-! ## 2. Joins -/

section Joins

variable {ps : List Placed}

/-- Two neighbours of a row have the identities that they had. -/
theorem endpoints_append (qs : List Placed) {p f : Placed} (hp : p ∈ ps) (hf : f ∈ ps) :
    endpoints (IdentityTable.ofElements (ps ++ qs)) p f =
      endpoints (IdentityTable.ofElements ps) p f := by
  unfold endpoints
  cases hends : p.isEdge || f.isEdge with
  | true => rfl
  | false =>
    obtain ⟨hpn, hfn⟩ := Bool.or_eq_false_iff.mp hends
    obtain ⟨source, hsource, -⟩ := lookup_ofElements hp hpn
    obtain ⟨target, htarget, -⟩ := lookup_ofElements hf hfn
    have hprefix := IdentityTable.ofElements_prefix ps qs
    rw [hsource, htarget, IdentityTable.lookup_of_prefix hprefix hsource,
      IdentityTable.lookup_of_prefix hprefix htarget]

theorem Bounded.joins_prefix (h : Bounded ps) (qs : List Placed) :
    joins (IdentityTable.ofElements ps) (ring ps) <+:
      joins (IdentityTable.ofElements (ps ++ qs)) (ring (ps ++ qs)) := by
  refine h.filterMap_ring_prefix qs (fun q hq => ?_) (fun q hq => ?_) fun q hp hf => ?_
  · rw [Join.of?, hq]
    rfl
  · rw [Join.of?, hq]
    rfl
  · rw [Join.of?, Join.of?, endpoints_append qs hp hf]

theorem Bounded.dropReasons_prefix (h : Bounded ps) (qs : List Placed) :
    (ring ps).filterMap (dropReason? (IdentityTable.ofElements ps)) <+:
      (ring (ps ++ qs)).filterMap (dropReason? (IdentityTable.ofElements (ps ++ qs))) := by
  refine h.filterMap_ring_prefix qs (fun q hq => ?_) (fun q hq => ?_) fun q hp hf => ?_
  · rw [dropReason?, hq]
    rfl
  · rw [dropReason?, hq]
    rfl
  · rw [dropReason?, dropReason?, endpoints_append qs hp hf]

end Joins

/-! ## 3. Runs -/

/-- What one run has found is kept by another, which has found more. -/
structure Resolution.Extends (row : List Placed) (t t' : IdentityTable) (r r' : Resolution) :
    Prop where
  /-- The same numbers, keys and owners, with others behind them. -/
  table : t <+: t'
  /-- The same edges with the same relations, with others behind them. -/
  edges : r.edges <+: r'.edges
  /-- No fewer edges are dropped. -/
  dropped : r.dropped ≤ r'.dropped
  /-- No fewer edges enter a bar of the row. -/
  bars : ∀ p ∈ row, ∀ label fanin, p.element = .node (.bar label fanin) →
    ∃ n n', r.ledger.current p = .node (.bar label n) ∧
      r'.ledger.current p = .node (.bar label n') ∧ n ≤ n'

/-- **A run over a bounded row is extended by the run over every row that goes on from it.** -/
theorem Bounded.resolve_extends {ps : List Placed} (h : Bounded ps) (qs : List Placed) (l : Ledger) :
    Resolution.Extends ps (IdentityTable.ofElements ps) (IdentityTable.ofElements (ps ++ qs))
      (resolve ps (IdentityTable.ofElements ps) l)
      (resolve (ps ++ qs) (IdentityTable.ofElements (ps ++ qs)) l) := by
  obtain ⟨more, hmore⟩ := h.joins_prefix qs
  rw [resolve_eq, resolve_eq, ← hmore]
  refine ⟨IdentityTable.ofElements_prefix ps qs, ?_, (h.dropReasons_prefix qs).length_le, ?_⟩
  · dsimp only
    rw [drawn_append]
    exact List.prefix_append _ _
  · intro p _ label fanin hbar
    refine ⟨_, _, Ledger.current_bar _ hbar, Ledger.current_bar _ hbar, ?_⟩
    dsimp only
    rw [Ledger.after_append, portsAt_after _ more]
    omega

/-! ## 4. Lists of elements -/

theorem bounded_row {xs : List Element} (hfirst : ∀ e ∈ xs.head?, e.isEdge = false)
    (hlast : ∀ e ∈ xs.getLast?, e.isEdge = false) (first : Nat) : Bounded (Placed.row first xs) := by
  rw [← map_element_row first xs] at hfirst hlast
  rw [List.head?_map] at hfirst
  rw [List.getLast?_map] at hlast
  exact ⟨fun p hp => hfirst _ (Option.mem_map_of_mem _ hp),
    fun p hp => hlast _ (Option.mem_map_of_mem _ hp)⟩

/-- **Appending never disturbs what is already there**: where the first and the last element of a list
    are nodes, whatever is appended to it extends what is found of it. -/
theorem resolve_append_extends (xs ys : List Element) (l : Ledger)
    (hfirst : ∀ e ∈ xs.head?, e.isEdge = false) (hlast : ∀ e ∈ xs.getLast?, e.isEdge = false) :
    let ps := Placed.row 0 xs
    let qs := Placed.row 0 (xs ++ ys)
    Resolution.Extends ps (IdentityTable.ofElements ps) (IdentityTable.ofElements qs)
      (resolve ps (IdentityTable.ofElements ps) l) (resolve qs (IdentityTable.ofElements qs) l) := by
  intro ps qs
  have hqs : qs = ps ++ Placed.row (0 + xs.length) ys := row_append 0 xs ys
  rw [hqs]
  exact (bounded_row hfirst hlast 0).resolve_extends _ l

/-- A bar that one edge enters in the list and a second one, beside a later mention, behind it. The
    last edge leads back to the first element. -/
theorem resolve_append_extends_bar :
    let a := Element.node (.activity "a".toList Paint.none)
    let b := Element.node (.activity "b".toList Paint.none)
    let bar := Element.node (.bar "x".toList 0)
    let flow := Element.edge (.arrow none true .topDown) none
    let ps := Placed.row 0 [a, flow, bar]
    let qs := Placed.row 0 ([a, flow, bar] ++ [flow, b, flow, bar, flow])
    (∀ e ∈ [a, flow, bar].head?, e.isEdge = false) ∧
      (∀ e ∈ [a, flow, bar].getLast?, e.isEdge = false) ∧
      Resolution.Extends ps (IdentityTable.ofElements ps) (IdentityTable.ofElements qs)
        (resolve ps (IdentityTable.ofElements ps) Ledger.empty)
        (resolve qs (IdentityTable.ofElements qs) Ledger.empty) := by
  intro a b bar flow ps qs
  have hfirst : ∀ e ∈ [a, flow, bar].head?, e.isEdge = false := by decide
  have hlast : ∀ e ∈ [a, flow, bar].getLast?, e.isEdge = false := by decide
  exact ⟨hfirst, hlast, resolve_append_extends _ [flow, b, flow, bar, flow] Ledger.empty hfirst hlast⟩

/-- An edge at the end of a list has another target as soon as something is appended. -/
example :
    let targets := fun row => (resolve row (IdentityTable.ofElements row) Ledger.empty).edges.map
      fun e => e.2.target
    let xs := [.node (.decision "a".toList), .edge (.arrow none true .topDown) none]
    targets (Placed.row 0 xs) = [1] ∧
      targets (Placed.row 0 (xs ++ [.node (.decision "b".toList)])) = [2] := by decide

end Yuml
