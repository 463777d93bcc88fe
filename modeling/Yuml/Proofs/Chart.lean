import Yuml.Diagram
import Yuml.Proofs.Fresh
import Yuml.Proofs.Resolution
import Yuml.Proofs.Table

/-!
# Charts: a document that has compiled, stage by stage

`Diagram.compile` runs its stages in `Except`. This file takes a run apart:

* `Chart.Of g d elements c`: the chart `c` is what the stages make of the elements, in a grammar and
  a direction: their places, table and resolution, a statement for every identity and one for every
  edge that is drawn;
* `exists_chart`: FRESH elements, as all elements of one grammar, always make a chart, so nothing fails
  behind the reading of the lines;
* `compile_eq_some`: a document that draws a chart has read its lines into fresh elements.
-/

namespace Yuml

/-! ## 1. Rows -/

theorem map_element_row (first : Nat) (elements : List Element) :
    (Placed.row first elements).map (·.element) = elements := by
  unfold Placed.row
  rw [List.map_map]
  exact List.zipIdx_map_fst first elements

theorem element_mem_of_mem_row {first : Nat} {elements : List Element} {p : Placed}
    (h : p ∈ Placed.row first elements) : p.element ∈ elements := by
  rw [← map_element_row first elements]
  exact List.mem_map_of_mem h

theorem map_place_row (first : Nat) (elements : List Element) :
    (Placed.row first elements).map (·.place) = List.range' first elements.length := by
  unfold Placed.row
  rw [List.map_map]
  exact List.zipIdx_map_snd first elements

/-- The places of a row go on in what is appended to it. -/
theorem row_append (first : Nat) (xs ys : List Element) :
    Placed.row first (xs ++ ys) = Placed.row first xs ++ Placed.row (first + xs.length) ys := by
  unfold Placed.row
  rw [List.zipIdx_append, List.map_append]

theorem row_take_succ {xs : List Element} {n : Nat} (hn : n < xs.length) :
    Placed.row 0 (xs.take (n + 1)) = Placed.row 0 (xs.take n) ++ [⟨n, xs[n]⟩] := by
  rw [← List.take_concat_get' xs n hn, row_append, Nat.zero_add, List.length_take_of_le hn.le]
  rfl

/-- Two elements of a row at one place are one. -/
theorem eq_of_place {first : Nat} {elements : List Element} {p q : Placed}
    (hp : p ∈ Placed.row first elements) (hq : q ∈ Placed.row first elements)
    (h : p.place = q.place) : p = q := by
  have hnd : ((Placed.row first elements).map (·.place)).Nodup := by
    rw [map_place_row]
    exact List.nodup_range'
  exact List.inj_on_of_nodup_map hnd hp hq h

/-! ## 2. Statements -/

theorem nodeAttributes_ok {g : Grammar} {p : Placed} (h : p.element.belongsTo g = true)
    (hp : p.isEdge = false) (d : Direction) (l : Ledger) :
    ∃ a, (l.current p).nodeAttributes g d = .ok a := by
  obtain ⟨place, e⟩ := p
  cases e with
  | edge => cases hp
  | node n =>
    cases g with
    | activity => cases n <;> first | exact ⟨_, rfl⟩ | cases h
    | classes => cases n <;> first | exact ⟨_, rfl⟩ | cases h

theorem edgeAttributes_ok {e : Element} (he : e.isEdge = true) (r : Relation) :
    ∃ a, e.edgeAttributes r = .ok a := by
  cases e with
  | edge => exact ⟨_, rfl⟩
  | node => cases he

theorem ofChart_eq_ok_iff {g : Grammar} {d : Direction} {t : IdentityTable} {l : Ledger}
    {edges : List (Placed × Relation)} {statements : List Statement} :
    Statement.ofChart g d t l edges = .ok statements ↔
      ∃ ns es, statements = ns ++ es ∧
        List.Forall₂ (fun i s => Statement.ofIdentity g d l i = .ok s) t ns ∧
        List.Forall₂ (fun e s => Statement.ofEdge g d e = .ok s) edges es := by
  unfold Statement.ofChart
  rw [bind_eq_ok_iff]
  constructor
  · rintro ⟨ns, hns, h⟩
    obtain ⟨es, hes, h⟩ := bind_eq_ok_iff.mp h
    exact ⟨ns, es, (Except.ok.inj h).symm, mapM_eq_ok_iff.mp hns, mapM_eq_ok_iff.mp hes⟩
  · rintro ⟨ns, es, rfl, hns, hes⟩
    refine ⟨ns, mapM_eq_ok_iff.mpr hns, bind_eq_ok_iff.mpr ⟨es, mapM_eq_ok_iff.mpr hes, rfl⟩⟩

/-- The statement of a node, from the statement that was made of its identity. -/
theorem ofIdentity_eq_ok {g : Grammar} {d : Direction} {l : Ledger} {i : Identity} {s : Statement}
    (h : Statement.ofIdentity g d l i = .ok s) :
    ∃ a, (l.current i.owner).nodeAttributes g d = .ok a ∧ s = ⟨i.uid, a, none, false⟩ := by
  obtain ⟨a, ha, rfl⟩ := map_eq_ok_iff.mp h
  exact ⟨a, ha, rfl⟩

/-- The statement of an edge, from the statement that was made of its relation. -/
theorem ofEdge_eq_ok {g : Grammar} {d : Direction} {e : Placed × Relation} {s : Statement}
    (h : Statement.ofEdge g d e = .ok s) :
    ∃ a, e.1.element.edgeAttributes e.2 = .ok a ∧
      s = ⟨nodeName e.2.source, a, some (e.1.element.target e.2 d),
        g == .classes && e.2.touchesNote⟩ := by
  obtain ⟨a, ha, rfl⟩ := map_eq_ok_iff.mp h
  exact ⟨a, ha, rfl⟩

/-! ## 3. Charts -/

/-- What the stages make of some elements. -/
structure Chart.Of (g : Grammar) (d : Direction) (elements : List Element) (c : Chart) : Prop where
  grammar : c.grammar = g
  row : c.elements = Placed.row 0 elements
  table : c.table = IdentityTable.ofElements c.elements
  resolution : c.resolution = resolve c.elements c.table Ledger.empty
  statements : Statement.ofChart g d c.table c.resolution.ledger c.resolution.edges =
    .ok c.statements

theorem ofElements_eq_ok_iff {g : Grammar} {d : Direction} {elements : List Element} {c : Chart} :
    Chart.ofElements g d elements = .ok c ↔ Chart.Of g d elements c := by
  unfold Chart.ofElements
  dsimp only
  rw [bind_eq_ok_iff]
  constructor
  · rintro ⟨ss, hss, h⟩
    cases h
    exact ⟨rfl, rfl, rfl, rfl, hss⟩
  · rintro ⟨hg, hrow, htable, hres, hss⟩
    obtain ⟨g', row, table, resolution, ss⟩ := c
    dsimp only at hg hrow htable hres hss
    subst hg hrow htable hres
    exact ⟨ss, hss, rfl⟩

section Of

variable {g : Grammar} {d : Direction} {elements : List Element} {c : Chart}

theorem Chart.Of.claims (h : Chart.Of g d elements c) :
    IdentityTable.Claims (c.elements.filter fun p => !p.isEdge) c.table :=
  h.table ▸ IdentityTable.ofElements_claims c.elements

/-- The elements of a chart that has just been read are fresh where they stand. -/
theorem Chart.Of.fresh (h : Chart.Of g d elements c) (hfresh : ∀ e ∈ elements, e.Fresh g d) :
    ∀ p ∈ c.elements, p.element.Fresh g d := by
  rw [h.row]
  exact fun p hp => hfresh _ (element_mem_of_mem_row hp)

/-- The owner of a node is a node of the row. -/
theorem Chart.Of.owner_mem (h : Chart.Of g d elements c) {i : Identity} (hi : i ∈ c.table) :
    i.owner ∈ c.elements ∧ i.owner.isEdge = false := by
  obtain ⟨hmem, hne⟩ := List.mem_filter.mp (h.claims.owner_mem hi)
  exact ⟨hmem, by simpa using hne⟩

/-- Two identities whose owners stand at one place are one. -/
theorem Chart.Of.eq_of_place (h : Chart.Of g d elements c) {i j : Identity} (hi : i ∈ c.table)
    (hj : j ∈ c.table) (hp : i.owner.place = j.owner.place) : i = j := by
  have hio := (h.owner_mem hi).1
  have hjo := (h.owner_mem hj).1
  rw [h.row] at hio hjo
  refine h.claims.eq_of_key hi hj ?_
  rw [← h.claims.owner_key hi, ← h.claims.owner_key hj, Yuml.eq_of_place hio hjo hp]

/-- Every edge that is drawn comes from a join of the row. -/
theorem Chart.Of.join_of_mem (h : Chart.Of g d elements c) {e : Placed × Relation}
    (he : e ∈ c.resolution.edges) :
    ∃ j ∈ joins c.table (ring c.elements), ∃ l,
      j.Of c.table c.elements ∧ e = (j.edge, j.relation l) := by
  rw [h.resolution, resolve_eq] at he
  obtain ⟨j, hj, l, rfl⟩ := exists_join_of_mem_drawn he
  exact ⟨j, hj, l, of_mem_joins hj, rfl⟩

end Of

/-- **Elements of one grammar always make a chart**, in every direction. -/
theorem exists_chart_of_belongsTo {g : Grammar} {elements : List Element}
    (h : ∀ e ∈ elements, e.belongsTo g = true) (d : Direction) :
    ∃ c, Chart.ofElements g d elements = .ok c := by
  have hrow : ∀ p ∈ Placed.row 0 elements, p.element.belongsTo g = true :=
    fun p hp => h _ (element_mem_of_mem_row hp)
  generalize hr : Placed.row 0 elements = row at hrow
  have hclaims := IdentityTable.ofElements_claims row
  generalize ht : IdentityTable.ofElements row = t at hclaims
  generalize hv : resolve row t Ledger.empty = v
  have hns : ∀ i ∈ t, ∃ s, Statement.ofIdentity g d v.ledger i = .ok s := by
    intro i hi
    obtain ⟨hmem, hne⟩ := List.mem_filter.mp (hclaims.owner_mem hi)
    obtain ⟨a, ha⟩ := nodeAttributes_ok (hrow _ hmem) (by simpa using hne) d v.ledger
    exact ⟨_, map_eq_ok_iff.mpr ⟨a, ha, rfl⟩⟩
  have hes : ∀ e ∈ v.edges, ∃ s, Statement.ofEdge g d e = .ok s := by
    intro e he
    rw [← hv, resolve_eq] at he
    obtain ⟨j, hj, l, rfl⟩ := exists_join_of_mem_drawn he
    obtain ⟨a, ha⟩ := edgeAttributes_ok (of_mem_joins hj).isEdge (j.relation l)
    exact ⟨_, map_eq_ok_iff.mpr ⟨a, ha, rfl⟩⟩
  obtain ⟨ns, hns⟩ := mapM_ok hns
  obtain ⟨es, hes⟩ := mapM_ok hes
  refine ⟨⟨g, row, t, v, ns ++ es⟩, ofElements_eq_ok_iff.mpr ⟨rfl, hr.symm, ht.symm, hv.symm, ?_⟩⟩
  exact ofChart_eq_ok_iff.mpr ⟨ns, es, rfl, mapM_eq_ok_iff.mp hns, mapM_eq_ok_iff.mp hes⟩

theorem exists_chart {g : Grammar} {d : Direction} {elements : List Element}
    (h : ∀ e ∈ elements, e.Fresh g d) : ∃ c, Chart.ofElements g d elements = .ok c :=
  exists_chart_of_belongsTo (fun e he => (h e he).belongsTo) d

/-! ## 4. Nodes and edges among the statements -/

theorem isEdge_of_ofIdentity {g : Grammar} {d : Direction} {l : Ledger} {t : IdentityTable}
    {ns : List Statement}
    (h : List.Forall₂ (fun i s => Statement.ofIdentity g d l i = .ok s) t ns) :
    ∀ s ∈ ns, s.isEdge = false := by
  refine forall_of_forall₂ h fun i _ s hs => ?_
  obtain ⟨a, -, rfl⟩ := ofIdentity_eq_ok hs
  rfl

theorem isEdge_of_ofEdge {g : Grammar} {d : Direction} {edges : List (Placed × Relation)}
    {es : List Statement}
    (h : List.Forall₂ (fun e s => Statement.ofEdge g d e = .ok s) edges es) :
    ∀ s ∈ es, s.isEdge = true := by
  refine forall_of_forall₂ h fun e _ s hs => ?_
  obtain ⟨a, -, rfl⟩ := ofEdge_eq_ok hs
  rfl

/-- **The statements of a chart**: those of its identities, in the order of their numbers, and then
    those of its edges. -/
theorem Chart.Of.nodes_edges {g : Grammar} {o : Options} {elements : List Element} {c : Chart}
    (h : Chart.Of g o.direction elements c) :
    Diagram.statements ⟨o, some c⟩ = Diagram.nodes ⟨o, some c⟩ ++ Diagram.edges ⟨o, some c⟩ ∧
      List.Forall₂ (fun i s => Statement.ofIdentity g o.direction c.resolution.ledger i = .ok s)
        c.table (Diagram.nodes ⟨o, some c⟩) ∧
      List.Forall₂ (fun e s => Statement.ofEdge g o.direction e = .ok s)
        c.resolution.edges (Diagram.edges ⟨o, some c⟩) := by
  obtain ⟨ns, es, hss, hns, hes⟩ := ofChart_eq_ok_iff.mp h.statements
  have hn := isEdge_of_ofIdentity hns
  have he := isEdge_of_ofEdge hes
  have hstatements : Diagram.statements ⟨o, some c⟩ = ns ++ es := hss
  have hnodes : Diagram.nodes ⟨o, some c⟩ = ns := by
    have h₁ : ns.filter (fun s => !s.isEdge) = ns :=
      List.filter_eq_self.mpr fun s hs => by rw [hn s hs]; rfl
    have h₂ : es.filter (fun s => !s.isEdge) = [] :=
      List.filter_eq_nil_iff.mpr fun s hs => by rw [he s hs]; exact Bool.false_ne_true
    rw [Diagram.nodes, hstatements, List.filter_append, h₁, h₂, List.append_nil]
  have hedges : Diagram.edges ⟨o, some c⟩ = es := by
    have h₁ : ns.filter (·.isEdge) = [] :=
      List.filter_eq_nil_iff.mpr fun s hs => by rw [hn s hs]; exact Bool.false_ne_true
    have h₂ : es.filter (·.isEdge) = es := List.filter_eq_self.mpr he
    rw [Diagram.edges, hstatements, List.filter_append, h₁, h₂, List.nil_append]
  rw [hnodes, hedges]
  exact ⟨hstatements, hns, hes⟩

/-! ## 5. Documents -/

theorem exists_chart_of_okAnd {r : Except Fault Diagram}
    (h : okAnd (fun d => d.chart.isSome) r = true) : ∃ d c, r = .ok d ∧ d.chart = some c := by
  obtain ⟨d, rfl, hd⟩ := exists_of_okAnd h
  exact ⟨d, d.chart.get hd, rfl, (Option.some_get hd).symm⟩

/-- **A document that draws a chart** has options, has read its lines into elements, and the chart
    is made of these. -/
theorem compile_eq_some {text : Text} {dark : Bool} {v : Diagram} {c : Chart}
    (h : Diagram.compile text dark = .ok v) (hc : v.chart = some c) :
    documentOptions text dark = .ok v.options ∧ bodyLines text ≠ [] ∧
      (∃ type, v.options.chartType = some type ∧ type.grammar? = some c.grammar) ∧
      ∃ elements, Element.ofLines (bodyLines text) c.grammar v.options.direction = .ok elements ∧
        Chart.Of c.grammar v.options.direction elements c := by
  unfold Diagram.compile at h
  obtain ⟨o, ho, h⟩ := bind_eq_ok_iff.mp h
  split at h
  · cases h
    cases hc
  · rename_i hbody
    split at h
    · cases h
    · rename_i type htype
      split at h
      · cases h
        cases hc
      · rename_i g hg
        obtain ⟨elements, hel, h⟩ := bind_eq_ok_iff.mp h
        obtain ⟨c', hc', h⟩ := bind_eq_ok_iff.mp h
        cases h
        cases hc
        have hof := ofElements_eq_ok_iff.mp hc'
        obtain rfl := hof.grammar
        exact ⟨ho, fun e => hbody (List.isEmpty_iff.mpr e), ⟨type, htype, hg⟩, elements, hel, hof⟩

end Yuml
