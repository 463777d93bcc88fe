import Mathlib
import Yuml.Proofs.Neighbours
import Yuml.Proofs.Ports

/-!
# Note links: which edges are drawn as links to a note

An edge is drawn dashed, and among classes with both ends on one rank, if one of the two elements that
it is WRITTEN between is a note. A node is drawn as a note if its OWNER is one: the first element with
its key. `Diagram.DrawsBetween` says both of an edge and its two nodes:

* how the edge is drawn, from the elements beside it (`activity`, `classes`);
* how the nodes at its ends are drawn, from the owners of their keys (`source`, `target`).

The two agree where the elements beside the edge are notes exactly when the owners are (`alike`). A
label may be written once with the mark of a note and once without, and then they do not
(`dashed_apart_from_notes`).
-/

namespace Yuml

/-! ## 1. How statements are drawn -/

namespace Statement

/-- Whether the statement draws a node as a note. -/
def isNote (s : Statement) : Bool := s.attributes.shape == .note

/-- Whether the statement draws a dashed line. -/
def isDashed (s : Statement) : Bool := s.attributes.style == [.dashed]

/-- What a statement begins with that keeps two nodes on one rank. -/
def rankMark : Text := "    \x7b rank=same; ".toList

/-- Whether the statement is written so that it keeps two nodes on one rank. -/
def isWrapped (s : Statement) : Bool := Text.startsWith rankMark s.render

/-- The name of a node begins with a letter, so only the mark looks like the mark. -/
theorem isWrapped_edge (n : Int) (a : Attributes) (target : Text) (sameRank : Bool) :
    (Statement.mk (nodeName n) a (some target) sameRank).isWrapped = sameRank := by
  cases sameRank with
  | false => rfl
  | true =>
    refine List.isPrefixOf_iff_prefix.mpr ?_
    rw [Statement.render]
    dsimp only
    rw [if_pos rfl, List.append_assoc]
    exact List.prefix_append _ _

end Statement

/-- An element is drawn as a note if and only if it is one. -/
theorem isNote_of_nodeAttributes {e : Element} {g : Grammar} {d : Direction} {a : Attributes}
    (h : e.nodeAttributes g d = .ok a) : (a.shape == .note) = e.isNote := by
  cases e with
  | edge e r => cases g <;> cases h
  | node n =>
    cases g with
    | activity =>
      cases n <;> cases h <;> first | rfl | rw [stepAttributes, Attributes.painted_shape]; rfl
    | classes =>
      cases n <;> cases h <;> (rw [classAttributes, Attributes.painted_shape]; rfl)

theorem Ledger.isNote_current (l : Ledger) (p : Placed) :
    (l.current p).isNote = p.element.isNote := by
  obtain ⟨place, e⟩ := p
  cases e with
  | edge => rfl
  | node n => cases n <;> rfl

/-- An edge is drawn dashed if and only if its relation says so. -/
theorem isDashed_of_edgeAttributes {e : Element} {r : Relation} {a : Attributes}
    (h : e.edgeAttributes r = .ok a) : (a.style == [.dashed]) = r.dashed := by
  have hstyle : a.style = [if r.dashed then .dashed else .solid] := by
    cases e with
    | node n => cases h
    | edge e _ => cases e <;> cases h <;> rfl
  rw [hstyle]
  cases r.dashed <;> rfl

/-! ## 2. The nodes at the ends of an edge -/

namespace Diagram

/-- The statement of the node with a name. -/
def node? (d : Diagram) (name : Text) : Option Statement := d.nodes.find? fun s => s.uid == name

/-- Whether one of the nodes at the ends of an edge is drawn as a note. -/
def touchesNote (d : Diagram) (s : Statement) : Bool :=
  (d.node? s.uid).any (·.isNote) ||
    (s.target.bind fun target => d.node? (namedBy target)).any (·.isNote)

/-- A name is that of the node that an element mentions, and the node is drawn as its owner is. -/
def Shows (d : Diagram) (c : Chart) (name : Text) (p : Placed) : Prop :=
  name = nodeName (rank c.elements p.key) ∧
    ∃ s owner, d.node? name = some s ∧ firstWith? c.elements p.key = some owner ∧
      s.isNote = owner.element.isNote

end Diagram

/-- Whether an element is a note exactly when the owner of its key is. -/
def Chart.Alike (c : Chart) (p : Placed) : Prop :=
  ∀ owner, firstWith? c.elements p.key = some owner → owner.element.isNote = p.element.isNote

theorem Diagram.Shows.isNote {d : Diagram} {c : Chart} {name : Text} {p : Placed}
    (h : d.Shows c name p) (hp : c.Alike p) :
    (d.node? name).any (·.isNote) = p.element.isNote := by
  obtain ⟨-, s, owner, hs, howner, hnote⟩ := h
  rw [hs, ← hp owner howner]
  exact hnote

section Nodes

variable {g : Grammar} {o : Options} {elements : List Element} {c : Chart}

/-- The statement of an identity is found by its name. -/
theorem Chart.Of.node?_uid (h : Chart.Of g o.direction elements c) {i : Identity}
    (hi : i ∈ c.table) :
    ∃ s, Diagram.node? ⟨o, some c⟩ i.uid = some s ∧ s.isNote = i.owner.element.isNote := by
  obtain ⟨-, hns, -⟩ := h.nodes_edges
  have hfind : c.table.find? (fun j => j.uid == i.uid) = some i := by
    have hsome : (c.table.find? fun j => j.uid == i.uid).isSome = true :=
      List.find?_isSome.mpr ⟨i, hi, beq_self_eq_true i.uid⟩
    obtain ⟨j, hj⟩ := Option.isSome_iff_exists.mp hsome
    have huid : j.uid = i.uid :=
      eq_of_beq (List.find?_some (p := fun j : Identity => j.uid == i.uid) hj)
    rw [hj, h.claims.eq_of_id (List.mem_of_find?_eq_some hj) hi (nodeName_injective huid)]
  obtain ⟨s, hs, his⟩ := find?_of_forall₂ hns (q := fun s => s.uid == i.uid)
    (fun j s hjs => by obtain ⟨a, -, rfl⟩ := ofIdentity_eq_ok hjs; rfl) hfind
  obtain ⟨a, ha, rfl⟩ := ofIdentity_eq_ok his
  exact ⟨_, hs, (isNote_of_nodeAttributes ha).trans (Ledger.isNote_current _ _)⟩

/-- A node of the row is drawn as the owner of its key is. -/
theorem Chart.Of.shows (h : Chart.Of g o.direction elements c) {p : Placed} (hp : p ∈ c.elements)
    (hnode : p.isEdge = false) :
    Diagram.Shows ⟨o, some c⟩ c (nodeName (rank c.elements p.key)) p := by
  obtain ⟨i, hi, hid, howner⟩ := lookup_ofElements hp hnode
  rw [← h.table] at hi
  obtain ⟨s, hs, hnote⟩ := h.node?_uid (List.mem_of_find?_eq_some hi)
  have hname : nodeName (rank c.elements p.key) = i.uid := by
    rw [← hid]
    rfl
  rw [hname]
  exact ⟨hname.symm, s, i.owner, hs, howner, hnote⟩

end Nodes

/-! ## 3. Links -/

/-- How an edge is drawn that is written between two elements, and how the nodes at its ends are. -/
structure Diagram.DrawsBetween (d : Diagram) (c : Chart) (previous edge following : Placed)
    (s : Statement) : Prop where
  /-- The edge begins at the node that the element before it mentions. -/
  source : d.Shows c s.uid previous
  /-- It ends at the node that the element behind it mentions. -/
  target : ∃ target, s.target = some target ∧ d.Shows c (namedBy target) following
  /-- In an activity it is dashed if an element beside it is a note. -/
  activity : c.grammar = .activity →
    s.isDashed = (previous.element.isNote || following.element.isNote)
  /-- Among classes it keeps its nodes on one rank if an element beside it is a note, and it is dashed
      if it does or is written as a dashed one. -/
  classes : c.grammar = .classes →
    s.isWrapped = (previous.element.isNote || following.element.isNote) ∧
      s.isDashed = (s.isWrapped || edge.element.isDashed)
  /-- If the owners of both nodes are notes just when the elements are, the drawing shows the same. -/
  alike : c.Alike previous → c.Alike following →
    d.touchesNote s = (previous.element.isNote || following.element.isNote)

theorem Element.Fresh.isDashed_activity {d : Direction} {e : Element} (h : e.Fresh .activity d) :
    e.isDashed = false := by
  cases h <;> rfl

section Links

variable {o : Options} {elements : List Element} {c : Chart}

/-- The statement of an edge that is joined to its neighbours. -/
theorem Chart.Of.drawsBetween (h : Chart.Of c.grammar o.direction elements c)
    (hfresh : ∀ e ∈ elements, e.Fresh c.grammar o.direction) {i : Nat}
    (hi : isJoinedAt c.elements i = true) {e : Placed × Relation} {s : Statement}
    (hlink : LinkedAt c.elements i e)
    (hs : Statement.ofEdge c.grammar o.direction e = .ok s) :
    ∃ previous edge following, previous? c.elements i = some previous ∧
      c.elements[i]? = some edge ∧ following? c.elements i = some following ∧
        Diagram.DrawsBetween ⟨o, some c⟩ c previous edge following s := by
  obtain ⟨hedge, p, f, hp, hf, hpf⟩ := hlink
  obtain ⟨a, ha, rfl⟩ := ofEdge_eq_ok hs
  have hdashed := isDashed_of_edgeAttributes ha
  obtain ⟨hpn, hfn⟩ : p.isEdge = false ∧ f.isEdge = false := by
    have hbetween := (Bool.and_eq_true_iff.mp hi).2
    rw [isBetweenNodes, hp, hf] at hbetween
    simpa using hbetween
  have hsource := h.shows (List.mem_of_getElem? hp) hpn
  have htarget := h.shows (List.mem_of_getElem? hf) hfn
  rw [← hpf.source] at hsource
  have hname := target_eq_portTarget e.1.element hpf.target o.direction
  rw [← namedBy_portTarget _ (e.1.element.entryDirection o.direction) e.2.port, ← hname] at htarget
  refine ⟨p, e.1, f, hp, hedge, hf, hsource, ⟨_, rfl, htarget⟩, fun hg => ?_, fun hg => ?_,
    fun hpa hfa => ?_⟩
  · have hplain : e.1.element.isDashed = false :=
      (hg ▸ h.fresh hfresh _ (List.mem_of_getElem? hedge)).isDashed_activity
    show (a.style == [.dashed]) = _
    rw [hdashed, hpf.dashed, hpf.touchesNote, hplain, Bool.or_false]
  · rw [Statement.isWrapped_edge, hg]
    show (true && e.2.touchesNote) = _ ∧ (a.style == [.dashed]) = ((true && e.2.touchesNote) || _)
    rw [Bool.true_and, hdashed, hpf.dashed, hpf.touchesNote]
    exact ⟨rfl, rfl⟩
  · rw [Diagram.touchesNote]
    exact congrArg₂ or (hsource.isNote hpa) (htarget.isNote hfa)

end Links

/-- **Which edges are drawn as links to a note**, in every document that draws a chart: the edges
    that are drawn are those between two nodes, in their order, and each is drawn as the elements
    beside it say. -/
theorem compile_noteLinks {text : Text} {dark : Bool} {d : Diagram} {c : Chart}
    (h : Diagram.compile text dark = .ok d) (hc : d.chart = some c) :
    List.Forall₂ (fun i s => ∃ previous edge following, previous? c.elements i = some previous ∧
        c.elements[i]? = some edge ∧ following? c.elements i = some following ∧
          d.DrawsBetween c previous edge following s)
      ((List.range c.elements.length).filter (isJoinedAt c.elements)) d.edges := by
  obtain ⟨-, -, -, elements, hel, hof⟩ := compile_eq_some h hc
  obtain ⟨o, chart⟩ := d
  obtain rfl : chart = some c := hc
  have hfresh := ofLines_fresh hel
  obtain ⟨-, -, hes⟩ := hof.nodes_edges
  have hlinks := (resolve_complete c.elements Ledger.empty).edges
  rw [← hof.table, ← hof.resolution] at hlinks
  have hjoined : ∀ i ∈ (List.range c.elements.length).filter (isJoinedAt c.elements),
      isJoinedAt c.elements i = true := fun i hi => (List.mem_filter.mp hi).2
  refine ((List.forall₂_and_left _ _).mpr ⟨hjoined, forall₂_comp hlinks hes⟩).imp fun i s his => ?_
  obtain ⟨hi, e, he, hs⟩ := his
  exact hof.drawsBetween hfresh hi he hs

/-- A note that is mentioned without its mark, and a box that is mentioned with one. -/
theorem compile_noteLinks_mentions :
    ∃ d c, Diagram.compile
        "// {type:activity}\n(note: a)->(b)\n(c)->(a)\n(c)->(note: b)".toList false = .ok d ∧
      d.chart = some c ∧
      List.Forall₂ (fun i s => ∃ previous edge following, previous? c.elements i = some previous ∧
          c.elements[i]? = some edge ∧ following? c.elements i = some following ∧
            d.DrawsBetween c previous edge following s)
        ((List.range c.elements.length).filter (isJoinedAt c.elements)) d.edges := by
  obtain ⟨d, c, hd, hc⟩ := exists_chart_of_okAnd
    (r := Diagram.compile
      "// {type:activity}\n(note: a)->(b)\n(c)->(a)\n(c)->(note: b)".toList false)
    (by decide +kernel)
  exact ⟨d, c, hd, hc, compile_noteLinks hd hc⟩

/-- Notes in the text and notes in the drawing part where a label is mentioned with the mark of a note
    and without it: of three edges the second ends at a note and is solid, and the third is dashed
    between two nodes that are none, in both grammars. -/
theorem dashed_apart_from_notes :
    (∃ d, Diagram.compile
        "// {type:activity}\n(note: a)->(b)\n(c)->(a)\n(c)->(note: b)".toList false = .ok d ∧
      d.edges.map (fun s => (s.isDashed, d.touchesNote s)) =
        [(true, true), (false, true), (true, false)]) ∧
    ∃ d, Diagram.compile
        "// {type:class}\n[note: a]-[b]\n[c]-[a]\n[c]-[note: b]".toList false = .ok d ∧
      d.edges.map (fun s => (s.isWrapped, s.isDashed, d.touchesNote s)) =
        [(true, true, true), (false, false, true), (true, true, false)] := by
  constructor
  · obtain ⟨d, hd, hp⟩ := exists_of_okAnd
      (p := fun d => d.edges.map (fun s => (s.isDashed, d.touchesNote s)) ==
        [(true, true), (false, true), (true, false)])
      (x := Diagram.compile
        "// {type:activity}\n(note: a)->(b)\n(c)->(a)\n(c)->(note: b)".toList false)
      (by decide +kernel)
    exact ⟨d, hd, eq_of_beq hp⟩
  · obtain ⟨d, hd, hp⟩ := exists_of_okAnd
      (p := fun d => d.edges.map (fun s => (s.isWrapped, s.isDashed, d.touchesNote s)) ==
        [(true, true, true), (false, false, true), (true, true, false)])
      (x := Diagram.compile
        "// {type:class}\n[note: a]-[b]\n[c]-[a]\n[c]-[note: b]".toList false)
      (by decide +kernel)
    exact ⟨d, hd, eq_of_beq hp⟩

end Yuml
