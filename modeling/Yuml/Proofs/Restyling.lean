import Yuml.Proofs.Outcome
import Yuml.Proofs.Ports

/-!
# Restyling: what direction, theme and generation change

A body may be compiled under another header. As long as the type of chart stays, the chart stays: the
same nodes and edges, numbered alike, entering the same ports. Only what shows the direction or the theme
is written in another way.

* The direction is copied into every arrow when a line is read. Two readings of a body differ in these
  copies alone (`ofLines_turn`), and the resolution does not see them (`turn_unseen`).
* A bar lies across the direction, so its height and its width change places between a chart that grows
  downwards and one that does not (`nodeAttributes_turned`).
* An edge into a bar enters it at the compass point of the direction, whether that comes from the copy in
  the arrow or from the document (`ofEdge_turned`).
* The header of the drawing names the direction in one line and the theme in two (`headerLines_eq_set`).

`Diagram.Restyled` says all of it of two documents, and `compile_restyled` proves it.
-/

namespace Yuml

/-! ## 1. Turned elements -/

/-- The edge with another direction. -/
def Edge.turn (d : Direction) : Edge → Edge
  | .arrow label directed _ => .arrow label directed d
  | e => e

/-- The element with another direction. -/
def Element.turn (d : Direction) : Element → Element
  | .edge e r => .edge (e.turn d) r
  | e => e

namespace Element

theorem turn_of_not_isEdge {e : Element} (h : e.isEdge = false) (d : Direction) : e.turn d = e := by
  cases e with
  | node => rfl
  | edge => cases h

/-- The resolution does not see the direction of an arrow. -/
theorem turn_unseen (d : Direction) : Unseen (turn d) where
  isEdge e := by cases e <;> rfl
  isNote e := by cases e <;> rfl
  isDashed e := by
    cases e with
    | node => rfl
    | edge e => cases e <;> rfl
  key e := by
    cases e with
    | node => rfl
    | edge e => cases e <;> rfl

variable {g : Grammar} {d : Direction} {e : Element}

theorem Fresh.turn (h : e.Fresh g d) (d' : Direction) : (e.turn d').Fresh g d' := by
  cases h with
  | start => exact .start d'
  | stop => exact .stop d'
  | activity _ label paint h => exact .activity d' label paint h
  | decision _ label => exact .decision d' label
  | bar _ label => exact .bar d' label
  | note _ _ label paint h => exact .note g d' label paint h
  | classBox _ label paint h => exact .classBox d' label paint h
  | arrow _ label directed => exact .arrow d' label directed
  | connection _ left right dashed => exact .connection d' left right dashed
  | inheritance => exact .inheritance d'

/-- Among classes nothing has a direction. -/
theorem Fresh.turn_classes (h : e.Fresh .classes d) (d' : Direction) : e.turn d' = e := by
  cases h <;> rfl

theorem ofText_turn (g : Grammar) (d d' : Direction) (t : Text) :
    ofText g d' t = (ofText g d t).map (turn d') := by
  cases g with
  | activity =>
    show ofActivityText t d' = (ofActivityText t d).map (turn d')
    unfold ofActivityText
    split
    · rfl
    split
    · rfl
    split
    · rfl
    cases beforeArrow? t with
    | some label => rfl
    | none =>
      dsimp only
      split <;> rfl
  | classes =>
    show ofClassText t = (ofClassText t).map (turn d')
    cases h : ofClassText t with
    | error f => rfl
    | ok e =>
      have hfresh : e.Fresh .classes d := ofText_fresh (g := .classes) h
      exact congrArg Except.ok (hfresh.turn_classes d').symm

/-- **Reading a body in another direction turns its elements.** -/
theorem ofLines_turn (lines : List Text) (g : Grammar) (d d' : Direction) :
    ofLines lines g d' = (ofLines lines g d).map (List.map (turn d')) := by
  rw [ofLines_eq, ofLines_eq]
  exact mapM_map_result (ofText_turn g d d') _

end Element

/-! ## 2. Turned charts -/

/-- A change that no node notices leaves the table as it is. -/
theorem IdentityTable.ofElements_map {f : Element → Element} (hf : Element.Unseen f)
    (hnode : ∀ e, e.isEdge = false → f e = e) (row : List Placed) :
    IdentityTable.ofElements (row.map (Placed.map f)) = IdentityTable.ofElements row := by
  have hnodes : (row.map (Placed.map f)).filter (fun p => !p.isEdge) =
      row.filter fun p => !p.isEdge := by
    have hkept : (fun p : Placed => !p.isEdge) ∘ Placed.map f = fun p => !p.isEdge :=
      funext fun p => congrArg not (hf.isEdge p.element)
    rw [List.filter_map, hkept]
    refine (List.map_congr_left fun p hp => ?_).trans (List.map_id _)
    have hedge : p.isEdge = false := by simpa using (List.mem_filter.mp hp).2
    rw [Placed.map, hnode p.element hedge]
    rfl
  rw [IdentityTable.ofElements, hnodes]
  rfl

/-- **The chart of turned elements** has the same table, and its edges are the turned edges with the
    same relations. -/
theorem Chart.Of.turned {g : Grammar} {d d' : Direction} {elements : List Element} {c c' : Chart}
    (h : Chart.Of g d elements c) (h' : Chart.Of g d' (elements.map (Element.turn d')) c') :
    c'.table = c.table ∧ c'.resolution = c.resolution.mapEdges (Element.turn d') := by
  have hrow : c'.elements = c.elements.map (Placed.map (Element.turn d')) := by
    rw [h'.row, h.row, map_row]
  have htable : c'.table = c.table := by
    rw [h'.table, h.table, hrow]
    exact IdentityTable.ofElements_map (Element.turn_unseen d')
      (fun e he => Element.turn_of_not_isEdge he d') c.elements
  refine ⟨htable, ?_⟩
  rw [h'.resolution, h.resolution, htable, hrow]
  exact (Element.turn_unseen d').resolve_map c.elements c.table Ledger.empty

/-! ## 3. Turned statements -/

/-- The attributes with height and width in each other's place. -/
def Attributes.swapped (a : Attributes) : Attributes :=
  { a with height := a.width, width := a.height }

/-- How the statement of a node follows the direction: that of a bar changes height and width for one
    another where only one of the two directions is downwards, and no other does. -/
structure Statement.NodeTurned (d d' : Direction) (owner : Placed) (s s' : Statement) : Prop where
  eq : s' = if owner.isBar && d.isVertical != d'.isVertical
    then { s with attributes := s.attributes.swapped } else s
  /-- The change is one that shows. -/
  oblong : owner.isBar = true → s.attributes.height ≠ s.attributes.width

/-- How the statement of an edge follows the direction: in the compass point behind a port. -/
def Statement.EdgeTurned (d d' : Direction) (s s' : Statement) : Prop :=
  ∃ (n : Nat) (port : Option Int), s.target = some (portTarget (nodeName n) d port) ∧
    s' = { s with target := some (portTarget (nodeName n) d' port) }

theorem barAttributes_swapped (fanin : Int) (d d' : Direction) :
    barAttributes fanin d' =
      if d.isVertical != d'.isVertical then (barAttributes fanin d).swapped
      else barAttributes fanin d := by
  cases d <;> cases d' <;> rfl

/-- **The attributes of a node in another direction.** -/
theorem nodeAttributes_turned {g : Grammar} {d : Direction} {l : Ledger} {p : Placed}
    {a : Attributes} (h : (l.current p).nodeAttributes g d = .ok a) (d' : Direction) :
    (l.current p).nodeAttributes g d' =
        .ok (if p.isBar && d.isVertical != d'.isVertical then a.swapped else a) ∧
      (p.isBar = true → a.height ≠ a.width) := by
  obtain ⟨place, e⟩ := p
  cases e with
  | edge => cases h
  | node n =>
    cases hb : n.isBar with
    | false =>
      have hbar : (⟨place, .node n⟩ : Placed).isBar = false := hb
      rw [hbar]
      refine ⟨?_, fun e => by cases e⟩
      cases n with
      | bar => cases hb
      | _ => cases g <;> exact h
    | true =>
      cases n with
      | bar label fanin =>
        cases g with
        | classes => cases h
        | activity =>
          obtain rfl : barAttributes _ d = a := Except.ok.inj h
          refine ⟨congrArg Except.ok (barAttributes_swapped _ d d'), fun _ => ?_⟩
          cases d <;> exact fun e => absurd (Option.some.inj e) (by decide)
      | _ => cases hb

/-- **The statement of an edge in another direction.** -/
theorem ofEdge_turned {g : Grammar} {d d' : Direction} {e : Placed × Relation} {n : Nat}
    (hfresh : e.1.element.Fresh g d) (hn : e.2.target = n) {s s' : Statement}
    (hs : Statement.ofEdge g d e = .ok s)
    (hs' : Statement.ofEdge g d' (e.1.map (Element.turn d'), e.2) = .ok s') :
    s.target = some (portTarget (nodeName n) d e.2.port) ∧
      s' = { s with target := some (portTarget (nodeName n) d' e.2.port) } := by
  obtain ⟨a, ha, rfl⟩ := ofEdge_eq_ok hs
  obtain ⟨a', ha', rfl⟩ := ofEdge_eq_ok hs'
  have hsame : a' = a := by
    have hattributes : (e.1.element.turn d').edgeAttributes e.2 = e.1.element.edgeAttributes e.2 := by
      cases e.1.element with
      | node => rfl
      | edge x => cases x <;> rfl
    exact Except.ok.inj (ha'.symm.trans (hattributes.trans ha))
  have htarget : e.1.element.target e.2 d = portTarget (nodeName n) d e.2.port := by
    rw [target_eq_portTarget _ hn, hfresh.entryDirection_eq]
  have htarget' : (e.1.element.turn d').target e.2 d' = portTarget (nodeName n) d' e.2.port := by
    rw [target_eq_portTarget _ hn, (hfresh.turn d').entryDirection_eq]
  refine ⟨congrArg some htarget, ?_⟩
  subst hsame
  show Statement.mk _ _ (some ((e.1.element.turn d').target e.2 d')) _ = _
  rw [htarget']

section Statements

variable {g : Grammar} {o o' : Options} {elements : List Element} {c c' : Chart}

/-- Among classes no bar owns a node. -/
theorem Chart.Of.isBar_classes (h : Chart.Of g o.direction elements c)
    (hfresh : ∀ e ∈ elements, e.Fresh g o.direction) (hg : g = .classes) {i : Identity}
    (hi : i ∈ c.table) : i.owner.isBar = false := by
  refine Bool.eq_false_iff.mpr fun hbar => ?_
  obtain ⟨hactivity, -⟩ := (h.fresh hfresh _ (h.owner_mem hi).1).eq_bar hbar
  rw [hg] at hactivity
  cases hactivity

/-- **The nodes of a chart in another direction**, each beside the identity that it draws. -/
theorem Chart.Of.nodes_turned (h : Chart.Of g o.direction elements c)
    (h' : Chart.Of g o'.direction (elements.map (Element.turn o'.direction)) c') :
    (Diagram.nodes ⟨o, some c⟩).length = c.table.length ∧
      List.Forall₂ (fun p s' => Statement.NodeTurned o.direction o'.direction p.1.owner p.2 s')
        (c.table.zip (Diagram.nodes ⟨o, some c⟩)) (Diagram.nodes ⟨o', some c'⟩) := by
  obtain ⟨htable, hresolution⟩ := h.turned h'
  obtain ⟨-, hns, -⟩ := h.nodes_edges
  obtain ⟨-, hns', -⟩ := h'.nodes_edges
  rw [htable, hresolution] at hns'
  refine ⟨hns.length_eq.symm, (forall₂_zip hns hns').imp fun p s' hp => ?_⟩
  obtain ⟨hs, hs'⟩ := hp
  obtain ⟨a, ha, hsa⟩ := ofIdentity_eq_ok hs
  obtain ⟨a', ha', rfl⟩ := ofIdentity_eq_ok hs'
  obtain ⟨hturned, hoblong⟩ := nodeAttributes_turned ha o'.direction
  have hsame := Except.ok.inj (ha'.symm.trans hturned)
  rw [hsa]
  refine ⟨?_, hoblong⟩
  rw [hsame]
  split <;> rfl

/-- **The edges of a chart in another direction**; among classes none enters a port. -/
theorem Chart.Of.edges_turned (h : Chart.Of g o.direction elements c)
    (h' : Chart.Of g o'.direction (elements.map (Element.turn o'.direction)) c')
    (hfresh : ∀ e ∈ elements, e.Fresh g o.direction) :
    List.Forall₂ (fun s s' => ∃ (n : Nat) (port : Option Int), (g = .classes → port = none) ∧
        s.target = some (portTarget (nodeName n) o.direction port) ∧
        s' = { s with target := some (portTarget (nodeName n) o'.direction port) })
      (Diagram.edges ⟨o, some c⟩) (Diagram.edges ⟨o', some c'⟩) := by
  obtain ⟨-, hresolution⟩ := h.turned h'
  obtain ⟨-, -, hes⟩ := h.nodes_edges
  obtain ⟨-, -, hes'⟩ := h'.nodes_edges
  have hmem : ∀ e ∈ c.resolution.edges, e.1.element.Fresh g o.direction ∧
      ∃ n : Nat, e.2.target = n ∧ (g = .classes → e.2.port = none) := by
    intro e he
    obtain ⟨j, -, l, hj, rfl⟩ := h.join_of_mem he
    exact ⟨h.fresh hfresh _ hj.edge_mem, j.target.id, rfl, fun hclasses =>
      nextPort_of_not_isBar l (h.isBar_classes hfresh hclasses hj.target_mem)⟩
  rw [hresolution] at hes'
  have hes' := List.forall₂_map_left_iff.mp hes'
  have hes := (List.forall₂_and_left _ _).mpr ⟨hmem, hes⟩
  -- both lists of statements are made of the same edges, so the two of an edge stand side by side
  refine (forall₂_comp hes.flip hes').imp fun s s' hss' => ?_
  obtain ⟨e, ⟨⟨hf, n, hn, hport⟩, hs⟩, hs'⟩ := hss'
  obtain ⟨htarget, heq⟩ := ofEdge_turned hf hn hs hs'
  exact ⟨n, e.2.port, hport, htarget, heq⟩

/-- The statements are the same among classes, and where the direction is. -/
theorem Chart.Of.statements_eq (h : Chart.Of g o.direction elements c)
    (h' : Chart.Of g o'.direction (elements.map (Element.turn o'.direction)) c')
    (hfresh : ∀ e ∈ elements, e.Fresh g o.direction)
    (hkept : g = .classes ∨ o'.direction = o.direction) :
    Diagram.statements ⟨o', some c'⟩ = Diagram.statements ⟨o, some c⟩ := by
  obtain ⟨hlength, hturned⟩ := h.nodes_turned h'
  have hbar : ∀ i ∈ c.table,
      (i.owner.isBar && o.direction.isVertical != o'.direction.isVertical) = false := by
    intro i hi
    rcases hkept with hclasses | hsame
    · rw [h.isBar_classes hfresh hclasses hi, Bool.false_and]
    · rw [hsame, bne_self_eq_false, Bool.and_false]
  have hnodes : Diagram.nodes ⟨o', some c'⟩ = Diagram.nodes ⟨o, some c⟩ := by
    have hturned := (List.forall₂_and_left _ _).mpr
      ⟨fun p hp => (List.of_mem_zip (a := p.1) (b := p.2) hp).1, hturned⟩
    have hmap := map_eq_map_of_forall₂ hturned (f := Prod.snd) (g := id) fun p s' hp => by
      rw [hp.2.eq, hbar p.1 hp.1]
      rfl
    rw [List.map_snd_zip hlength.le, List.map_id] at hmap
    exact hmap.symm
  have hedges : Diagram.edges ⟨o', some c'⟩ = Diagram.edges ⟨o, some c⟩ := by
    have hmap := map_eq_map_of_forall₂ (h.edges_turned h' hfresh) (f := id) (g := id) ?_
    · rw [List.map_id, List.map_id] at hmap
      exact hmap.symm
    · rintro s s' ⟨n, port, hport, htarget, rfl⟩
      have hsame : portTarget (nodeName n) o'.direction port =
          portTarget (nodeName n) o.direction port := by
        rcases hkept with hclasses | hsame
        · rw [hport hclasses]
          rfl
        · rw [hsame]
      show s = { s with target := _ }
      rw [hsame, ← htarget]
  rw [h.nodes_edges.1, h'.nodes_edges.1, hnodes, hedges]

end Statements

/-! ## 4. The drawing, line by line -/

/-- The line of a drawing that sets the colours of nodes. -/
def nodeDefaults (dark : Bool) : Text :=
  "  node [ shape=none, margin=0, ".toList ++ themeColors dark ++ ", fontname=Helvetica ]".toList

/-- The line of a drawing that sets the colours of edges. -/
def edgeDefaults (dark : Bool) : Text :=
  "  edge [ ".toList ++ themeColors dark ++ ", fontname=Helvetica ]".toList

/-- The line of a drawing that sets the direction. -/
def rankdirLine (d : Direction) : Text := "    rankdir = ".toList ++ d.rankdir

/-- The lines of a drawing: a header of six, one for each statement and the closing brace. -/
def Diagram.lines (v : Diagram) : List Text :=
  match v.chart with
  | none => []
  | some c =>
    headerLines c.grammar v.options.direction v.options.dark ++ c.statements.map Statement.render ++
      ["\x7d".toList]

theorem Diagram.render_eq_lines {v : Diagram} {c : Chart} (h : v.chart = some c) :
    v.render = Text.joinWith ['\n'] v.lines ++ ['\n'] := by
  rw [Diagram.render, Diagram.lines, h]
  rfl

/-- **Three lines of the header show direction and theme.** -/
theorem headerLines_eq_set (g : Grammar) (d d' : Direction) (dark dark' : Bool) :
    headerLines g d' dark' =
      (((headerLines g d dark).set 2 (nodeDefaults dark')).set 3 (edgeDefaults dark')).set 5
        (rankdirLine d') := rfl

/-! ## 5. Documents -/

/-- Two documents that draw one chart, in directions and themes of their own. -/
structure Diagram.Restyled (v v' : Diagram) (c c' : Chart) : Prop where
  /-- The nodes are the same and the same elements own them. -/
  table : c'.grammar = c.grammar ∧ c'.table = c.table
  dropped : v'.dropped = v.dropped
  length : v'.statements.length = v.statements.length
  /-- Every statement draws a node or an edge, the nodes first, and there is one for each node. -/
  statements : (v.statements = v.nodes ++ v.edges ∧ v'.statements = v'.nodes ++ v'.edges) ∧
    v.nodes.length = c.table.length
  nodes : List.Forall₂
    (fun p s' => Statement.NodeTurned v.options.direction v'.options.direction p.1.owner p.2 s')
    (c.table.zip v.nodes) v'.nodes
  edges : List.Forall₂ (Statement.EdgeTurned v.options.direction v'.options.direction)
    v.edges v'.edges
  /-- Classes do not show the direction. -/
  kept : c.grammar = .classes ∨ v'.options.direction = v.options.direction →
    v'.statements = v.statements
  /-- The drawing is its lines. -/
  rendered : v.render = Text.joinWith ['\n'] v.lines ++ ['\n'] ∧
    v'.render = Text.joinWith ['\n'] v'.lines ++ ['\n']
  /-- The header differs in three lines, and behind it stand the statements. -/
  lines : v.lines = v.lines.take 6 ++ v.statements.map Statement.render ++ ["\x7d".toList] ∧
    v'.lines = (((v.lines.take 6).set 2 (nodeDefaults v'.options.dark)).set 3
      (edgeDefaults v'.options.dark)).set 5 (rankdirLine v'.options.direction) ++
        v'.statements.map Statement.render ++ ["\x7d".toList]
  /-- Another direction changes one line of a drawing of classes. -/
  classes : c.grammar = .classes → v'.options.dark = v.options.dark →
    v'.lines = v.lines.set 5 (rankdirLine v'.options.direction)
  /-- Another theme changes two lines of a drawing. -/
  theme : v'.options.direction = v.options.direction →
    v'.lines = (v.lines.set 2 (nodeDefaults v'.options.dark)).set 3 (edgeDefaults v'.options.dark)
  /-- Either change shows. -/
  shown : v'.lines = v.lines →
    v'.options.direction = v.options.direction ∧ v'.options.dark = v.options.dark
  /-- Nothing else in the options shows. -/
  rest : v'.options.direction = v.options.direction → v'.options.dark = v.options.dark →
    v'.render = v.render

theorem Chart.Of.restyled {g : Grammar} {o o' : Options} {elements : List Element} {c c' : Chart}
    (h : Chart.Of g o.direction elements c)
    (h' : Chart.Of g o'.direction (elements.map (Element.turn o'.direction)) c')
    (hfresh : ∀ e ∈ elements, e.Fresh g o.direction) :
    Diagram.Restyled ⟨o, some c⟩ ⟨o', some c'⟩ c c' := by
  obtain ⟨htable, hresolution⟩ := h.turned h'
  obtain ⟨hlength, hnodes⟩ := h.nodes_turned h'
  have hedges := (h.edges_turned h' hfresh).imp fun _ _ hs =>
    show Statement.EdgeTurned o.direction o'.direction _ _ from
      hs.imp fun _ hn => hn.imp fun _ hp => hp.2
  have hgrammar : c'.grammar = c.grammar := h'.grammar.trans h.grammar.symm
  have hkept : c.grammar = .classes ∨ o'.direction = o.direction → c'.statements = c.statements := by
    rw [h.grammar]
    exact h.statements_eq h' hfresh
  have hlength' : (Diagram.nodes ⟨o', some c'⟩).length = (Diagram.nodes ⟨o, some c⟩).length := by
    rw [← hnodes.length_eq, List.length_zip, hlength, Nat.min_self]
  refine {
    table := ⟨hgrammar, htable⟩
    dropped := ?dropped
    length := ?length
    statements := ⟨⟨h.nodes_edges.1, h'.nodes_edges.1⟩, hlength⟩
    nodes := hnodes
    edges := hedges
    kept := hkept
    rendered := ⟨Diagram.render_eq_lines rfl, Diagram.render_eq_lines rfl⟩
    lines := ⟨rfl, ?lines⟩
    classes := fun hclasses hdark => ?classes
    theme := fun hsame => ?theme
    shown := fun hlines => ⟨?direction, ?dark⟩
    rest := fun hsame hdark => ?rest }
  case dropped =>
    show c'.resolution.dropped = c.resolution.dropped
    rw [hresolution]
    rfl
  case length =>
    rw [h.nodes_edges.1, h'.nodes_edges.1, List.length_append, List.length_append, hlength',
      hedges.length_eq]
  case lines =>
    show headerLines c'.grammar _ _ ++ _ ++ _ = _
    rw [hgrammar, headerLines_eq_set c.grammar o.direction o'.direction o.dark o'.dark]
    rfl
  case classes =>
    have hdark : o'.dark = o.dark := hdark
    show headerLines c'.grammar _ o'.dark ++ c'.statements.map Statement.render ++ _ = _
    rw [hgrammar, hkept (.inl hclasses), hdark]
    rfl
  case theme =>
    have hsame : o'.direction = o.direction := hsame
    show headerLines c'.grammar o'.direction _ ++ c'.statements.map Statement.render ++ _ = _
    rw [hgrammar, hkept (.inr hsame), hsame]
    rfl
  case direction =>
    have hline : some (rankdirLine o'.direction) = some (rankdirLine o.direction) :=
      congrArg (fun ls : List Text => ls[5]?) hlines
    have hname := List.append_cancel_left (Option.some.inj hline)
    show o'.direction = o.direction
    revert hname
    cases o'.direction <;> cases o.direction <;> decide
  case dark =>
    have hline : some (nodeDefaults o'.dark) = some (nodeDefaults o.dark) :=
      congrArg (fun ls : List Text => ls[2]?) hlines
    have hcolors := List.append_cancel_left (List.append_cancel_right (Option.some.inj hline))
    show o'.dark = o.dark
    revert hcolors
    cases o'.dark <;> cases o.dark <;> decide
  case rest =>
    have hsame : o'.direction = o.direction := hsame
    have hdark : o'.dark = o.dark := hdark
    show renderChart c'.grammar o'.direction c'.statements o'.dark = _
    rw [hgrammar, hkept (.inr hsame), hsame, hdark]
    rfl

/-- **Direction, theme and generation only change what they should.** A document that draws a chart draws
    it under every other header of the same type and in either theme: in the direction that the last
    directive of that header names, restyled and nothing else. -/
theorem compile_restyled {text text' : Text} {dark : Bool} {v : Diagram}
    (h : Diagram.compile text dark = .ok v) (hdrawn : v.render ≠ [])
    (hbody : bodyLines text' = bodyLines text)
    (htype : ∀ t, Directive.LastType (headerOf text) t → Directive.LastType (headerOf text') t)
    (haccepted : ∀ x ∈ headerOf text', x.Accepted) (dark' : Bool) :
    ∃ v' c c', Diagram.compile text' dark' = .ok v' ∧ v.chart = some c ∧ v'.chart = some c' ∧
      (v.options.direction = Directive.lastDirection (headerOf text) ∧ v.options.dark = dark) ∧
      (v'.options.direction = Directive.lastDirection (headerOf text') ∧ v'.options.dark = dark') ∧
      v.Restyled v' c c' := by
  obtain ⟨o, chart⟩ := v
  cases chart with
  | none => exact absurd rfl hdrawn
  | some c =>
    obtain ⟨ho, hne, ⟨t, ht, hg⟩, elements, hel, hof⟩ := compile_eq_some h rfl
    have ho : documentOptions text dark = .ok o := ho
    obtain ⟨o', ho'⟩ := Directive.foldlM_apply_accepted haccepted (Options.default dark')
    have ho' : documentOptions text' dark' = .ok o' := ho'
    have ht' : o'.chartType = some t :=
      Directive.chartType_of_lastType haccepted (htype t (Outcome.lastType_of_options ho ht)) ho'
    have hel' : Element.ofLines (bodyLines text') c.grammar o'.direction =
        .ok (elements.map (Element.turn o'.direction)) := by
      rw [hbody, Element.ofLines_turn _ _ o.direction, hel]
      rfl
    obtain ⟨c', hc'⟩ := exists_chart (ofLines_fresh hel')
    have hcompile : Diagram.compile text' dark' = .ok ⟨o', some c'⟩ := by
      rw [Outcome.compile_of_options ho' (hbody ▸ hne), ht']
      dsimp only
      rw [hg]
      dsimp only
      rw [hel']
      show (Chart.ofElements c.grammar o'.direction _ >>= _) = _
      rw [hc']
      rfl
    obtain ⟨hdark, hdirection⟩ := Directive.direction_of_foldlM ho
    obtain ⟨hdark', hdirection'⟩ := Directive.direction_of_foldlM ho'
    exact ⟨_, c, c', hcompile, rfl, rfl, ⟨hdirection, hdark⟩, ⟨hdirection', hdark'⟩,
      hof.restyled (ofElements_eq_ok_iff.mp hc') (ofLines_fresh hel)⟩

/-- A chart with a bar that grows downwards, and the same from left to right, in the other theme and to be
    generated. -/
theorem compile_restyled_fork :
    let text := "// {type:activity}\n(a)->|x|->(b)".toList
    let text' :=
      "// {type:activity}\n// {generate:true}\n// {direction:leftToRight}\n(a)->|x|->(b)".toList
    ∃ v v' c c', Diagram.compile text false = .ok v ∧ Diagram.compile text' true = .ok v' ∧
      v.options.direction = .topDown ∧ v'.options.direction = .leftToRight ∧ v.Restyled v' c c' := by
  intro text text'
  have hheader : headerOf text = [⟨"type".toList, ChartType.activity.name⟩] := by decide +kernel
  have hheader' : headerOf text' = [⟨"type".toList, ChartType.activity.name⟩,
      ⟨"generate".toList, "true".toList⟩, ⟨"direction".toList, "leftToRight".toList⟩] := by
    decide +kernel
  have hbody : bodyLines text' = bodyLines text := by decide +kernel
  have htype : ∀ t, Directive.LastType (headerOf text) t → Directive.LastType (headerOf text') t := by
    intro t ht
    rw [hheader] at ht
    obtain rfl := Directive.lastType_singleton_iff.mp ht
    rw [hheader']
    exact ⟨[], _, rfl, by decide⟩
  obtain ⟨o, ho, -⟩ := exists_of_okAnd (x := documentOptions text' true) (p := fun _ => true)
    (by decide +kernel)
  obtain ⟨v, c, hv, hc⟩ := exists_chart_of_okAnd (r := Diagram.compile text false)
    (by decide +kernel)
  have hdrawn : v.render ≠ [] := by
    rw [Diagram.render_eq_lines hc]
    exact List.append_ne_nil_of_right_ne_nil _ (List.cons_ne_nil _ _)
  obtain ⟨v', c, c', hv', -, -, ⟨hdirection, -⟩, ⟨hdirection', -⟩, hrestyled⟩ :=
    compile_restyled hv hdrawn hbody htype (Outcome.accepted_of_options ho) true
  rw [hheader] at hdirection
  rw [hheader'] at hdirection'
  exact ⟨v, v', c, c', hv, hv', hdirection.trans (by decide), hdirection'.trans (by decide), hrestyled⟩

end Yuml
