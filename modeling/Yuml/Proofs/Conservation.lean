import Mathlib
import Yuml.Proofs.Body
import Yuml.Proofs.Chart
import Yuml.Proofs.Naming

/-!
# Conservation: what is drawn accounts for what is read

Every element of a document that draws a chart ends in one place: it owns a node, it is a later
mention of one, it is drawn as an edge, or it is an edge that is dropped. `Diagram.Accounts` states
this together with what makes the drawing a closed graph: the nodes are `A1`, `A2`, … in the order
in which their keys first occur, and both ends of every edge are among them.

The counts meet at four places, and each has its own law: the lines (`sum_lineEvents`), the table
(`length_reuseEvents`), the ring (`resolve_conserves`) and the statements (`Chart.Of.nodes_edges`).
-/

namespace Yuml

/-! ## 1. Counting reports -/

namespace Event

/-- How many elements an event says that a line has been read into. -/
def parsed : Event → Nat
  | .lineParsed _ n => n
  | _ => 0

/-- Whether an event reports a later mention of a node. -/
def isReuse : Event → Bool
  | .labelReused _ => true
  | _ => false

/-- Whether an event counts neither as a line nor as a later mention. -/
def Idle (e : Event) : Prop := e.parsed = 0 ∧ e.isReuse = false

theorem sum_parsed_of_idle {es : List Event} (h : ∀ e ∈ es, e.Idle) :
    (es.map parsed).sum = 0 := by
  refine List.sum_eq_zero_iff_forall_eq_nat.mpr fun n hn => ?_
  obtain ⟨e, he, rfl⟩ := List.mem_map.mp hn
  exact (h e he).1

theorem countP_isReuse_of_idle {es : List Event} (h : ∀ e ∈ es, e.Idle) :
    es.countP isReuse = 0 := by
  refine List.countP_eq_zero.mpr fun e he => ?_
  rw [(h e he).2]
  exact Bool.false_ne_true

end Event

theorem Directive.idle_eventsOf {ds : List Directive} {o : Options} :
    ∀ e ∈ Directive.eventsOf ds o, e.Idle := by
  induction ds generalizing o with
  | nil => exact fun _ h => absurd h List.not_mem_nil
  | cons d ds ih =>
    intro e he
    rw [Directive.eventsOf] at he
    cases ha : d.apply o with
    | error f =>
      rw [ha] at he
      exact absurd he List.not_mem_nil
    | ok o' =>
      rw [ha] at he
      rcases List.mem_append.mp he with he | he
      · unfold Directive.events at he
        split at he
        · exact absurd he List.not_mem_nil
        · obtain rfl := List.mem_singleton.mp he
          exact ⟨rfl, rfl⟩
      · exact ih e he

theorem idle_dropEvents (t : IdentityTable) (qs : List (Placed × Placed × Placed)) (first : Nat) :
    ∀ e ∈ dropEvents t qs first, e.Idle := by
  intro e he
  obtain ⟨q, -, hq⟩ := List.mem_filterMap.mp he
  obtain ⟨reason, -, rfl⟩ := Option.map_eq_some_iff.mp hq
  exact ⟨rfl, rfl⟩

/-- **The lines count the elements that they are read into.** -/
theorem sum_lineEvents {g : Grammar} {d : Direction} {lines : List Text} {elements : List Element}
    (h : Element.ofLines lines g d = .ok elements) :
    ((Element.lineEvents g d lines).map Event.parsed).sum = elements.length := by
  induction lines generalizing elements with
  | nil =>
    cases h
    rfl
  | cons line lines ih =>
    rw [ofLines_cons] at h
    obtain ⟨es, hes, h⟩ := bind_eq_ok_iff.mp h
    obtain ⟨fs, hfs, h⟩ := bind_eq_ok_iff.mp h
    cases h
    rw [Element.lineEvents, hes, List.length_append, ← ih hfs]
    rfl

theorem countP_isReuse_lineEvents (g : Grammar) (d : Direction) (lines : List Text) :
    (Element.lineEvents g d lines).countP Event.isReuse = 0 := by
  induction lines with
  | nil => rfl
  | cons line lines ih =>
    rw [Element.lineEvents]
    cases Element.ofLine line g d with
    | error e => rfl
    | ok es => exact ih

theorem sum_reuseEvents (t : IdentityTable) (ps : List Placed) :
    ((IdentityTable.reuseEvents t ps).map Event.parsed).sum = 0 := by
  induction ps generalizing t with
  | nil => rfl
  | cons p ps ih =>
    rw [IdentityTable.reuseEvents, List.map_append, List.sum_append, ih]
    split <;> rfl

theorem countP_isReuse_reuseEvents (t : IdentityTable) (ps : List Placed) :
    (IdentityTable.reuseEvents t ps).countP Event.isReuse =
      (IdentityTable.reuseEvents t ps).length := by
  induction ps generalizing t with
  | nil => rfl
  | cons p ps ih =>
    rw [IdentityTable.reuseEvents, List.countP_append, List.length_append, ih]
    split <;> rfl

/-! ## 2. Nodes -/

/-- The nodes among the elements of a chart. -/
def Chart.nodeElements (c : Chart) : List Placed := c.elements.filter fun p => !p.isEdge

/-- The distinct keys of the nodes, in the order in which they first occur. -/
def Chart.keys (c : Chart) : List Text := (c.nodeElements.map Placed.key).eraseDups

/-- The first node that has the key at a position: it owns the node of the drawing. -/
def Chart.owner? (c : Chart) (k : Nat) : Option Placed :=
  c.keys[k]?.bind fun key => c.nodeElements.find? fun p => p.key == key

section Nodes

variable {g : Grammar} {d : Direction} {elements : List Element} {c : Chart}

theorem Chart.Of.map_key (h : Chart.Of g d elements c) : c.table.map (·.key) = c.keys :=
  h.claims.keys

theorem Chart.Of.length_table (h : Chart.Of g d elements c) : c.table.length = c.keys.length := by
  rw [← h.map_key, List.length_map]

theorem Chart.Of.map_uid (h : Chart.Of g d elements c) :
    c.table.map Identity.uid = (List.range c.keys.length).map fun k => nodeName (k + 1 : Nat) := by
  have e : c.table.map Identity.uid = (c.table.map (·.id)).map fun id : Nat => nodeName id := by
    rw [List.map_map]
    rfl
  rw [e, h.claims.ids, h.length_table, List.map_map]
  rfl

/-- The identity at a position belongs to the owner of the key there. -/
theorem Chart.Of.owner?_of_getElem? (h : Chart.Of g d elements c) {k : Nat} {i : Identity}
    (hi : c.table[k]? = some i) : c.owner? k = some i.owner := by
  have hk : c.keys[k]? = some i.key := by
    rw [← h.map_key, List.getElem?_map, hi]
    rfl
  rw [Chart.owner?, hk]
  exact h.claims.owner i (List.mem_of_getElem? hi)

/-- A position that has an owner has an identity, with the number behind the position. -/
theorem Chart.Of.identity_of_owner? (h : Chart.Of g d elements c) {k : Nat} {owner : Placed}
    (hk : c.owner? k = some owner) :
    ∃ i, c.table[k]? = some i ∧ i.id = k + 1 ∧ i.owner = owner := by
  obtain ⟨key, hkey, -⟩ := Option.bind_eq_some_iff.mp hk
  rw [← h.map_key, List.getElem?_map] at hkey
  obtain ⟨i, hi, -⟩ := Option.map_eq_some_iff.mp hkey
  have ho := h.owner?_of_getElem? hi
  exact ⟨i, hi, h.claims.id_of_getElem? hi, Option.some.inj (ho.symm.trans hk)⟩

end Nodes

/-! ## 3. The account of a document -/

/-- What is drawn of a document, set against what is read of it. -/
structure Diagram.Accounts (text : Text) (dark : Bool) (d : Diagram) (c : Chart) : Prop where
  /-- The elements of the chart are those of the body, each at its place. -/
  elements : ∃ elements,
    Element.ofLines (bodyLines text) c.grammar d.options.direction = .ok elements ∧
      c.elements = Placed.row 0 elements
  /-- The statements are those of the nodes and then those of the edges. -/
  statements : d.statements = d.nodes ++ d.edges
  /-- The nodes are numbered from 1, one for every distinct key. -/
  names : d.nodes.map (·.uid) = (List.range c.keys.length).map fun k => nodeName (k + 1 : Nat)
  /-- A node is drawn as the first element that has its key. -/
  owners : ∀ k < c.keys.length, ∃ owner attributes, c.owner? k = some owner ∧
      (c.resolution.ledger.current owner).nodeAttributes c.grammar d.options.direction =
        .ok attributes ∧
      d.nodes[k]? = some (Statement.mk (nodeName (k + 1 : Nat)) attributes none false)
  /-- Both ends of an edge are among the nodes. -/
  closed : ∀ s ∈ d.edges, s.uid ∈ d.nodes.map (·.uid) ∧
    ∃ target, s.target = some target ∧ namedBy target ∈ d.nodes.map (·.uid)
  /-- Every element owns a node, mentions one again, is drawn as an edge or is dropped. -/
  once : c.elements.length = c.keys.length +
    (Diagram.compileEvents text dark).countP Event.isReuse + d.edges.length + d.dropped
  /-- The lines report all elements. -/
  lines : c.elements.length = ((Diagram.compileEvents text dark).map Event.parsed).sum

theorem compileEvents_eq {text : Text} {dark : Bool} {o : Options} {c : Chart}
    {elements : List Element} (ho : documentOptions text dark = .ok o) (hbody : bodyLines text ≠ [])
    (htype : ∃ type, o.chartType = some type ∧ type.grammar? = some c.grammar)
    (hel : Element.ofLines (bodyLines text) c.grammar o.direction = .ok elements)
    (hc : Chart.Of c.grammar o.direction elements c) :
    Diagram.compileEvents text dark =
      Directive.eventsOf (Directive.ofLines (documentLines text)) (Options.default dark) ++
        (Element.lineEvents c.grammar o.direction (bodyLines text) ++ c.events) := by
  obtain ⟨type, htype, hg⟩ := htype
  have hempty : ¬ (bodyLines text).isEmpty = true := fun e => hbody (List.isEmpty_iff.mp e)
  have hchart : (Element.ofLines (bodyLines text) c.grammar o.direction).bind
      (Chart.ofElements c.grammar o.direction) = .ok c := by
    rw [hel]
    exact ofElements_eq_ok_iff.mpr hc
  rw [Diagram.compileEvents, ho]
  dsimp only
  rw [Diagram.bodyEvents, if_neg hempty, htype]
  dsimp only
  rw [hg]
  dsimp only
  rw [hchart]

section Account

variable {g : Grammar} {d : Direction} {elements : List Element} {c : Chart}

theorem Chart.Of.events_eq (h : Chart.Of g d elements c) :
    c.events = IdentityTable.reuseEvents [] c.nodeElements ++
      (dropEvents c.table (ring c.elements) 0 ++
        [.documentCompiled c.grammar c.elements.length c.table.length c.resolution.edges.length
          c.resolution.dropped]) := by
  rw [Chart.events, List.append_assoc]
  congr 2
  rw [h.resolution, resolve_eq]

theorem Chart.idle (c : Chart) :
    ∀ e ∈ dropEvents c.table (ring c.elements) 0 ++
      [.documentCompiled c.grammar c.elements.length c.table.length c.resolution.edges.length
        c.resolution.dropped], e.Idle := by
  refine List.forall_mem_append.mpr ⟨idle_dropEvents _ _ _, ?_⟩
  exact List.forall_mem_singleton.mpr ⟨rfl, rfl⟩

/-- **Every element of a chart is accounted for once.** -/
theorem Chart.Of.conserves (h : Chart.Of g d elements c) :
    c.elements.length = c.keys.length + (IdentityTable.reuseEvents [] c.nodeElements).length +
      c.resolution.edges.length + c.resolution.dropped := by
  have hnodes : c.keys.length + (IdentityTable.reuseEvents [] c.nodeElements).length =
      c.nodeElements.length := by
    have ht : c.nodeElements.foldl IdentityTable.claim [] = c.table := h.table.symm
    have hr := IdentityTable.length_reuseEvents [] c.nodeElements
    rw [ht, h.length_table, List.length_nil, Nat.zero_add] at hr
    exact hr
  have hedges : c.resolution.edges.length + c.resolution.dropped =
      c.elements.countP (·.isEdge) := by
    rw [h.resolution]
    exact resolve_conserves _ _ _
  have hall : c.elements.length = c.elements.countP (·.isEdge) + c.nodeElements.length := by
    rw [Chart.nodeElements, ← List.countP_eq_length_filter,
      List.length_eq_countP_add_countP (·.isEdge)]
    congr 1
    exact List.countP_congr fun p _ => by simp
  omega

theorem Chart.Of.countP_isReuse (h : Chart.Of g d elements c) :
    c.events.countP Event.isReuse = (IdentityTable.reuseEvents [] c.nodeElements).length := by
  rw [h.events_eq, List.countP_append, countP_isReuse_reuseEvents,
    Event.countP_isReuse_of_idle c.idle, Nat.add_zero]

theorem Chart.Of.sum_parsed (h : Chart.Of g d elements c) :
    (c.events.map Event.parsed).sum = 0 := by
  rw [h.events_eq, List.map_append, List.sum_append, sum_reuseEvents,
    Event.sum_parsed_of_idle c.idle]

end Account

/-! ## 4. The drawing of a chart -/

section Drawn

variable {o : Options} {elements : List Element} {c : Chart}

theorem Chart.Of.map_nodes_uid (h : Chart.Of c.grammar o.direction elements c) :
    (Diagram.nodes ⟨o, some c⟩).map (·.uid) = c.table.map Identity.uid := by
  obtain ⟨-, hns, -⟩ := h.nodes_edges
  refine (map_eq_map_of_forall₂ hns fun i s hs => ?_).symm
  obtain ⟨a, -, rfl⟩ := ofIdentity_eq_ok hs
  rfl

/-- The node at a position is drawn as the owner of the key there. -/
theorem Chart.Of.exists_owner (h : Chart.Of c.grammar o.direction elements c) {k : Nat}
    (hk : k < c.keys.length) : ∃ owner attributes, c.owner? k = some owner ∧
      (c.resolution.ledger.current owner).nodeAttributes c.grammar o.direction = .ok attributes ∧
      (Diagram.nodes ⟨o, some c⟩)[k]? =
        some (Statement.mk (nodeName (k + 1 : Nat)) attributes none false) := by
  obtain ⟨-, hns, -⟩ := h.nodes_edges
  rw [← h.length_table] at hk
  have hi : c.table[k]? = some c.table[k] := List.getElem?_eq_getElem hk
  have huid : c.table[k].uid = nodeName (k + 1 : Nat) := by
    rw [← h.claims.id_of_getElem? hi]
    rfl
  obtain ⟨s, hs, hsi⟩ := exists_getElem?_of_forall₂ hns hi
  obtain ⟨a, ha, rfl⟩ := ofIdentity_eq_ok hsi
  rw [huid] at hs
  exact ⟨_, a, h.owner?_of_getElem? hi, ha, hs⟩

/-- Both ends of an edge are nodes of the drawing. -/
theorem Chart.Of.closed (h : Chart.Of c.grammar o.direction elements c) :
    ∀ s ∈ Diagram.edges ⟨o, some c⟩, s.uid ∈ (Diagram.nodes ⟨o, some c⟩).map (·.uid) ∧
      ∃ target, s.target = some target ∧
        namedBy target ∈ (Diagram.nodes ⟨o, some c⟩).map (·.uid) := by
  obtain ⟨-, -, hes⟩ := h.nodes_edges
  refine forall_of_forall₂ hes fun e he s hs => ?_
  obtain ⟨j, -, l, hj, rfl⟩ := h.join_of_mem he
  obtain ⟨a, -, rfl⟩ := ofEdge_eq_ok hs
  have hsource : j.source.uid ∈ c.table.map Identity.uid := List.mem_map_of_mem hj.source_mem
  have htarget : j.target.uid ∈ c.table.map Identity.uid := List.mem_map_of_mem hj.target_mem
  rw [h.map_nodes_uid]
  refine ⟨hsource, _, rfl, ?_⟩
  rw [target_eq_portTarget (n := j.target.id) _ rfl, namedBy_portTarget]
  exact htarget

end Drawn

/-- **What is drawn of a document accounts for what is read of it.** -/
theorem compile_accounts {text : Text} {dark : Bool} {d : Diagram} {c : Chart}
    (h : Diagram.compile text dark = .ok d) (hc : d.chart = some c) :
    Diagram.Accounts text dark d c := by
  obtain ⟨ho, hbody, htype, elements, hel, hof⟩ := compile_eq_some h hc
  have hevents := compileEvents_eq ho hbody htype hel hof
  obtain ⟨o, chart⟩ := d
  obtain rfl : chart = some c := hc
  obtain ⟨hstatements, -, hes⟩ := hof.nodes_edges
  refine ⟨⟨elements, hel, hof.row⟩, hstatements, hof.map_nodes_uid.trans hof.map_uid,
    fun k hk => hof.exists_owner hk, hof.closed, ?_, ?_⟩
  · have hreuse : (Diagram.compileEvents text dark).countP Event.isReuse =
        (IdentityTable.reuseEvents [] c.nodeElements).length := by
      rw [hevents, List.countP_append, List.countP_append,
        Event.countP_isReuse_of_idle Directive.idle_eventsOf, countP_isReuse_lineEvents,
        hof.countP_isReuse]
      omega
    rw [hreuse, ← hes.length_eq]
    exact hof.conserves
  · have hrow : c.elements.length = elements.length := by
      rw [hof.row, ← List.length_map, map_element_row]
    rw [hevents, List.map_append, List.map_append, List.sum_append, List.sum_append,
      Event.sum_parsed_of_idle Directive.idle_eventsOf, sum_lineEvents hel, hof.sum_parsed, hrow]
    omega

/-- Two mentions of one node, an edge at either end of a line and two edges side by side. -/
theorem compile_accounts_mentions :
    ∃ d c, Diagram.compile "// {type:activity}\n(a)->(b)->\n(a),(c)->->(b)".toList false = .ok d ∧
      d.chart = some c ∧
      Diagram.Accounts "// {type:activity}\n(a)->(b)->\n(a),(c)->->(b)".toList false d c := by
  obtain ⟨d, c, hd, hc⟩ := exists_chart_of_okAnd
    (r := Diagram.compile "// {type:activity}\n(a)->(b)->\n(a),(c)->->(b)".toList false)
    (by decide +kernel)
  exact ⟨d, c, hd, hc, compile_accounts hd hc⟩

end Yuml
