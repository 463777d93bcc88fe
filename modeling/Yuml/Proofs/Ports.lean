import Yuml.Proofs.Conservation
import Yuml.Proofs.Quoting

/-!
# Ports: where edges enter a bar

A bar is drawn as a record with one port for every edge that enters it. The number of a port is
given out while the edges are resolved; the ports of the record are written when all of them are.
`Diagram.PortsAgree` says that the two agree for every bar at once:

* the edges that end at a bar enter it at the ports 1, 2, …, in the order of their statements, and
  the bar declares just these (`bars`);
* an edge that ends at any other node enters it at no port, however it is written (`others`);
* a bar that does not own its node gives out no port (`mentions`).
-/

namespace Yuml

/-! ## 1. The label of a bar -/

/-- A port as the label of a bar declares it. -/
def portField (n : Nat) : Text := "<f".toList ++ Text.ofNat n ++ ['>']

theorem portLabel_eq (n : Nat) :
    portLabel n = Text.joinWith ['|'] ((List.range n).map fun k => portField (k + 1)) := rfl

theorem not_mem_portField {c : Char} (hc : c ∉ "<f>".toList) (hd : c.isDigit = false) (n : Nat) :
    c ∉ portField n := by
  intro h
  rcases List.mem_append.mp h with h | h
  · rcases List.mem_append.mp h with h | h
    · exact hc (List.mem_append_left ['>'] h)
    · exact Text.not_mem_ofNat hd n h
  · exact hc (List.mem_append_right ['<', 'f'] h)

theorem not_mem_portLabel {c : Char} (hc : c ∉ "|<f>".toList) (hd : c.isDigit = false) (n : Nat) :
    c ∉ portLabel n := by
  obtain ⟨hbar, hc⟩ := List.ne_and_not_mem_of_not_mem_cons hc
  intro h
  rcases Text.mem_joinWith h with h | ⟨p, hp, h⟩
  · exact hbar (List.mem_singleton.mp h)
  · obtain ⟨k, -, rfl⟩ := List.mem_map.mp hp
    exact not_mem_portField hc hd (k + 1) h

theorem portField_injective {m n : Nat} (h : portField m = portField n) : m = n :=
  Text.ofNat_injective (List.append_cancel_left (List.append_cancel_right h))

/-- The fields of the label of a bar. -/
theorem splitAt_portLabel (n : Nat) : Text.splitAt '|' (portLabel (n + 1 : Nat)) =
    (List.range (n + 1)).map fun k => portField (k + 1) := by
  have hne : ((List.range (n + 1)).map fun k => portField (k + 1)) ≠ [] := by simp
  rw [portLabel_eq]
  refine Text.splitAt_joinWith hne fun p hp => ?_
  obtain ⟨k, -, rfl⟩ := List.mem_map.mp hp
  exact not_mem_portField (by decide) (by decide) (k + 1)

/-- A port as a label would declare it; a bar whose count began below 0 gives out negative ones. -/
def portText (port : Int) : Text := "<f".toList ++ Text.ofInt port ++ ['>']

/-- **The label of a bar declares the ports from 1 to its fan-in**, and no others. -/
theorem portText_mem_iff {port fanin : Int} :
    portText port ∈ Text.splitAt '|' (portLabel fanin) ↔ 0 < port ∧ port ≤ fanin := by
  have hlabel : portLabel fanin = portLabel fanin.toNat := rfl
  rw [hlabel]
  rcases h : fanin.toNat with _ | n
  · have hempty : Text.splitAt '|' (portLabel (0 : Nat)) = [[]] := rfl
    rw [hempty]
    constructor
    · intro hport
      cases List.mem_singleton.mp hport
    · omega
  · rw [splitAt_portLabel, List.mem_map]
    constructor
    · rintro ⟨k, hk, hport⟩
      have hk := List.mem_range.mp hk
      cases port with
      | ofNat m =>
        have hm : k + 1 = m := portField_injective hport
        show 0 < (m : Int) ∧ (m : Int) ≤ fanin
        omega
      | negSucc m =>
        have hminus : '-' ∈ portText (.negSucc m) :=
          List.mem_append_left _ (List.mem_append_right _ List.mem_cons_self)
        exact absurd (hport ▸ hminus) (not_mem_portField (by decide) (by decide) (k + 1))
    · rintro ⟨hpos, hle⟩
      obtain ⟨m, rfl⟩ := Int.eq_ofNat_of_zero_le hpos.le
      have hm : m - 1 + 1 = m := by omega
      refine ⟨m - 1, List.mem_range.mpr (by omega), ?_⟩
      rw [hm]
      rfl

theorem isPortField_portField (n : Nat) : Attributes.isPortField (portField n) = true := by
  have hfield : portField n = '<' :: (('f' :: Text.ofNat n) ++ ['>']) := rfl
  have hinner : (('f' :: Text.ofNat n) ++ ['>']).dropLast = 'f' :: Text.ofNat n :=
    List.dropLast_concat
  have hall : ('f' :: Text.ofNat n).all (fun c => c != '<' && c != '>') = true := by
    refine List.all_eq_true.mpr fun c hc => ?_
    rcases List.mem_cons.mp hc with rfl | hc
    · decide
    · have h₁ : c ≠ '<' := fun e => Text.not_mem_ofNat (by decide) n (e ▸ hc)
      have h₂ : c ≠ '>' := fun e => Text.not_mem_ofNat (by decide) n (e ▸ hc)
      rw [bne_iff_ne.mpr h₁, bne_iff_ne.mpr h₂]
      rfl
  have hlast : (('f' :: Text.ofNat n) ++ ['>']).getLast? = some '>' := List.getLast?_concat
  rw [hfield, Attributes.isPortField, hinner, hall, hlast]
  simp

/-- The label of a bar is made of ports only if and only if some edge enters the bar. -/
theorem isPortLabel_portLabel (n : Nat) : Attributes.isPortLabel (portLabel n) = (n != 0) := by
  cases n with
  | zero => rfl
  | succ n =>
    have hnl : (portLabel (n + 1 : Nat)).getLast? ≠ some '\n' := fun h =>
      not_mem_portLabel (by decide) (by decide) (n + 1) (List.mem_of_getLast? h)
    rw [Attributes.isPortLabel, Text.beforeFinalNewline_eq_self hnl, splitAt_portLabel, List.all_map]
    refine List.all_eq_true.mpr fun k _ => isPortField_portField (k + 1)

/-- The shape in which a bar is written. -/
def barShape (n : Nat) : Shape := if n = 0 then .rectangle else .record

theorem render_barAttributes_eq (n : Nat) (d : Direction) :
    (barAttributes n d).render = { barAttributes n d with shape := barShape n }.plain := by
  cases n with
  | zero => rfl
  | succ n =>
    have hports : Attributes.isPortLabel (barAttributes (n + 1 : Nat) d).labelText = true :=
      isPortLabel_portLabel (n + 1)
    have hlone : (barAttributes (n + 1 : Nat) d).isLoneRecord = false := by
      rw [Attributes.isLoneRecord, hports]
      rfl
    rw [Attributes.render, hports, Attributes.settled, hlone]
    rfl

theorem plain_eq_append (a : Attributes) :
    ∃ rest, a.plain = '[' :: (Attributes.textItem "shape" a.shape.name ++
      (Attributes.textItem? "margin" a.margin ++
        (Attributes.textItem "label" a.labelText ++ rest))) := by
  apply Exists.intro
  rw [Attributes.plain, Attributes.items]
  simp only [List.append_assoc]
  rfl

theorem textItem_eq (name : String) {value : Text} (h : '"' ∉ value) :
    Attributes.textItem name value = name.toList ++ "=\"".toList ++ value ++ "\" , ".toList := by
  rw [Attributes.textItem, quoteValue_eq_self h]
  simp [Attributes.separator]

/-- **A bar as it is written**: a record with its ports, and without any a rectangle without a
    label. -/
theorem render_barAttributes (n : Nat) (d : Direction) :
    ∃ rest, (barAttributes n d).render =
      "[shape=\"".toList ++ (barShape n).name ++
        "\" , margin=\"0,0\" , label=\"".toList ++ portLabel n ++ "\" , ".toList ++ rest := by
  have hshape : '"' ∉ (barShape n).name := by
    unfold barShape
    split <;> decide
  have hlabel : '"' ∉ portLabel n := not_mem_portLabel (by decide) (by decide) n
  obtain ⟨rest, h⟩ := plain_eq_append { barAttributes n d with shape := barShape n }
  refine ⟨rest, ?_⟩
  rw [render_barAttributes_eq, h]
  show '[' :: (Attributes.textItem "shape" (barShape n).name ++
    ("margin=\"0,0\" , ".toList ++ (Attributes.textItem "label" (portLabel n) ++ rest))) = _
  rw [textItem_eq "shape" hshape, textItem_eq "label" hlabel]
  simp

/-! ## 2. Where edges end -/

/-- The edges that end at a node. -/
def Diagram.into (d : Diagram) (name : Text) : List Statement :=
  d.edges.filter fun s => s.target.any fun target => namedBy target == name

theorem Element.Fresh.entryDirection_eq {g : Grammar} {d : Direction} {e : Element}
    (h : e.Fresh g d) : e.entryDirection d = d := by
  cases h <;> rfl

section Into

variable {g : Grammar} {o : Options} {elements : List Element} {c : Chart}

/-- Every edge is written with the node and the port of its relation. -/
theorem Chart.Of.forall₂_edges (h : Chart.Of g o.direction elements c)
    (hfresh : ∀ e ∈ elements, e.Fresh g o.direction) :
    List.Forall₂ (fun (e : Placed × Relation) (s : Statement) => ∃ n : Nat,
        e.2.target = n ∧ s.target = some (portTarget (nodeName n) o.direction e.2.port))
      c.resolution.edges (Diagram.edges ⟨o, some c⟩) := by
  obtain ⟨-, -, hes⟩ := h.nodes_edges
  have hmem : ∀ e ∈ c.resolution.edges,
      ∃ n : Nat, e.2.target = n ∧ e.1.element.Fresh g o.direction := by
    intro e he
    obtain ⟨j, -, l, hj, rfl⟩ := h.join_of_mem he
    exact ⟨j.target.id, rfl, h.fresh hfresh _ hj.edge_mem⟩
  refine ((List.forall₂_and_left _ _).mpr ⟨hmem, hes⟩).imp fun e s hs => ?_
  obtain ⟨⟨n, hn, hf⟩, hs⟩ := hs
  obtain ⟨a, -, rfl⟩ := ofEdge_eq_ok hs
  refine ⟨n, hn, congrArg some ?_⟩
  rw [target_eq_portTarget e.1.element hn, hf.entryDirection_eq]

/-- The edges into a node are those whose relation ends there. -/
theorem Chart.Of.forall₂_into (h : Chart.Of g o.direction elements c)
    (hfresh : ∀ e ∈ elements, e.Fresh g o.direction) (id : Nat) :
    List.Forall₂ (fun e s => s.target = some (portTarget (nodeName id) o.direction e.2.port))
      (c.resolution.edges.filter (endsAt id)) (Diagram.into ⟨o, some c⟩ (nodeName id)) := by
  have hinto := forall₂_filter (h.forall₂_edges hfresh) (p := endsAt id)
    (q := fun s => s.target.any fun target => namedBy target == nodeName id) fun e s hs => by
      obtain ⟨n, hn, hs⟩ := hs
      rw [hs, endsAt, hn, Option.any_some, namedBy_portTarget, Bool.eq_iff_iff, beq_iff_eq,
        beq_iff_eq]
      exact ⟨fun e => by rw [e], fun e => congrArg Nat.cast (nodeName_injective e)⟩
  have hid : ∀ e ∈ c.resolution.edges.filter (endsAt id), e.2.target = (id : Int) :=
    fun e he => eq_of_beq (List.mem_filter.mp he).2
  refine ((List.forall₂_and_left _ _).mpr ⟨hid, hinto⟩).imp fun e s hs => ?_
  obtain ⟨hid, n, hn, hs⟩ := hs
  rw [hs, Int.ofNat.inj (hn.symm.trans hid)]

/-! ## 3. Bars -/

/-- How many joins of a chart enter the bar at a place. -/
def Chart.fanin (c : Chart) (place : Nat) : Nat :=
  (joins c.table (ring c.elements)).countP (Join.enters place)

/-- A bar as it stands when all edges are resolved. -/
theorem Chart.Of.current_bar (h : Chart.Of g o.direction elements c) {p : Placed} {label : Text}
    (hp : p.element = .node (.bar label 0)) :
    c.resolution.ledger.current p = .node (.bar label (c.fanin p.place)) := by
  have hports : c.resolution.ledger.portsAt p.place = c.fanin p.place := by
    rw [h.resolution, resolve_eq]
    dsimp only
    rw [portsAt_after]
    exact Nat.zero_add _
  rw [Ledger.current_bar _ hp, hports, Int.zero_add]

theorem Chart.Of.target_eq_of_enters (h : Chart.Of g o.direction elements c) {i : Identity}
    (hi : i ∈ c.table) {j : Join} (hj : j ∈ joins c.table (ring c.elements))
    (he : j.enters i.owner.place = true) : j.target = i :=
  h.eq_of_place (of_mem_joins hj).target_mem hi (eq_of_beq (Bool.and_eq_true_iff.mp he).2)

/-- The ports of the edges that end at the node of a bar. -/
theorem Chart.Of.ports_into (h : Chart.Of g o.direction elements c) {i : Identity}
    (hi : i ∈ c.table) {label : Text} (hbar : i.owner.element = .node (.bar label 0)) :
    (c.resolution.edges.filter (endsAt i.id)).map (·.2.port) =
      (List.range (c.fanin i.owner.place)).map fun n : Nat => some ((n + 1 : Nat) : Int) := by
  have hends : ∀ j ∈ joins c.table (ring c.elements), ∀ l,
      endsAt i.id (j.edge, j.relation l) = j.enters i.owner.place := by
    intro j hj l
    have hisBar : i.owner.isBar = true := by rw [Placed.isBar, hbar]; rfl
    rw [Bool.eq_iff_iff]
    constructor
    · intro hid
      have hji : j.target = i :=
        h.claims.eq_of_id (of_mem_joins hj).target_mem hi (Int.ofNat.inj (eq_of_beq hid))
      rw [Join.enters, hji, hisBar]
      exact beq_self_eq_true _
    · intro he
      rw [endsAt, ← h.target_eq_of_enters hi hj he]
      exact beq_self_eq_true _
  have hports := ports_drawn hbar Ledger.empty _ hends fun j hj he =>
    congrArg Identity.owner (h.target_eq_of_enters hi hj he)
  have hedges : c.resolution.edges = drawn Ledger.empty (joins c.table (ring c.elements)) := by
    rw [h.resolution, resolve_eq]
  rw [hedges, hports]
  refine List.map_congr_left fun n _ => ?_
  have h₀ : Ledger.empty.portsAt i.owner.place = 0 := rfl
  rw [h₀]
  congr 1
  omega

/-- An edge into a node that no bar owns has no port. -/
theorem Chart.Of.port_of_not_isBar (h : Chart.Of g o.direction elements c) {i : Identity}
    (hi : i ∈ c.table) (hbar : i.owner.isBar = false) :
    ∀ e ∈ c.resolution.edges.filter (endsAt i.id), e.2.port = none := by
  intro e he
  obtain ⟨he, hid⟩ := List.mem_filter.mp he
  obtain ⟨j, -, l, hj, rfl⟩ := h.join_of_mem he
  have hj : j.target = i := h.claims.eq_of_id hj.target_mem hi (Int.ofNat.inj (eq_of_beq hid))
  show l.nextPort j.target.owner = none
  rw [hj, nextPort_of_not_isBar l hbar]

end Into

/-! ## 4. The ports of a document -/

/-- A bar as it is drawn when `n` edges enter it: a record that declares `n` ports, and where there
    are none a rectangle with an empty label. -/
structure Statement.DrawsBar (s : Statement) (name : Text) (n : Nat) : Prop where
  label : s.attributes.label =
    some (Text.joinWith ['|'] ((List.range n).map fun k => portField (k + 1)))
  written : ∃ rest, s.render = "    ".toList ++ name ++ " [shape=\"".toList ++ (barShape n).name ++
    "\" , margin=\"0,0\" , label=\"".toList ++
      Text.joinWith ['|'] ((List.range n).map fun k => portField (k + 1)) ++ "\" , ".toList ++ rest

/-- How many edges end at the node at a position. -/
def Diagram.fanin (d : Diagram) (k : Nat) : Nat := (d.into (nodeName (k + 1 : Nat))).length

/-- The ports that edges enter are the ports that bars declare. -/
structure Diagram.PortsAgree (d : Diagram) (c : Chart) : Prop where
  /-- The edges into a bar enter its ports in order, and it declares these. -/
  bars : ∀ k owner, c.owner? k = some owner → owner.isBar = true →
    (d.into (nodeName (k + 1 : Nat))).map (·.target) =
        ((List.range (d.fanin k)).map fun n => some (nodeName (k + 1 : Nat) ++ ":f".toList ++
          Text.ofNat (n + 1) ++ ':' :: d.options.direction.headPort)) ∧
      ∃ s, d.nodes[k]? = some s ∧ s.DrawsBar (nodeName (k + 1 : Nat)) (d.fanin k)
  /-- An edge into any other node enters it at no port. -/
  others : ∀ k owner, c.owner? k = some owner → owner.isBar = false →
    ∀ s ∈ d.into (nodeName (k + 1 : Nat)), s.target = some (nodeName (k + 1 : Nat))
  /-- A bar that owns no node is left by the edges as it was read. -/
  mentions : ∀ p ∈ c.elements, p.isBar = true → (∀ k, c.owner? k ≠ some p) →
    ∃ label, p.element = .node (.bar label 0) ∧
      c.resolution.ledger.current p = .node (.bar label 0)

theorem Element.Fresh.eq_bar {g : Grammar} {d : Direction} {p : Placed} (h : p.element.Fresh g d)
    (hp : p.isBar = true) : g = .activity ∧ ∃ label, p.element = .node (.bar label 0) := by
  obtain ⟨place, e⟩ := p
  cases h with
  | bar _ label => exact ⟨rfl, label, rfl⟩
  | _ => cases hp

section Agree

variable {g : Grammar} {o : Options} {elements : List Element} {c : Chart}

/-- A place that no owner of a node stands at is entered by no join. -/
theorem Chart.Of.fanin_eq_zero (h : Chart.Of g o.direction elements c) {p : Placed}
    (hp : p ∈ c.elements) (hown : ∀ k, c.owner? k ≠ some p) : c.fanin p.place = 0 := by
  refine List.countP_eq_zero.mpr fun j hj he => ?_
  have htarget := (of_mem_joins hj).target_mem
  obtain ⟨k, hk⟩ := List.mem_iff_getElem?.mp htarget
  have howner := (h.owner_mem htarget).1
  rw [h.row] at hp howner
  have hplace : j.target.owner = p :=
    Yuml.eq_of_place howner hp (eq_of_beq (Bool.and_eq_true_iff.mp he).2)
  exact hown k (hplace ▸ h.owner?_of_getElem? hk)

theorem Chart.Of.length_into (h : Chart.Of g o.direction elements c)
    (hfresh : ∀ e ∈ elements, e.Fresh g o.direction) {i : Identity} (hi : i ∈ c.table)
    {label : Text} (hbar : i.owner.element = .node (.bar label 0)) :
    (Diagram.into ⟨o, some c⟩ (nodeName i.id)).length = c.fanin i.owner.place := by
  have hports := congrArg List.length (h.ports_into hi hbar)
  rw [List.length_map, List.length_map, List.length_range] at hports
  rw [← (h.forall₂_into hfresh i.id).length_eq, hports]

/-- The edges into a bar enter its ports in order. -/
theorem Chart.Of.targets_into (h : Chart.Of g o.direction elements c)
    (hfresh : ∀ e ∈ elements, e.Fresh g o.direction) {i : Identity} (hi : i ∈ c.table)
    {label : Text} (hbar : i.owner.element = .node (.bar label 0)) :
    (Diagram.into ⟨o, some c⟩ (nodeName i.id)).map (·.target) =
      (List.range (c.fanin i.owner.place)).map fun n : Nat =>
        some (portTarget (nodeName i.id) o.direction (some ((n + 1 : Nat) : Int))) := by
  have htargets := map_eq_map_of_forall₂ (h.forall₂_into hfresh i.id)
    (f := fun e => some (portTarget (nodeName i.id) o.direction e.2.port))
    (g := fun s => s.target) fun e s hs => hs.symm
  have hports := congrArg
    (List.map fun port => some (portTarget (nodeName i.id) o.direction port))
    (h.ports_into hi hbar)
  rw [List.map_map, List.map_map] at hports
  rw [← htargets]
  exact hports

/-- A bar is drawn with the ports of the edges that enter it. -/
theorem Chart.Of.drawsBar (h : Chart.Of .activity o.direction elements c) {k : Nat} {i : Identity}
    (hk : c.table[k]? = some i) {label : Text} (hbar : i.owner.element = .node (.bar label 0)) :
    ∃ s, (Diagram.nodes ⟨o, some c⟩)[k]? = some s ∧
      s.DrawsBar (nodeName i.id) (c.fanin i.owner.place) := by
  obtain ⟨-, hns, -⟩ := h.nodes_edges
  obtain ⟨s, hs, hsi⟩ := exists_getElem?_of_forall₂ hns hk
  obtain ⟨a, ha, rfl⟩ := ofIdentity_eq_ok hsi
  rw [h.current_bar hbar] at ha
  obtain rfl : barAttributes (c.fanin i.owner.place) o.direction = a := Except.ok.inj ha
  obtain ⟨rest, hrest⟩ := render_barAttributes (c.fanin i.owner.place) o.direction
  have huid : i.uid = nodeName i.id := rfl
  refine ⟨_, hs, congrArg some (portLabel_eq _), rest, ?_⟩
  rw [Statement.render, hrest, ← portLabel_eq, huid]
  simp

/-- An edge into a node that no bar owns enters it at no port. -/
theorem Chart.Of.target_of_not_isBar (h : Chart.Of g o.direction elements c)
    (hfresh : ∀ e ∈ elements, e.Fresh g o.direction) {i : Identity} (hi : i ∈ c.table)
    (hbar : i.owner.isBar = false) :
    ∀ s ∈ Diagram.into ⟨o, some c⟩ (nodeName i.id), s.target = some (nodeName i.id) := by
  refine forall_of_forall₂ (h.forall₂_into hfresh i.id) fun e he s hs => ?_
  rw [hs, h.port_of_not_isBar hi hbar e he]
  rfl

end Agree

/-- **Ports that edges enter and ports that bars declare agree**, in every document that draws a
    chart. -/
theorem compile_portsAgree {text : Text} {dark : Bool} {d : Diagram} {c : Chart}
    (h : Diagram.compile text dark = .ok d) (hc : d.chart = some c) : d.PortsAgree c := by
  obtain ⟨-, -, -, elements, hel, hof⟩ := compile_eq_some h hc
  obtain ⟨o, chart⟩ := d
  obtain rfl : chart = some c := hc
  have hfresh := ofLines_fresh hel
  have hrow : ∀ p ∈ c.elements, p.element.Fresh c.grammar o.direction := by
    rw [hof.row]
    exact fun p hp => hfresh _ (element_mem_of_mem_row hp)
  refine ⟨?_, ?_, ?_⟩
  · intro k owner hk hbar
    obtain ⟨i, hi, hid, rfl⟩ := hof.identity_of_owner? hk
    have hmem := List.mem_of_getElem? hi
    obtain ⟨hg, label, hlabel⟩ := (hrow _ (hof.owner_mem hmem).1).eq_bar hbar
    have hfanin : Diagram.fanin ⟨o, some c⟩ k = c.fanin i.owner.place := by
      rw [Diagram.fanin, ← hid]
      exact hof.length_into hfresh hmem hlabel
    rw [hfanin, ← hid]
    rw [hg] at hof
    exact ⟨hof.targets_into (hg ▸ hfresh) hmem hlabel, hof.drawsBar hi hlabel⟩
  · intro k owner hk hbar
    obtain ⟨i, hi, hid, rfl⟩ := hof.identity_of_owner? hk
    rw [← hid]
    exact hof.target_of_not_isBar hfresh (List.mem_of_getElem? hi) hbar
  · intro p hp hbar hown
    obtain ⟨-, label, hlabel⟩ := (hrow p hp).eq_bar hbar
    refine ⟨label, hlabel, ?_⟩
    rw [hof.current_bar hlabel, hof.fanin_eq_zero hp hown]
    rfl

/-- A bar that two edges enter, one of them beside a later mention, a bar that none enters and one
    whose label another element has. -/
theorem compile_portsAgree_fork :
    ∃ d c, Diagram.compile
        "// {type:activity}\n(a)->|x|,(b)->|x|->(c),|y|->(c)->|c|".toList false = .ok d ∧
      d.chart = some c ∧ d.PortsAgree c := by
  obtain ⟨d, c, hd, hc⟩ := exists_chart_of_okAnd
    (r := Diagram.compile "// {type:activity}\n(a)->|x|,(b)->|x|->(c),|y|->(c)->|c|".toList false)
    (by decide +kernel)
  exact ⟨d, c, hd, hc, compile_portsAgree hd hc⟩

end Yuml
