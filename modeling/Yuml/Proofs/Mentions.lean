import Mathlib
import Yuml.Proofs.Chart

/-!
# Mentions: what a later node with a known key can change

The first node with a key owns it; a later one only mentions it. Two lists of elements that differ in
their mentions only (`Restates`) make the same chart: the same table, the same resolution, the same
statements. A mention may have other fields, other colours or be another kind of node; all that counts
is its key and whether it is a note.

There are two reasons, one for each stage that reads the mentions:

* a claim of a key that is already there leaves the table as it is (`Restates.ofElements_eq`);
* the resolution sees of an element no more than its OUTLINE (`resolve_outline`), and two mentions of one
  node have one outline (`Restates.map_outline`).

Statements are made of the table and the resolution alone.
-/

namespace Yuml

/-! ## 1. Outlines -/

theorem Label.not_mem_key (label : Text) : '|' ∉ Label.key label := by
  intro h
  have hmem : '|' ∈ label.takeWhile (· != '|') :=
    (List.dropWhile_suffix _).subset ((List.rdropWhile_prefix _ _).subset h)
  have hne := List.mem_takeWhile_imp hmem
  cases hne

/-- A key is its own key. -/
@[simp] theorem Label.key_key (label : Text) : Label.key (Label.key label) = Label.key label := by
  have htake : (Label.key label).takeWhile (· != '|') = Label.key label :=
    List.takeWhile_eq_self_iff.mpr fun c hc =>
      bne_iff_ne.mpr fun e => Label.not_mem_key label (e ▸ hc)
  rw [Label.key, htake]
  exact Text.trim_trim _

/-- What the resolution sees of an element: of an edge everything, of a node its key and whether it is
    a note. -/
def Element.outline : Element → Element
  | .node n =>
    .node (if n.isNote then .note (Label.key n.label) Paint.none
      else .decision (Label.key n.label))
  | .edge e r => .edge e r

/-- The outline of an element, where the element stands. -/
def Placed.outline (p : Placed) : Placed := ⟨p.place, p.element.outline⟩

namespace Element

@[simp] theorem outline_isEdge (e : Element) : e.outline.isEdge = e.isEdge := by
  cases e <;> rfl

@[simp] theorem outline_isNote (e : Element) : e.outline.isNote = e.isNote := by
  cases e with
  | edge => rfl
  | node n => cases n <;> rfl

@[simp] theorem outline_key (e : Element) : e.outline.key = e.key := by
  cases e with
  | edge => rfl
  | node n => cases n <;> exact Label.key_key _

theorem outline_of_isEdge {e : Element} (h : e.isEdge = true) : e.outline = e := by
  cases e with
  | edge => rfl
  | node => cases h

/-- What an outline leaves out is not seen by the resolution. -/
theorem outline_unseen : Unseen outline where
  isEdge := outline_isEdge
  isNote := outline_isNote
  isDashed e := by cases e <;> rfl
  key := outline_key

/-- Two nodes with one key, both of them notes or neither, have one outline. -/
theorem outline_eq {x y : Element} (hx : x.isEdge = false) (hy : y.isEdge = false)
    (hkey : y.key = x.key) (hnote : y.isNote = x.isNote) : y.outline = x.outline := by
  cases x with
  | edge => cases hx
  | node m =>
    cases y with
    | edge => cases hy
    | node n =>
      have hk : Label.key n.label = Label.key m.label := hkey
      have hn : n.isNote = m.isNote := hnote
      rw [outline, outline, hk, hn]

end Element

/-! ## 2. Resolution -/

/-- **The resolution of a row sees only the outlines of its elements.** -/
theorem resolve_outline (row : List Placed) (t : IdentityTable) (l : Ledger) :
    resolve (row.map Placed.outline) t l = resolve row t l := by
  have hedges : (resolve row t l).edges.map (fun e => (e.1.map Element.outline, e.2)) =
      (resolve row t l).edges := by
    refine (List.map_congr_left fun e he => ?_).trans (List.map_id _)
    have hedge : e.1.element.outline = e.1.element :=
      Element.outline_of_isEdge (isEdge_of_mem_edges he)
    rw [Placed.map, hedge]
    rfl
  show resolve (row.map (Placed.map Element.outline)) t l = _
  rw [Element.outline_unseen.resolve_map, Resolution.mapEdges, hedges]

/-! ## 3. Lists that restate each other -/

/-- Whether two nodes mention one node behind some elements: they have one key, which occurs among the
    nodes of these, and both of them are notes or neither is. -/
def Element.SameMention (before : List Element) (x y : Element) : Prop :=
  (x.isEdge = false ∧ y.isEdge = false) ∧ (y.key = x.key ∧ y.isNote = x.isNote) ∧
    ∃ e ∈ before, e.isEdge = false ∧ e.key = x.key

instance (before : List Element) (x y : Element) : Decidable (x.SameMention before y) :=
  inferInstanceAs (Decidable ((_ ∧ _) ∧ (_ ∧ _) ∧ ∃ e ∈ before, _))

/-- Two lists of one length that differ only in nodes whose keys have occurred before. -/
structure Restates (xs ys : List Element) : Prop where
  length : ys.length = xs.length
  at_index : ∀ i (hx : i < xs.length) (hy : i < ys.length),
    ys[i] = xs[i] ∨ Element.SameMention (xs.take i) xs[i] ys[i]

theorem Element.SameMention.outline_eq {before : List Element} {x y : Element}
    (h : x.SameMention before y) : y.outline = x.outline := by
  obtain ⟨⟨hx, hy⟩, ⟨hkey, hnote⟩, -⟩ := h
  exact Element.outline_eq hx hy hkey hnote

/-- Neither of two mentions claims its key. -/
theorem Element.SameMention.ofElements_eq {before before' : List Element} {x y : Element}
    (h : x.SameMention before y) (ht : IdentityTable.ofElements (Placed.row 0 before') =
      IdentityTable.ofElements (Placed.row 0 before)) (i : Nat) :
    IdentityTable.ofElements (Placed.row 0 before' ++ [⟨i, y⟩]) =
      IdentityTable.ofElements (Placed.row 0 before ++ [⟨i, x⟩]) := by
  obtain ⟨⟨hx, hy⟩, ⟨hkey, -⟩, e, he, hnode, hekey⟩ := h
  rw [← map_element_row 0 before] at he
  obtain ⟨q, hq, rfl⟩ := List.mem_map.mp he
  rw [IdentityTable.ofElements_concat (p := ⟨i, y⟩) hy,
    IdentityTable.ofElements_concat (p := ⟨i, x⟩) hx, ht,
    IdentityTable.claim_of_mem hq hnode (p := ⟨i, x⟩) hekey,
    IdentityTable.claim_of_mem hq hnode (p := ⟨i, y⟩) (hekey.trans hkey.symm)]

namespace Restates

variable {xs ys : List Element}

/-- The tables of two lists grow alike, element by element. -/
theorem ofElements_take (h : Restates xs ys) {n : Nat} (hn : n ≤ xs.length) :
    IdentityTable.ofElements (Placed.row 0 (ys.take n)) =
      IdentityTable.ofElements (Placed.row 0 (xs.take n)) := by
  induction n with
  | zero => rfl
  | succ n ih =>
    have hx : n < xs.length := hn
    have hy : n < ys.length := h.length ▸ hx
    have ih := ih hx.le
    rw [row_take_succ hx, row_take_succ hy]
    -- the next elements are the same and claim the same, or both are mentions and claim nothing
    rcases h.at_index n hx hy with hsame | hmention
    · rw [hsame, IdentityTable.ofElements_append, IdentityTable.ofElements_append, ih]
    · exact hmention.ofElements_eq ih n

/-- **The tables are the same.** -/
theorem ofElements_eq (h : Restates xs ys) :
    IdentityTable.ofElements (Placed.row 0 ys) = IdentityTable.ofElements (Placed.row 0 xs) := by
  have htake := h.ofElements_take le_rfl
  rwa [List.take_length, ← h.length, List.take_length] at htake

theorem map_outline (h : Restates xs ys) : ys.map Element.outline = xs.map Element.outline := by
  refine List.ext_getElem (by rw [List.length_map, List.length_map, h.length]) fun i hi hi' => ?_
  rw [List.getElem_map, List.getElem_map]
  rw [List.length_map] at hi hi'
  rcases h.at_index i hi' hi with hsame | hmention
  · rw [hsame]
  · exact hmention.outline_eq

/-- **The resolutions are the same**, against every table. -/
theorem resolve_eq (h : Restates xs ys) (t : IdentityTable) (l : Ledger) :
    resolve (Placed.row 0 ys) t l = resolve (Placed.row 0 xs) t l := by
  have hrow : ∀ zs, (Placed.row 0 zs).map Placed.outline = Placed.row 0 (zs.map Element.outline) :=
    map_row Element.outline 0
  rw [← resolve_outline, ← resolve_outline (Placed.row 0 xs), hrow, hrow, h.map_outline]

end Restates

/-! ## 4. Charts -/

/-- **Later mentions of a node are pure references.** Lists of elements that restate each other make
    charts with the same table, the same resolution and the same statements, in every direction. -/
theorem ofElements_restates {g : Grammar} {xs ys : List Element} (h : Restates xs ys)
    (hg : ∀ e ∈ xs, e.belongsTo g = true) (d : Direction) :
    ∃ c c', Chart.ofElements g d xs = .ok c ∧ Chart.ofElements g d ys = .ok c' ∧
      c'.table = c.table ∧ c'.resolution = c.resolution ∧ c'.statements = c.statements := by
  obtain ⟨c, hc⟩ := exists_chart_of_belongsTo hg d
  have hof := ofElements_eq_ok_iff.mp hc
  have htable : c.table = IdentityTable.ofElements (Placed.row 0 ys) := by
    rw [hof.table, hof.row, h.ofElements_eq]
  have hresolution : c.resolution = resolve (Placed.row 0 ys) c.table Ledger.empty := by
    rw [hof.resolution, hof.row, h.resolve_eq]
  have hof' : Chart.Of g d ys ⟨g, Placed.row 0 ys, c.table, c.resolution, c.statements⟩ :=
    ⟨rfl, rfl, htable, hresolution, hof.statements⟩
  exact ⟨c, _, hc, ofElements_eq_ok_iff.mpr hof', rfl, rfl, rfl⟩

/-- A box that is mentioned as a bar, a bar that is mentioned as a box with another field and a colour,
    and a note that is mentioned in another colour. -/
theorem ofElements_restates_kinds :
    let box := fun (s : String) (p : Paint) => Element.node (.activity s.toList p)
    let note := fun (p : Paint) => Element.node (.note "n".toList p)
    let flow := Element.edge (.arrow none true .topDown) none
    let red := Paint.ofBackground "red".toList
    let bar := fun (s : String) => Element.node (.bar s.toList 0)
    let xs := [box "a" .none, flow, bar "x", flow, note .none, flow, bar "x", flow, note .none, flow,
      box "a" .none]
    let ys := [box "a" .none, flow, bar "x", flow, note .none, flow, box "x|y" red, flow, note red, flow,
      bar "a"]
    Restates xs ys ∧ (∀ e ∈ xs, e.belongsTo .activity = true) ∧
      ∃ c c', Chart.ofElements .activity .topDown xs = .ok c ∧
        Chart.ofElements .activity .topDown ys = .ok c' ∧
        c'.table = c.table ∧ c'.resolution = c.resolution ∧ c'.statements = c.statements := by
  intro box note flow red bar xs ys
  have h : Restates xs ys := ⟨rfl, by decide⟩
  have hg : ∀ e ∈ xs, e.belongsTo .activity = true := by decide
  exact ⟨h, hg, ofElements_restates h hg .topDown⟩

end Yuml
