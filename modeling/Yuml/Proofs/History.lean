import Yuml.Proofs.Neighbours
import Yuml.Proofs.Ports

/-!
# Histories: edges that are resolved again and again

The elements of a POOL live on while rows of them are resolved, one row after the other, each against
a table of its own that need not be made of the row. A bar goes on counting from one run to the next,
and an edge keeps the relation that it got last. This file follows both through every history, and
through a run as far as any position (`Run.upTo`):

* the ports that a bar has given out are consecutive, whatever runs they were given out in, and its
  fan-in is what it was at the start and one more for each (`portsGiven_eq`);
* a run changes the relation of the edges that it returns and the fan-in of the bars that these enter,
  and nothing else (`Run.Leaves`). An edge that it drops is left as it was.

A port is declared by the label of its bar if and only if it is positive (`portText_mem_iff`), and it is
where the bar has begun to count from 0 or more. A bar that begins below 0 gives out ports that its
label never declares (`port_below_zero`).
-/

namespace Yuml

/-! ## 1. Runs -/

/-- A run: the row that is resolved, and the elements that its table is made of. -/
structure Run where
  row : List Placed
  declared : List Placed

/-- The element that owns the node with some number in a table. -/
def IdentityTable.ownerOf? (t : IdentityTable) (id : Int) : Option Placed :=
  (t.find? fun i => (i.id : Int) == id).map (·.owner)

theorem IdentityTable.Claims.ownerOf?_id {ps : List Placed} {t : IdentityTable}
    (h : IdentityTable.Claims ps t) {i : Identity} (hi : i ∈ t) : t.ownerOf? i.id = some i.owner := by
  rw [ownerOf?, h.find?_id hi]
  rfl

namespace Run

/-- The table that a run looks its nodes up in. -/
def table (r : Run) : IdentityTable := .ofElements r.declared

/-- What a run finds. -/
def found (r : Run) (l : Ledger) : Resolution := resolve r.row r.table l

/-- What a run has found when it has passed the first `k` positions of its ring. -/
def upTo (r : Run) (l : Ledger) (k : Nat) : Resolution :=
  ((ring r.row).take k).zipIdx.foldl (Resolution.step r.table) (Resolution.start l)

/-- Whether an edge with its relation enters the node of an element. -/
def enters (r : Run) (p : Placed) (e : Placed × Relation) : Bool :=
  r.table.ownerOf? e.2.target == some p

/-- The joins at the first `k` positions of the ring. -/
def joinsUpTo (r : Run) (k : Nat) : List Join := joins r.table ((ring r.row).take k)

/-- A run on elements of a pool. -/
structure From (pool : List Element) (r : Run) : Prop where
  row : ∀ p ∈ r.row, p ∈ Placed.row 0 pool
  declared : ∀ p ∈ r.declared, p ∈ Placed.row 0 pool

theorem upTo_eq (r : Run) (l : Ledger) (k : Nat) :
    r.upTo l k =
      { edges := drawn l (r.joinsUpTo k),
        dropped := (((ring r.row).take k).filterMap (dropReason? r.table)).length,
        events := dropEvents r.table ((ring r.row).take k) 0,
        ledger := l.after (r.joinsUpTo k) } := by
  rw [upTo, foldl_step_eq]
  simp [Resolution.start, joinsUpTo]

theorem upTo_of_le (r : Run) (l : Ledger) {k : Nat} (h : r.row.length ≤ k) : r.upTo l k = r.found l := by
  rw [upTo, List.take_of_length_le ((length_ring r.row).trans_le h)]
  rfl

section Joins

variable {pool : List Element} {r : Run} {k : Nat} {j : Join}

theorem of_mem_joinsUpTo (hj : j ∈ r.joinsUpTo k) : j.Of r.table r.row := by
  have hsub : (r.joinsUpTo k).Sublist (joins r.table (ring r.row)) :=
    (List.take_sublist k (ring r.row)).filterMap _
  exact of_mem_joins (hsub.subset hj)

theorem ownerOf?_target (hj : j ∈ r.joinsUpTo k) (l : Ledger) :
    r.table.ownerOf? (j.relation l).target = some j.target.owner :=
  (IdentityTable.ofElements_claims r.declared).ownerOf?_id (of_mem_joinsUpTo hj).target_mem

theorem From.owner_mem (h : r.From pool) (hj : j ∈ r.joinsUpTo k) :
    j.target.owner ∈ Placed.row 0 pool := by
  have howner := (IdentityTable.ofElements_claims r.declared).owner_mem
    (of_mem_joinsUpTo hj).target_mem
  exact h.declared _ (List.mem_of_mem_filter howner)

/-- The owner of a node is told by its place. -/
theorem From.owner_eq_iff (h : r.From pool) (hj : j ∈ r.joinsUpTo k) {p : Placed}
    (hp : p ∈ Placed.row 0 pool) : j.target.owner = p ↔ j.target.owner.place = p.place :=
  ⟨fun e => congrArg Placed.place e, eq_of_place (h.owner_mem hj) hp⟩

/-- The edges that enter a bar are those of the joins that do. -/
theorem From.enters_join (h : r.From pool) (hj : j ∈ r.joinsUpTo k) {p : Placed}
    (hp : p ∈ Placed.row 0 pool) (hbar : p.isBar = true) (l : Ledger) :
    r.enters p (j.edge, j.relation l) = j.enters p.place := by
  have howner := h.owner_eq_iff hj hp
  rw [Bool.eq_iff_iff]
  constructor
  · intro he
    have hown : j.target.owner = p :=
      Option.some.inj ((ownerOf?_target hj l).symm.trans (eq_of_beq he))
    rw [Join.enters, hown, hbar]
    exact beq_self_eq_true _
  · intro he
    have hown : j.target.owner = p := howner.mpr (eq_of_beq (Bool.and_eq_true_iff.mp he).2)
    rw [enters, ownerOf?_target hj l, hown]
    exact beq_self_eq_true _

end Joins

end Run

/-! ## 2. Ports of a run -/

/-- `n` ports, the first of them behind `f`. -/
def portsBehind (f : Int) (n : Nat) : List (Option Int) :=
  (List.range n).map fun m : Nat => some (f + m + 1)

theorem portsBehind_append (f : Int) (m n : Nat) :
    portsBehind f m ++ portsBehind (f + m) n = portsBehind f (m + n) := by
  unfold portsBehind
  rw [List.range_add, List.map_append, List.map_map]
  congr 1
  refine List.map_congr_left fun k _ => ?_
  simp only [Function.comp_apply]
  congr 1
  omega

theorem some_mem_portsBehind {f : Int} {n : Nat} {port : Int} (h : some port ∈ portsBehind f n) :
    f < port ∧ port ≤ f + n := by
  obtain ⟨m, hm, e⟩ := List.mem_map.mp h
  have hm := List.mem_range.mp hm
  have e := Option.some.inj e
  omega

theorem Ledger.exists_bar_of_current {l : Ledger} {p : Placed} {label : Text} {f : Int}
    (h : l.current p = .node (.bar label f)) :
    ∃ fanin, p.element = .node (.bar label fanin) ∧ f = fanin + l.portsAt p.place := by
  unfold current at h
  split at h
  · rename_i label' fanin hp
    injection h with h
    injection h with h₁ h₂
    exact ⟨fanin, h₁ ▸ hp, h₂.symm⟩
  · cases h
  · rename_i hbar _
    exact absurd h (hbar label f)

/-- **A run gives out the next ports of a bar**, in the order of its edges, and the bar counts them. -/
theorem Run.From.ports {pool : List Element} {r : Run} (h : r.From pool) {p : Placed}
    (hp : p ∈ Placed.row 0 pool) {l : Ledger} {label : Text} {f : Int}
    (hbar : l.current p = .node (.bar label f)) (k : Nat) :
    ((r.upTo l k).edges.filter (r.enters p)).map (·.2.port) =
        portsBehind f ((r.upTo l k).edges.filter (r.enters p)).length ∧
      (r.upTo l k).ledger.current p =
        .node (.bar label (f + ((r.upTo l k).edges.filter (r.enters p)).length)) := by
  obtain ⟨fanin, helement, rfl⟩ := Ledger.exists_bar_of_current hbar
  have hisBar : p.isBar = true := by rw [Placed.isBar, helement]; rfl
  have hports := ports_drawn helement l (r.joinsUpTo k) (q := r.enters p)
    (fun j hj l => h.enters_join hj hp hisBar l)
    fun j hj he => (h.owner_eq_iff hj hp).mpr (eq_of_beq (Bool.and_eq_true_iff.mp he).2)
  have hlength : ((drawn l (r.joinsUpTo k)).filter (r.enters p)).length =
      (r.joinsUpTo k).countP (Join.enters p.place) := by
    rw [← List.length_map (fun e : Placed × Relation => e.2.port), hports, List.length_map,
      List.length_range]
  rw [Run.upTo_eq]
  dsimp only
  rw [hlength]
  refine ⟨hports, ?_⟩
  rw [Ledger.current_bar _ helement, portsAt_after]
  congr 2
  omega

/-- **A port belongs to a bar**, and the edge that has it enters the node of this bar. -/
theorem Run.From.exists_bar {pool : List Element} {r : Run} (h : r.From pool) {l : Ledger} {k : Nat}
    {e : Placed × Relation} (he : e ∈ (r.upTo l k).edges) {port : Int} (hport : e.2.port = some port) :
    ∃ p ∈ Placed.row 0 pool, p.isBar = true ∧ r.table.ownerOf? e.2.target = some p := by
  rw [Run.upTo_eq] at he
  obtain ⟨j, hj, l', rfl⟩ := exists_join_of_mem_drawn he
  refine ⟨j.target.owner, h.owner_mem hj, ?_, Run.ownerOf?_target hj l'⟩
  have hnext : l'.nextPort j.target.owner = some port := hport
  rw [← nextPort_isSome l', hnext]
  rfl

/-! ## 3. What a run leaves -/

/-- The relation that some edges have brought to an element last. -/
def lastRelation? (edges : List (Placed × Relation)) (p : Placed) : Option Relation :=
  (edges.reverse.find? fun e => e.1 == p).map (·.2)

/-- What a run leaves of the elements of a pool, as far as it has come: an edge has the relation that it
    was returned with last, a bar has counted the edges that enter it, and nothing else has changed. -/
structure Run.Leaves (pool : List Element) (r : Run) (l : Ledger) (k : Nat) : Prop where
  edge : ∀ p ∈ Placed.row 0 pool, ∀ e relation, l.current p = .edge e relation →
    (r.upTo l k).ledger.current p =
      .edge e ((lastRelation? (r.upTo l k).edges p).or relation)
  bar : ∀ p ∈ Placed.row 0 pool, ∀ label fanin, l.current p = .node (.bar label fanin) →
    (r.upTo l k).ledger.current p =
      .node (.bar label (fanin + ((r.upTo l k).edges.filter (r.enters p)).length))
  other : ∀ p ∈ Placed.row 0 pool, p.isEdge = false → p.isBar = false →
    (r.upTo l k).ledger.current p = l.current p
  /-- Where an edge is dropped, nothing is written down. -/
  dropped : (r.upTo l (k + 1)).dropped ≠ (r.upTo l k).dropped →
    (r.upTo l (k + 1)).ledger = (r.upTo l k).ledger ∧
      (r.upTo l (k + 1)).edges = (r.upTo l k).edges
  /-- Each edge that has been passed is returned once or dropped once. -/
  passed : (r.upTo l k).edges.length + (r.upTo l k).dropped = (r.row.take k).countP (·.isEdge)

section Leaves

variable {pool : List Element} {r : Run} {l : Ledger} {k : Nat}

theorem Ledger.linkAt?_after (l : Ledger) (js : List Join) (p : Placed)
    (h : ∀ e ∈ drawn l js, e.1.place = p.place → e.1 = p) :
    (l.after js).linkAt? p.place = (lastRelation? (drawn l js) p).or (l.linkAt? p.place) := by
  have hsame : ((drawn l js).map fun e => (e.1.place, e.2)).reverse.find?
      (fun e => e.1 == p.place) =
      ((drawn l js).reverse.find? fun e => e.1 == p).map fun e => (e.1.place, e.2) := by
    rw [← List.map_reverse, List.find?_map]
    refine congrArg _ (List.find?_congr fun e he => ?_)
    have he := h e (List.mem_reverse.mp he)
    rw [Bool.eq_iff_iff]
    exact ⟨fun hp => beq_iff_eq.mpr (he (eq_of_beq hp)),
      fun hp => beq_iff_eq.mpr (congrArg Placed.place (eq_of_beq hp))⟩
  rw [linkAt?, links_after, List.reverse_append, List.find?_append, hsame, lastRelation?, linkAt?]
  cases (drawn l js).reverse.find? fun e => e.1 == p <;> rfl

theorem Ledger.exists_edge_of_current {l : Ledger} {p : Placed} {e : Edge} {relation : Option Relation}
    (h : l.current p = .edge e relation) :
    ∃ first, p.element = .edge e first ∧ relation = (l.linkAt? p.place).or first := by
  unfold current at h
  split at h
  · cases h
  · rename_i e' first hp
    injection h with h₁ h₂
    exact ⟨first, h₁ ▸ hp, h₂.symm⟩
  · rename_i hedge
    exact absurd h (hedge e relation)

theorem Ledger.current_edge (l : Ledger) {p : Placed} {e : Edge} {first : Option Relation}
    (h : p.element = .edge e first) : l.current p = .edge e ((l.linkAt? p.place).or first) := by
  rw [current, h]

/-- The ledger says nothing of elements that are neither edges nor bars. -/
theorem Ledger.current_other (l : Ledger) {p : Placed} (hedge : p.isEdge = false)
    (hbar : p.isBar = false) : l.current p = p.element := by
  obtain ⟨place, element⟩ := p
  cases element with
  | edge => cases hedge
  | node n =>
    cases n with
    | bar => cases hbar
    | _ => rfl

/-- An edge that is dropped is no join. -/
theorem joinOf?_eq_none {t : IdentityTable} {q : Placed × Placed × Placed} {reason : DropReason}
    (h : dropReason? t q = some reason) : Join.of? t q = none := by
  unfold dropReason? at h
  unfold Join.of?
  split at h
  · rename_i hedge
    rw [if_pos hedge]
    split at h
    · cases h
    · rename_i hends
      rw [hends]
  · cases h

/-- **A position that drops an edge leaves all else as it was.** -/
theorem Run.upTo_dropped (h : (r.upTo l (k + 1)).dropped ≠ (r.upTo l k).dropped) :
    (r.upTo l (k + 1)).ledger = (r.upTo l k).ledger ∧
      (r.upTo l (k + 1)).edges = (r.upTo l k).edges := by
  rw [upTo_eq, upTo_eq] at h ⊢
  dsimp only at h ⊢
  rw [joinsUpTo, joinsUpTo]
  rw [List.take_add_one] at h ⊢
  cases hq : (ring r.row)[k]? with
  | none =>
    rw [hq] at h
    simp at h
  | some q =>
    rw [hq, Option.toList_some, List.filterMap_append, List.length_append] at h
    cases hreason : dropReason? r.table q with
    | none => simp [hreason] at h
    | some reason =>
      have hjoins : joins r.table ((ring r.row).take k ++ [q]) =
          joins r.table ((ring r.row).take k) := by
        simp [joins, joinOf?_eq_none hreason]
      rw [Option.toList_some, hjoins]
      exact ⟨rfl, rfl⟩

/-- The edges that a run returns stand in its row. -/
theorem Run.mem_row_of_mem_upTo {e : Placed × Relation} (he : e ∈ (r.upTo l k).edges) :
    e.1 ∈ r.row := by
  rw [upTo_eq] at he
  obtain ⟨j, hj, l', rfl⟩ := exists_join_of_mem_drawn he
  exact (of_mem_joinsUpTo hj).edge_mem

theorem Run.upTo_passed :
    (r.upTo l k).edges.length + (r.upTo l k).dropped = (r.row.take k).countP (·.isEdge) := by
  have hrow : r.row.take k = ((ring r.row).take k).map (·.2.1) := by
    rw [List.map_take, map_ring]
  rw [upTo_eq, hrow, List.countP_map]
  dsimp only
  rw [length_drawn, joinsUpTo, length_joins_add_dropped]
  rfl

/-- **What a run leaves**, as far as it has come. -/
theorem Run.From.leaves (h : r.From pool) (l : Ledger) (k : Nat) : r.Leaves pool l k where
  edge p hp e relation hedge := by
    obtain ⟨first, helement, rfl⟩ := Ledger.exists_edge_of_current hedge
    have hplace : ∀ e ∈ drawn l (r.joinsUpTo k), e.1.place = p.place → e.1 = p := by
      intro e he
      have hmem : e ∈ (r.upTo l k).edges := by rw [Run.upTo_eq]; exact he
      exact eq_of_place (h.row _ (Run.mem_row_of_mem_upTo hmem)) hp
    rw [Run.upTo_eq, Ledger.current_edge _ helement, Ledger.linkAt?_after l _ p hplace, Option.or_assoc]
  bar p hp label fanin hbar := (h.ports hp hbar k).2
  other p _ hedge hbar := by
    rw [Ledger.current_other _ hedge hbar, Ledger.current_other _ hedge hbar]
  dropped := Run.upTo_dropped
  passed := Run.upTo_passed

end Leaves

/-! ## 4. Histories -/

/-- The runs of a history, each with what it finds. -/
def history (l : Ledger) : List Run → List (Run × Resolution)
  | [] => []
  | r :: rs => (r, r.found l) :: history (r.found l).ledger rs

/-- What has been written down after a history. -/
def Ledger.through (l : Ledger) (runs : List Run) : Ledger :=
  runs.foldl (fun l r => (r.found l).ledger) l

/-- The ports of the edges that have entered the node of an element, run after run. -/
def portsGiven (p : Placed) (past : List (Run × Resolution)) : List (Option Int) :=
  past.flatMap fun e => (e.2.edges.filter (e.1.enters p)).map (·.2.port)

section History

variable {pool : List Element}

/-- **All runs together give out the next ports of a bar**, and the bar counts them. -/
theorem portsGiven_eq {runs : List Run} (h : ∀ r ∈ runs, r.From pool) {p : Placed}
    (hp : p ∈ Placed.row 0 pool) {l : Ledger} {label : Text} {f : Int}
    (hbar : l.current p = .node (.bar label f)) :
    portsGiven p (history l runs) = portsBehind f (portsGiven p (history l runs)).length ∧
      (l.through runs).current p =
        .node (.bar label (f + (portsGiven p (history l runs)).length)) := by
  induction runs generalizing l f with
  | nil =>
    refine ⟨rfl, ?_⟩
    show l.current p = .node (.bar label (f + 0))
    rw [hbar, Int.add_zero]
  | cons r rs ih =>
    obtain ⟨hr, hrs⟩ := List.forall_mem_cons.mp h
    have hrun := hr.ports hp hbar r.row.length
    rw [Run.upTo_of_le r l (Nat.le_refl _)] at hrun
    obtain ⟨hports, hcurrent⟩ := hrun
    obtain ⟨hrest, hlast⟩ := ih hrs hcurrent
    have hcons : portsGiven p (history l (r :: rs)) =
        ((r.found l).edges.filter (r.enters p)).map (·.2.port) ++
          portsGiven p (history (r.found l).ledger rs) := List.flatMap_cons
    rw [hcons, List.length_append, List.length_map]
    constructor
    · rw [← portsBehind_append, ← hrest, ← hports]
    · show ((r.found l).ledger.through rs).current p = _
      rw [hlast]
      congr 2
      omega

/-- What a history has found before a position of its last run: all of the runs before, and the last
    one as far as it has come. -/
def foundBefore (l : Ledger) (runs : List Run) (r : Run) (k : Nat) : List (Run × Resolution) :=
  history l runs ++ [(r, r.upTo (l.through runs) k)]

/-- At any position of any run, a bar has given out the next ports in one row and counted them. -/
theorem portsGiven_before {runs : List Run} {r : Run} (hruns : ∀ r ∈ runs, r.From pool)
    (hr : r.From pool) {p : Placed} (hp : p ∈ Placed.row 0 pool) {l : Ledger} {label : Text} {f : Int}
    (hbar : l.current p = .node (.bar label f)) (k : Nat) :
    portsGiven p (foundBefore l runs r k) =
        portsBehind f (portsGiven p (foundBefore l runs r k)).length ∧
      (r.upTo (l.through runs) k).ledger.current p =
        .node (.bar label (f + (portsGiven p (foundBefore l runs r k)).length)) := by
  obtain ⟨hpast, hcurrent⟩ := portsGiven_eq hruns hp hbar
  obtain ⟨hports, hnow⟩ := hr.ports hp hcurrent k
  have happend : portsGiven p (foundBefore l runs r k) = portsGiven p (history l runs) ++
      ((r.upTo (l.through runs) k).edges.filter (r.enters p)).map (·.2.port) := by
    simp [portsGiven, foundBefore]
  rw [happend, List.length_append, List.length_map]
  constructor
  · rw [← portsBehind_append, ← hpast, ← hports]
  · rw [hnow]
    congr 2
    omega

/-- Each entry of a history is what its run has found, from some ledger and as far as some position. -/
theorem exists_upTo_of_mem {runs : List Run} {l : Ledger} {e : Run × Resolution}
    (h : e ∈ history l runs) : e.1 ∈ runs ∧ ∃ l' k, e.2 = e.1.upTo l' k := by
  induction runs generalizing l with
  | nil => exact absurd h List.not_mem_nil
  | cons r rs ih =>
    rcases List.mem_cons.mp h with rfl | h
    · exact ⟨List.mem_cons_self, l, r.row.length, (r.upTo_of_le l (Nat.le_refl _)).symm⟩
    · obtain ⟨hmem, hupTo⟩ := ih h
      exact ⟨List.mem_cons_of_mem r hmem, hupTo⟩

/-- **Every port that a run has returned** is a port of a bar, behind the fan-in that the bar began
    with and not behind the one that it has. -/
theorem exists_bar_of_returned {runs : List Run} {r : Run} (hruns : ∀ r ∈ runs, r.From pool)
    (hr : r.From pool) (l : Ledger) (k : Nat) {e : Run × Resolution}
    (he : e ∈ foundBefore l runs r k) {edge : Placed × Relation} (hedge : edge ∈ e.2.edges)
    {port : Int} (hport : edge.2.port = some port) :
    ∃ p ∈ Placed.row 0 pool, e.1.table.ownerOf? edge.2.target = some p ∧
      ∃ label f fanin, l.current p = .node (.bar label f) ∧
        (r.upTo (l.through runs) k).ledger.current p = .node (.bar label fanin) ∧
        f < port ∧ port ≤ fanin := by
  obtain ⟨hfrom, l', k', hupTo⟩ : e.1.From pool ∧ ∃ l' k', e.2 = e.1.upTo l' k' := by
    rcases List.mem_append.mp he with he | he
    · obtain ⟨hmem, hupTo⟩ := exists_upTo_of_mem he
      exact ⟨hruns _ hmem, hupTo⟩
    · obtain rfl := List.mem_singleton.mp he
      exact ⟨hr, _, k, rfl⟩
  obtain ⟨p, hp, hbar, howner⟩ := hfrom.exists_bar (hupTo ▸ hedge) hport
  obtain ⟨label, f, hcurrent⟩ : ∃ label f, l.current p = .node (.bar label f) := by
    obtain ⟨place, element⟩ := p
    cases element with
    | edge => cases hbar
    | node n =>
      cases n with
      | bar label f => exact ⟨label, _, rfl⟩
      | _ => cases hbar
  obtain ⟨hports, hnow⟩ := portsGiven_before hruns hr hp hcurrent k
  have hmem : some port ∈ portsGiven p (foundBefore l runs r k) := by
    have henters : edge ∈ e.2.edges.filter (e.1.enters p) :=
      List.mem_filter.mpr ⟨hedge, beq_iff_eq.mpr howner⟩
    exact List.mem_flatMap.mpr ⟨e, he, List.mem_map.mpr ⟨edge, henters, hport⟩⟩
  rw [hports] at hmem
  obtain ⟨hlow, hhigh⟩ := some_mem_portsBehind hmem
  exact ⟨p, hp, howner, label, f, _, hcurrent, hnow, hlow, hhigh⟩

end History

/-! ## 5. The account of all runs -/

/-- **The account of a history**, at any position of any run. The ports that a bar has given out are
    the next ones behind the fan-in that it began with, in one row over all runs, and its fan-in is
    this one and their number. Each port of an edge that was returned is one of these, and the label
    of the bar as it stands declares it if and only if it is positive. A run leaves all but the edges
    that it returns and the bars that these enter. -/
theorem history_keepsAccount {pool : List Element} {runs : List Run} {r : Run}
    (hruns : ∀ r ∈ runs, r.From pool) (hr : r.From pool) (l : Ledger) (k : Nat) :
    let past := foundBefore l runs r k
    let now := (r.upTo (l.through runs) k).ledger
    (∀ p ∈ Placed.row 0 pool, ∀ label f, l.current p = .node (.bar label f) →
      portsGiven p past = portsBehind f (portsGiven p past).length ∧
        now.current p = .node (.bar label (f + (portsGiven p past).length))) ∧
    (∀ e ∈ past, ∀ edge ∈ e.2.edges, ∀ port, edge.2.port = some port →
      ∃ p ∈ Placed.row 0 pool, e.1.table.ownerOf? edge.2.target = some p ∧
        ∃ label f fanin, l.current p = .node (.bar label f) ∧
          now.current p = .node (.bar label fanin) ∧ f < port ∧
          (portText port ∈ Text.splitAt '|' (portLabel fanin) ↔ 0 < port)) ∧
    r.Leaves pool (l.through runs) k ∧
    (r.row.length ≤ k → r.upTo (l.through runs) k = resolve r.row r.table (l.through runs)) := by
  intro past now
  refine ⟨fun p hp label f hbar => portsGiven_before hruns hr hp hbar k, ?_, hr.leaves _ k,
    r.upTo_of_le _⟩
  intro e he edge hedge port hport
  obtain ⟨p, hp, howner, label, f, fanin, hfirst, hnow, hlow, hhigh⟩ :=
    exists_bar_of_returned hruns hr l k he hedge hport
  refine ⟨p, hp, howner, label, f, fanin, hfirst, hnow, hlow, ?_⟩
  rw [portText_mem_iff]
  exact and_iff_left hhigh

/-- Three runs over one arrow and one bar that has begun at 2. The first draws the arrow; the table of the
    second does not know its source, so it is dropped and keeps its relation; the third draws it again,
    at the next port. -/
theorem history_keepsAccount_foreign :
    let pool := [.node (.decision "a".toList), .edge (.arrow none true .topDown) none,
      .node (.bar "b".toList 2), .node (.decision "c".toList)]
    let a : Placed := ⟨0, .node (.decision "a".toList)⟩
    let flow : Placed := ⟨1, .edge (.arrow none true .topDown) none⟩
    let bar : Placed := ⟨2, .node (.bar "b".toList 2)⟩
    let c : Placed := ⟨3, .node (.decision "c".toList)⟩
    let first : Run := ⟨[a, flow, bar], [bar, a]⟩
    let second : Run := ⟨[c, flow, bar], [a, bar]⟩
    let third : Run := ⟨[c, flow, bar], [a, bar, c]⟩
    let past := foundBefore Ledger.empty [first, second] third 3
    let middle := Ledger.empty.through [first, second]
    let now := (third.upTo middle 3).ledger
    (∀ r ∈ [first, second], r.From pool) ∧ third.From pool ∧
      past.map (·.2.dropped) = [0, 1, 0] ∧
      middle.current flow = .edge (.arrow none true .topDown) (some ⟨2, 1, some 3, false, false⟩) ∧
      now.current flow = .edge (.arrow none true .topDown) (some ⟨3, 2, some 4, false, false⟩) ∧
      portsGiven bar past = [some 3, some 4] ∧
      now.current bar = .node (.bar "b".toList (2 + 2)) ∧
      third.Leaves pool middle 3 := by
  intro pool a flow bar c first second third past middle now
  have hfirst : first.From pool := ⟨by decide, by decide⟩
  have hsecond : second.From pool := ⟨by decide, by decide⟩
  have hthird : third.From pool := ⟨by decide, by decide⟩
  have hruns : ∀ r ∈ [first, second], r.From pool :=
    List.forall_mem_cons.mpr ⟨hfirst, List.forall_mem_singleton.mpr hsecond⟩
  have haccount := history_keepsAccount hruns hthird Ledger.empty 3
  have hports : portsGiven bar past = [some 3, some 4] := by decide
  obtain ⟨-, hbar⟩ := haccount.1 bar (by decide) "b".toList 2 rfl
  rw [hports] at hbar
  exact ⟨hruns, hthird, by decide, by decide, by decide, hports, hbar, haccount.2.2.1⟩

/-- **A bar that has begun below 0 gives out a port that its label does not declare.** -/
theorem port_below_zero :
    let bar : Placed := ⟨2, .node (.bar "b".toList (-3))⟩
    let row := [⟨0, .node (.decision "a".toList)⟩, ⟨1, .edge (.arrow none true .topDown) none⟩, bar]
    let found := Run.found ⟨row, row⟩ Ledger.empty
    found.edges.map (·.2.port) = [some (-2)] ∧
      found.ledger.current bar = .node (.bar "b".toList (-2)) ∧
      portText (-2) ∉ Text.splitAt '|' (portLabel (-2)) := by
  refine ⟨by decide, by decide, fun h => ?_⟩
  have hpos := (portText_mem_iff.mp h).1
  omega

end Yuml
