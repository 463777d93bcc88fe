import Yuml.Identity

/-!
# Relations: which nodes an edge connects

An edge connects its two neighbours. The elements of a document stand in a RING: an edge at the very
beginning has the last element as its source, and one at the very end has the first element as its
target. An edge next to another edge is dropped, and so is one whose neighbour has no identity.

An edge that touches a note is drawn dashed. An edge into a bar enters it at a port of its own: the
bar counts the edges that have entered it, over all runs, and the count is the number of the port.
What all runs have written down so far is kept in a `Ledger`.
-/

namespace Yuml

/-! ## 1. The ledger -/

/-- What has been written down about elements, oldest first: the place of a bar for every port that
    it has given out, and the relation of an edge for every time that it has been resolved. -/
structure Ledger where
  ports : List Nat
  links : List (Nat × Relation)
  deriving DecidableEq, Repr

namespace Ledger

/-- Nothing has been written down yet. -/
def empty : Ledger := ⟨[], []⟩

/-- How many ports the bar at a place has given out. -/
def portsAt (l : Ledger) (place : Nat) : Nat := l.ports.count place

/-- The relation that was last written down for the edge at a place. -/
def linkAt? (l : Ledger) (place : Nat) : Option Relation :=
  (l.links.reverse.find? fun e => e.1 == place).map (·.2)

/-- The element as it stands after what has been written down: a bar with its count, an edge with
    its last relation. -/
def current (l : Ledger) (p : Placed) : Element :=
  match p.element with
  | .node (.bar label fanin) => .node (.bar label (fanin + l.portsAt p.place))
  | .edge e relation => .edge e ((l.linkAt? p.place).or relation)
  | e => e

/-- The next port of a node, which only a bar has. -/
def nextPort (l : Ledger) (target : Placed) : Option Int :=
  match target.element with
  | .node (.bar _ fanin) => some (fanin + l.portsAt target.place + 1)
  | _ => none

/-- The ledger after an edge has been resolved to a relation that ends at a target. -/
def record (l : Ledger) (edge target : Placed) (relation : Relation) : Ledger :=
  ⟨l.ports ++ (if (l.nextPort target).isSome then [target.place] else []),
   l.links ++ [(edge.place, relation)]⟩

end Ledger

/-! ## 2. The ring -/

/-- Each element of a row between its two neighbours, the row being closed to a ring. -/
def ring (row : List Placed) : List (Placed × Placed × Placed) :=
  row.rotateRight.zip (row.zip row.rotateLeft)

/-- The identities that an edge between two elements connects, or why it is dropped. -/
def endpoints (table : IdentityTable) (previous following : Placed) :
    Except DropReason (Identity × Identity) :=
  if previous.isEdge || following.isEdge then .error .adjacentEdge
  else match table.lookup previous, table.lookup following with
    | some source, some target => .ok (source, target)
    | _, _ => .error .unknownEndpoint

/-- The relation of an edge between two elements whose identities are known. -/
def relate (ledger : Ledger) (previous edge following : Placed) (source target : Identity) :
    Relation :=
  let touchesNote := previous.element.isNote || following.element.isNote
  ⟨source.id, target.id, ledger.nextPort target.owner, touchesNote || edge.element.isDashed,
   touchesNote⟩

/-! ## 3. Resolution -/

/-- What a run over a row of elements has found: the edges that are drawn, in order, how many are
    dropped, what was reported, and the ledger. -/
structure Resolution where
  edges : List (Placed × Relation)
  dropped : Nat
  events : List Event
  ledger : Ledger
  deriving DecidableEq, Repr

namespace Resolution

/-- Before the first element of a row. -/
def start (ledger : Ledger) : Resolution := ⟨[], 0, [], ledger⟩

/-- Resolve the element at an index, if it is an edge. -/
def step (table : IdentityTable) (r : Resolution) (position : (Placed × Placed × Placed) × Nat) :
    Resolution :=
  let ((previous, edge, following), index) := position
  if edge.isEdge then
    match endpoints table previous following with
    | .error reason =>
      { r with dropped := r.dropped + 1, events := r.events ++ [.edgeDropped index reason] }
    | .ok (source, target) =>
      let relation := relate r.ledger previous edge following source target
      { r with edges := r.edges ++ [(edge, relation)],
               ledger := r.ledger.record edge target.owner relation }
  else r

end Resolution

/-- Resolve every edge of a row against a table. All edges are resolved before anything is drawn, so
    a bar is drawn with all the ports that edges enter. -/
def resolve (row : List Placed) (table : IdentityTable) (ledger : Ledger) : Resolution :=
  (ring row).zipIdx.foldl (Resolution.step table) (Resolution.start ledger)

end Yuml
