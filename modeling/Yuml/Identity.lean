import Yuml.Element
import Yuml.Event
import Yuml.Fault

/-!
# Identity: which node a label stands for

The first node with a key OWNS the node of the chart; every later node with that key only mentions
it, and its own attributes do not count. Owned nodes are numbered from 1 in the order in which they
first occur.

Two elements that are written alike are still two elements: a bar counts the edges that enter IT. So
an element is held together with the PLACE at which it stands (`Placed`), and an identity keeps its
owner with that place.
-/

namespace Yuml

/-! ## 1. Places -/

/-- An element at a place of its own. -/
structure Placed where
  place : Nat
  element : Element
  deriving DecidableEq, Repr

namespace Placed

/-- The elements at consecutive places. -/
def row (first : Nat) (elements : List Element) : List Placed :=
  (elements.zipIdx first).map fun e => ⟨e.2, e.1⟩

/-- The key of the element. -/
def key (p : Placed) : Text := p.element.key

/-- Whether the element is an edge. -/
def isEdge (p : Placed) : Bool := p.element.isEdge

/-- The element, if it has a label to find a node by; only an arrow may be without. -/
def labelled (p : Placed) : Except Fault Placed :=
  if p.element.label.isSome then .ok p else .error .noLabel

end Placed

/-! ## 2. Identities -/

/-- A node of the chart: its number, the key it is found by and the element that owns it. -/
structure Identity where
  id : Nat
  key : Text
  owner : Placed
  deriving DecidableEq, Repr

/-- The name of the node with some number. -/
def nodeName (id : Int) : Text := 'A' :: Text.ofInt id

/-- The name of the node of an identity. -/
def Identity.uid (i : Identity) : Text := nodeName i.id

/-- The identities claimed so far, in the order of their numbers. -/
abbrev IdentityTable := List Identity

namespace IdentityTable

/-- The identity of a key. -/
def get? (t : IdentityTable) (key : Text) : Option Identity := t.find? (·.key == key)

/-- Whether a key has been claimed. -/
def has (t : IdentityTable) (key : Text) : Bool := t.any (·.key == key)

/-- The identity that an element belongs to. -/
def lookup (t : IdentityTable) (p : Placed) : Option Identity := get? t p.key

/-- The identity that an element gets when its key is new. -/
def fresh? (t : IdentityTable) (p : Placed) : Option Identity :=
  if has t p.key then none else some ⟨t.length + 1, p.key, p⟩

/-- The table after an element has claimed its key, if that was new. -/
def claim (t : IdentityTable) (p : Placed) : IdentityTable := t ++ (fresh? t p).toList

/-- The table of a row of elements. Edges claim nothing. -/
def ofElements (elements : List Placed) : IdentityTable :=
  (elements.filter fun p => !p.isEdge).foldl claim []

/-- What is reported when nodes claim their keys one after the other: each that comes too late. -/
def reuseEvents : IdentityTable → List Placed → List Event
  | _, [] => []
  | t, p :: ps =>
    (if has t p.key then [.labelReused p.key] else []) ++ reuseEvents (claim t p) ps

/-- What is reported when the table of a row of elements is made. -/
def events (elements : List Placed) : List Event :=
  reuseEvents [] (elements.filter fun p => !p.isEdge)

end IdentityTable

end Yuml
