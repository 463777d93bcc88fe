import Yuml.Text.LetterCase

/-!
# Paths

A path is a root, which may be empty, and the names on the way. Empty names and `.` say nothing and
are left out; `..` is kept, for it means something only where the way before it is there. So a path
has one text, whatever it was written like.
-/

namespace Yuml

/-- A path: its root (empty for a relative path) and its names. -/
structure Path where
  root : Text
  names : List Text
  deriving DecidableEq, Repr

namespace Path

/-- The root of a path: two slashes in front are a root of their own, any other count is one. -/
def rootOf (s : Text) : Text :=
  match (s.takeWhile (· == '/')).length with
  | 0 => []
  | 2 => ['/', '/']
  | _ => ['/']

/-- The path that a text spells. -/
def ofText (s : Text) : Path :=
  ⟨rootOf s, (Text.splitAt '/' s).filter fun n => !n.isEmpty && n != ['.']⟩

/-- The text of a path; the empty relative path is `.`. -/
def text (p : Path) : Text :=
  if p.root.isEmpty && p.names.isEmpty then ['.'] else p.root ++ Text.joinWith ['/'] p.names

/-- The path without its last name. -/
def parent (p : Path) : Path := { p with names := p.names.dropLast }

/-- The last name of a path. -/
def name (p : Path) : Text := p.names.getLast?.getD []

/-- The part of the last name behind its last dot, unless that dot is the first or the last
    character of the name. -/
def suffix? (p : Path) : Option Text :=
  let behind := (p.name.reverse.takeWhile (· != '.')).reverse
  if behind.isEmpty || p.name.length ≤ behind.length + 1 then none else some behind

end Path

end Yuml
