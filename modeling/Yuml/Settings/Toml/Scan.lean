import Yuml.Settings.Toml.Basic
import Yuml.Text.WordChar

/-!
# Settings files: lines

A settings file is gone through once, character by character, before its lines are read
(`Scan.step`). This finds out which characters stand between quotes, in comments and in keys:

* a comment is replaced by blanks;
* a list that is open at the end of a line goes on in the next one;
* a text in quotes must end on its line, unless it stands in three quotes, where only a line feed
  right behind the opening quotes is taken away;
* the characters of a key are letters, digits, `-`, `_` and points, or anything between quotes.
-/

namespace Yuml.Toml

/-! ## 1. The state of a scan -/

/-- A heading that has not been closed: of a table, or of one more table of a list of them. -/
inductive Heading where
  | table
  | listed
  deriving DecidableEq, Repr

/-- Where the reading of a key stands: within one of its names, or behind one. -/
inductive KeyPart where
  | within
  | behind
  deriving DecidableEq, Repr

/-- Where the reading of a file stands between two characters: what has been read (last character
    first), the quote that is open, whether three quotes are, how many lists are open, whether the
    line has not begun yet, the heading or the key that is being read, whether a point has been read
    in that key, and whether a comment is being passed over. -/
structure Scan where
  read : Text
  quote : Option Char
  isLong : Bool
  depth : Int
  isFresh : Bool
  heading : Option Heading
  key : Option KeyPart
  isPointed : Bool
  inComment : Bool
  deriving DecidableEq, Repr

/-- At the beginning of a file. The characters of a file stand in a ring: in front of the first one
    stands the last one. -/
def Scan.start (file : Text) : Scan :=
  ⟨file.reverse, none, false, 0, true, none, none, false, false⟩

/-- The scan with one more character read. -/
def Scan.push (s : Scan) (c : Char) : Scan := { s with read := c :: s.read }

/-! ## 2. One character -/

/-- Whether a character is a quote that is not inside the other kind of quotes. -/
def Scan.isTurn (s : Scan) (c : Char) : Bool :=
  (c == '"' && s.quote != some '\'') || (c == '\'' && s.quote != some '"')

/-- The scan after a quote, which opens a text or closes it. Every third quote at a stretch opens or
    closes a text in three quotes; a double quote behind a backslash opens and closes nothing. -/
def Scan.turn (s : Scan) (c : Char) : Scan :=
  let run := min 2 (s.read.takeWhile (· == c)).length
  if c = '"' ∧ run ≠ 1 ∧ protects (s.read.drop run) then s
  else if run = 2 then { s with isLong := !s.isLong, quote := if s.isLong then none else some c }
  else { s with quote := if s.quote.isSome then none else some c }

/-- The scan after a bracket outside quotes, given the character behind it: it belongs to a heading
    at the beginning of a line, and to a list elsewhere. -/
def Scan.bracket (s : Scan) (c : Char) (next : Option Char) : Scan :=
  if s.quote.isSome then s
  else if c = '[' ∧ s.heading.isNone then
    if s.isFresh then { s with heading := if next = some '[' then some .listed else some .table }
    else { s with depth := s.depth + 1 }
  else if c = ']' then
    match s.heading with
    | some .table => { s with heading := none }
    | some .listed => if s.read.head? = some ']' then { s with heading := none } else s
    | none => { s with depth := s.depth - 1 }
  else s

/-- The scan after a line feed. -/
def Scan.endLine (s : Scan) : Except Malformed Scan :=
  let s := { s with inComment := false }
  if s.isLong then
    match s.read with
    | a :: b :: r =>
      if isQuote a ∧ b = a then
        .ok { s with read := a :: a :: b :: if r.head? = some a then ' ' :: r.drop 1 else r }
      else .ok (s.push '\n')
    | _ => .ok (s.push '\n')
  else if s.quote.isSome then .error .unreadable
  else if s.depth ≠ 0 then .ok (s.push ' ')
  else .ok { s.push '\n' with isFresh := true }

/-- Whether a character may stand in a key without quotes. -/
def isKeyChar (c : Char) : Bool := Text.isWordChar c || c == '-'

/-- Whether a key with points goes on with a further name behind a point or a blank, which the next
    character tells. -/
def goesOn (next : Option Char) : Except Malformed Bool :=
  match next with
  | some c => .ok (!Text.isBlank c && c != '.')
  | none => block .listEnds

/-- The scan after a character of a key, or after the equals sign behind it, given the character
    that follows. It fails where the character cannot stand there. -/
def Scan.stepKey (s : Scan) (part : KeyPart) (c : Char) (next : Option Char) :
    Except Malformed Scan :=
  let t := s.push c
  if c = '\n' then .error .unreadable
  else match s.quote, part with
    | some q, _ => .ok (if c = q then { t with quote := none, key := some .behind } else t)
    | none, .within =>
      if c = '=' then .ok { t with key := none, isPointed := false }
      else if c = '.' then .ok { t with isPointed := true }
      else if Text.isBlank c then .ok { t with key := some .behind }
      else if isKeyChar c then .ok t
      else if isQuote c ∧ s.isPointed ∧ s.read.head? = some '.' then .ok { t with quote := some c }
      else .error .unreadable
    | none, .behind =>
      if c = '=' then .ok { t with key := none, isPointed := false }
      else if c = '.' then do
        let part := if ← goesOn next then KeyPart.within else .behind
        return { t with isPointed := true, key := some part }
      else if Text.isBlank c then
        if s.isPointed then do
          return { t with key := some (if ← goesOn next then .within else .behind) }
        else .ok t
      else .error .unreadable

/-- The scan when a line begins, or goes on, with a character: a line that is no heading begins with
    a key. -/
def Scan.begin (s : Scan) (c : Char) : Except Malformed Scan :=
  if !s.isFresh ∨ c = ' ' ∨ c = '\t' then .ok s
  else if s.heading.isSome then .ok { s with isFresh := false }
  else if c = '=' then .error .unreadable
  else .ok { s with isFresh := false, key := some .within }

/-- The scan after a character, given the one behind it. It fails where the file is malformed. -/
def Scan.step (s : Scan) (c : Char) (next : Option Char) : Except Malformed Scan :=
  match s.key with
  | some part => s.stepKey part c next
  | none =>
    if c = '\n' then s.endLine
    else if s.inComment then .ok (s.push ' ')
    else if c = '#' ∧ s.quote.isNone ∧ s.heading.isNone then
      .ok { s.push ' ' with inComment := true }
    else
      let t := if s.isTurn c then s.turn c else s.bracket c next
      (t.begin c).map (·.push c)

/-! ## 3. Lines -/

/-- The scan after a text. -/
def scanFrom (s : Scan) : Text → Except Malformed Scan
  | [] => .ok s
  | c :: r =>
    match s.step c r.head? with
    | .ok t => scanFrom t r
    | .error e => .error e

/-- The lines of a file, in which comments are blank and lists do not run over. It fails where a
    text or a key has not ended. -/
def lines (file : Text) : Except Malformed (List Text) := do
  let t ← scanFrom (.start file) file
  if t.key.isSome ∨ t.quote.isSome then throw .unreadable
  return Text.splitAt '\n' (t.read.take file.length).reverse

end Yuml.Toml
