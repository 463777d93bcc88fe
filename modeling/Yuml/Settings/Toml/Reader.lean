import Yuml.Settings.Toml.Field
import Yuml.Settings.Toml.Scan

/-!
# Settings files: reading

`Toml.read` goes through the lines of a file with the fields read so far (`Reading.line`):

* a heading opens a table, in which the fields behind it lie; a table is opened only once, but one
  that is there only because a table inside it has been opened may still be opened itself;
* a heading in two brackets opens one more table of a list of tables;
* a field is added to the table that is open; its key must not be taken;
* fields between braces on a line of their own are added like fields;
* a text in three quotes goes on until a line ends in three quotes.
-/

namespace Yuml.Toml

/-! ## 1. Headings -/

/-- Whether a name may stand in a heading without quotes. -/
def isPlainName (s : Text) : Bool :=
  !s.isEmpty && s.all fun c => c.isAlphanum || c == '_' || c == '-'

/-- The name in quotes at the front of the pieces of a heading between points, and the pieces behind
    it: as many pieces as it takes for the text to end with the quote that it begins with. -/
def nameInQuotes? (sofar : Text) : List Text → Option (Text × List Text)
  | [] =>
    let s := Text.trim sofar
    if 1 < s.length ∧ s.getLast? = s.head? then some (Text.inside s, []) else none
  | p :: ps =>
    let s := Text.trim sofar
    if 1 < s.length ∧ s.getLast? = s.head? then some (Text.inside s, p :: ps)
    else nameInQuotes? (sofar ++ '.' :: p) ps

/-- The names in a heading, given its pieces between points. -/
def namesIn? : (tries : Nat) → List Text → Option (List Text)
  | 0, _ => none
  | _, [] => some []
  | tries + 1, p :: ps =>
    let s := Text.trim p
    if s.head?.any isQuote then do
      let (name, ps) ← nameInQuotes? s ps
      return name :: (← namesIn? tries ps)
    else if isPlainName s then (namesIn? tries ps).map (s :: ·)
    else none

/-- The path that a heading gives, without the brackets in front of it. -/
def pathOf? (closing : Text) (s : Text) : Option (List Text) :=
  let count := marksInQuotes closing false (quotePieces s) + 1
  let pieces := Text.splitOnText closing s
  if pieces.length ≤ count then none
  else if !(Text.trim (Text.joinWith closing (pieces.drop count))).isEmpty then none
  else
    let names := Text.splitAt '.' (Text.joinWith closing (pieces.take count))
    namesIn? (names.length + 1) names

/-- What a heading has opened: the value around it with all that it has made, the names of the
    tables that are there only by implication, and the route to what is open. -/
structure Opened where
  around : Value
  implied : List Text
  route : List Step

/-- What has been opened inside a field of a table, or inside the last item of a list. -/
def Opened.inside (o : Opened) (around : Value → Value) (step : Step) : Opened :=
  { o with around := around o.around, route := step :: o.route }

/-- Go on from a value: for a heading in two brackets (`isListed`) a list stands for its last
    item, and only tables, lists and texts have something inside. -/
def enter (isListed : Bool) (go : Value → Except Malformed Opened) (v : Value) :
    Except Malformed Opened :=
  if !isListed then go v
  else match v with
    | .table _ _ => go v
    | .list vs =>
      match vs.getLast? with
      | some w => (go w).map fun o => o.inside (fun w => .list (putLast vs w)) .last
      | none => block .listEnds
    | .text s =>
      match s.getLast? with
      | some c => go (.text [c])
      | none => block .textEnds
    | .halfText => go .halfText
    | v => block (.noParts v.kind)

/-- A table, or a list of one table. -/
def emptyTable (isListed : Bool) : Value :=
  if isListed then .list [.table false []] else .table false []

/-- What stands under the last name of a heading, if something does, when the heading opens it: a
    table that is there by implication, or a list with one more table. -/
def reopen (isListed isImplied : Bool) (v : Value) : Except Malformed Value :=
  if isImplied then if isListed then .error .unreadable else .ok v
  else if !isListed then .error .unreadable
  else match v with
    | .list vs => .ok (.list (vs ++ [.table false []]))
    | v => block (.noList v.kind)

/-- Open the table at a path, from a value. In a list the last item stands for the list, and there a
    table may be opened again. -/
def openAt (isListed : Bool) (implied : List Text) : (path : List Text) → Value →
    Except Malformed Opened
  | [], v => .ok ⟨v, implied, []⟩
  | p :: path, v =>
    let into := fun (inBraces : Bool) (fields : Fields) (implied : List Text) (v : Value) =>
      (enter isListed (fun v => openAt isListed implied path v) v).map fun o =>
        o.inside (fun v => .table inBraces (put fields p v)) (.field p)
    if p.isEmpty then .error .unreadable
    else match v with
      | .table inBraces fields =>
        match get? fields p with
        | none =>
          into inBraces fields (if path.isEmpty then implied else implied ++ [p])
            (emptyTable (path.isEmpty && isListed))
        | some v =>
          if path.isEmpty then do
            let v ← reopen isListed (implied.contains p) v
            into inBraces fields (implied.erase p) v
          else into inBraces fields implied v
      | .list vs =>
        match vs.getLast? with
        | none => block .listEnds
        | some (.table inBraces fields) =>
          let v := (get? fields p).getD (emptyTable (path.isEmpty && isListed))
          (into inBraces fields implied v).map fun o =>
            o.inside (fun v => .list (putLast vs v)) .last
        | some v => block (obstacleTo p v)
      | .text s =>
        match s.getLast? with
        | none => block .textEnds
        | some c => block (obstacleTo p (.text [c]))
      | .halfText => block (obstacleTo p .halfText)
      | v => block (.noParts v.kind)

/-! ## 2. Lines -/

/-- Where the reading of the lines of a file stands: the table of all that has been read, the route
    to the value that is open, the names of tables that are there only by implication, and a text
    that has not ended. -/
structure Reading where
  all : Value
  route : List Step
  implied : List Text
  openText : Option OpenText

/-- At the beginning of a file. -/
def Reading.start : Reading := ⟨.table false [], [], [], none⟩

/-- Read a heading, without its first bracket. -/
def Reading.heading (r : Reading) (s : Text) : Except Malformed Reading := do
  let (isListed, closing, s) := match s with
    | '[' :: s => (true, "]]".toList, s)
    | s => (false, [']'], s)
  let path ← orUnreadable (pathOf? closing s)
  let o ← openAt isListed r.implied path r.all
  return { r with all := o.around, route := o.route, implied := o.implied }

/-- The value that is open. -/
def Reading.here (r : Reading) : Except Malformed Value :=
  orUnreadable (valueAt? r.route r.all)

/-- The reading with the value that is open replaced. -/
def Reading.setHere (r : Reading) (v : Value) : Reading := { r with all := setAt v r.route r.all }

/-- Read a field into the value that is open. -/
def Reading.field (r : Reading) (s : Text) : Except Malformed Reading := do
  let (v, openText) ← fieldInto (room s) (← r.here) s
  return { r.setHere v with openText := openText }

/-- Read fields between braces into the value that is open. -/
def Reading.braces (r : Reading) (s : Text) : Except Malformed Reading := do
  if s.getLast? ≠ some '\x7d' then throw .unreadable
  let pieces ← fieldPieces (Text.inside s)
  return r.setHere (← fieldsInto (room s) (← r.here) pieces)

/-- Read a line that is not inside a text over several lines. -/
def Reading.freshLine (r : Reading) (s : Text) : Except Malformed Reading :=
  match s with
  | '[' :: s => r.heading s
  | '\x7b' :: _ => r.braces s
  | s => if s.contains '=' then r.field s else .ok r

/-- Whether the value that a text over several lines belongs to ends with a line: a list with a
    bracket, a text with three quotes. -/
def OpenText.ends (t : OpenText) (line : Text) : Except Malformed Bool :=
  match t.sofar.head?, line.getLast? with
  | some '[', none => block .textEnds
  | some '[', some c => .ok (c = ']')
  | some quote, _ => .ok (endsInThree quote line)
  | none, _ => .ok false

/-- Read a line on which a text goes on. When its value ends, it is put under its key in the value
    that is open. -/
def Reading.goOn (r : Reading) (t : OpenText) (line : Text) : Except Malformed Reading := do
  if line.isEmpty ∧ t.joins then return r
  let sofar := t.sofar ++ line
  if ← t.ends line then
    let v ← value (room sofar) true sofar
    match ← r.here with
    | .table inBraces fields =>
      return { r.setHere (.table inBraces (put fields t.key v)) with openText := none }
    | _ => throw .unreadable
  else return { r with openText := some (.ofLine t.key sofar) }

/-- Read a line. The blanks around it do not matter, except inside a text in which a line has
    ended. -/
def Reading.line (r : Reading) (s : Text) : Except Malformed Reading :=
  match r.openText with
  | none => r.freshLine (Text.trim s)
  | some t => r.goOn t (if t.joins ∨ !t.sofar.contains '\n' then Text.trim s else s)

/-- The fields of a settings file. -/
def read (s : Text) : Except Malformed Fields := do
  let r ← (← lines s).foldlM Reading.line .start
  match r.all with
  | .table _ fields => return fields
  | _ => throw .unreadable

end Yuml.Toml
