import Yuml.Event
import Yuml.Fault
import Yuml.Text.WordChar

/-!
# Directives: the header of a document

A line that begins with `//` is a comment. A comment of the form `// {key:value}`, with key and
value single words, is a DIRECTIVE and sets an option. Three keys are known; a known key refuses a
value that it does not accept, and an unknown key is passed over.
-/

namespace Yuml

/-- A key and the value that a comment gives it. -/
structure Directive where
  key : Text
  value : Text
  deriving DecidableEq, Repr

namespace Directive

/-! ## 1. Reading -/

/-- Whether the line is a comment. -/
def isComment (line : Text) : Bool := Text.startsWith "//".toList line

/-- The rest of a text behind a character, with the white space around that character passed
    over. -/
def skip? (c : Char) (s : Text) : Option Text :=
  match Text.trimStart s with
  | [] => none
  | d :: r => if d = c then some (Text.trimStart r) else none

/-- The word at the front of a text, and the rest. -/
def word? (s : Text) : Option (Text × Text) :=
  let word := s.takeWhile Text.isWordChar
  if word.isEmpty then none else some (word, s.drop word.length)

/-- The directive of a comment line, if it is one. White space around the line does not count; at
    least one blank stands between the slashes and the brace. -/
def ofLine? (line : Text) : Option Directive := do
  let s := Text.trim line
  if !isComment s then none
  let r := s.drop 2
  if !(r.head?.any Text.isBlank) then none
  let r ← skip? '{' r
  let (key, r) ← word? r
  let r ← skip? ':' r
  let (value, r) ← word? r
  if Text.trimStart r = ['}'] then some ⟨key, value⟩ else none

/-! ## 2. Effect -/

/-- The truth values that a header may write. -/
def flag? (s : Text) : Option Bool :=
  if s = "true".toList then some true
  else if s = "false".toList then some false
  else none

/-- The options after a directive. A known key with a value that it does not accept is a fault. -/
def apply (d : Directive) (o : Options) : Except Fault Options :=
  if d.key = "type".toList then
    match ChartType.ofName? d.value with
    | some t => .ok { o with chartType := some t }
    | none => .error (.directive d.key d.value)
  else if d.key = "direction".toList then
    match Direction.ofName? d.value with
    | some x => .ok { o with direction := x }
    | none => .error (.directive d.key d.value)
  else if d.key = "generate".toList then
    match flag? d.value with
    | some b => .ok { o with generate := b }
    | none => .error (.directive d.key d.value)
  else .ok o

/-- The keys that set an option. -/
def knownKeys : List Text := ["type".toList, "direction".toList, "generate".toList]

/-- What is reported when a directive is applied: an unknown key is passed over. -/
def events (d : Directive) : List Event :=
  if d.key ∈ knownKeys then [] else [.directiveIgnored d.key d.value]

/-- What is reported while directives are applied one after the other: nothing any more after the
    first that is refused. -/
def eventsOf : List Directive → Options → List Event
  | [], _ => []
  | d :: ds, o =>
    match d.apply o with
    | .ok o' => d.events ++ eventsOf ds o'
    | .error _ => []

/-! ## 3. In place -/

/-- A directive as a step on options that the caller keeps. What a step assigns before it fails would
    stay assigned. -/
def update (d : Directive) : ExceptT Fault (StateM Options) Unit := do
  if d.key = "type".toList then
    let some type := ChartType.ofName? d.value | throw (.directive d.key d.value)
    modify fun o => { o with chartType := some type }
  else if d.key = "direction".toList then
    let some direction := Direction.ofName? d.value | throw (.directive d.key d.value)
    modify fun o => { o with direction }
  else if d.key = "generate".toList then
    let some generate := flag? d.value | throw (.directive d.key d.value)
    modify fun o => { o with generate }

/-- Whether the step on these options fails, and the options after it. -/
def step (d : Directive) (o : Options) : Except Fault Unit × Options := d.update.run.run o

/-- One step after the other on the same options, going on after those that fail: what each gives. -/
def trace : List Directive → Options → List (Except Fault Unit × Options)
  | [], _ => []
  | d :: ds, o => d.step o :: trace ds (d.step o).2

/-! ## 4. Headers -/

/-- The directives among the lines, in order. -/
def ofLines (lines : List Text) : List Directive :=
  (lines.filter isComment).filterMap ofLine?

end Directive

/-- The options that the comments among the lines set, one directive after the other. -/
def Options.ofLines (lines : List Text) (dark : Bool) : Except Fault Options :=
  (Directive.ofLines lines).foldlM (fun o d => d.apply o) (Options.default dark)

end Yuml
