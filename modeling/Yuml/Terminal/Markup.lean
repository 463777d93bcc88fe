import Yuml.Terminal.ActionValue
import Yuml.Terminal.Pictograph
import Yuml.Terminal.Style

/-!
# Markup

Text for the terminal is marked up with tags in brackets, such as `[bold]`, which are closed by
`[/bold]` or by `[/]`. What is between the brackets begins with a small letter or with one of `#`,
`/` and `@`; other brackets are text. A backslash in front of a tag makes it text as well, and two
backslashes in front of a tag stand for one.

* `escape` writes a text so that nothing in it is a tag.
* `plain?` is what is left when the tags are taken out and the pictographs are drawn. There is
  nothing left of markup that closes a tag which is not open, or that closes an action with a value
  that cannot be read.
-/

namespace Yuml.Terminal

/-! ## 1. Tags -/

/-- The characters that what is between the brackets of a tag begins with. -/
def opensTag (c : Char) : Bool := ('a' ≤ c && c ≤ 'z') || c == '#' || c == '/' || c == '@'

/-- What is between the brackets that a text begins with, if they are a tag. -/
def tagInside? : Text → Option Text
  | '[' :: r =>
    let inside := r.takeWhile fun c => c != '[' && c != ']'
    if inside.head?.any opensTag && (r.drop inside.length).head? = some ']' then some inside
    else none
  | _ => none

/-- The number of backslashes that a text begins with. -/
def backslashes (s : Text) : Nat := (s.takeWhile (· == '\\')).length

/-- The tag that a text begins with, as the number of the backslashes in front of it and what is
    between its brackets. -/
def tagAt? (s : Text) : Option (Nat × Text) :=
  (tagInside? (s.drop (backslashes s))).map fun inside => (backslashes s, inside)

/-! ## 2. Escaping -/

/-- The text with one backslash more than twice as many in front of every tag. `skip` counts the
    characters of a tag that have still to be copied. -/
def escapeTags : Nat → Text → Text
  | _, [] => []
  | skip + 1, c :: r => c :: escapeTags skip r
  | 0, c :: r =>
    match tagAt? (c :: r) with
    | some (n, inside) =>
      List.replicate (n + 1) '\\' ++ c :: escapeTags (n + inside.length + 1) r
    | none => c :: escapeTags 0 r

/-- The text written so that nothing in it is a tag. A lone backslash at the end is doubled, so
    that it does not escape a tag that may follow. -/
def escape (s : Text) : Text :=
  let s := escapeTags 0 s
  if Text.endsWith ['\\'] s && !Text.endsWith ['\\', '\\'] s then s ++ ['\\'] else s

/-! ## 3. Reading -/

/-- A tag: its name, and what stands behind an equals sign, if there is one. -/
structure Tag where
  name : Text
  value : Option Text
  deriving DecidableEq, Repr

/-- A piece of markup: text, the text of an escaped tag or of the backslashes in front of a tag, or
    a tag. -/
inductive Piece where
  | text (s : Text)
  | escaped (s : Text)
  | tag (t : Tag)
  deriving DecidableEq, Repr

/-- Put a character in front of the text that some pieces begin with. -/
def consToText (c : Char) : List Piece → List Piece
  | .text s :: r => .text (c :: s) :: r
  | r => .text [c] :: r

/-- The tag that is written between brackets. -/
def Tag.ofInside (inside : Text) : Tag :=
  let name := inside.takeWhile (· != '=')
  match inside.drop name.length with
  | [] => ⟨name, none⟩
  | _ :: value => ⟨name, some value⟩

/-- The pieces of a tag with some backslashes in front of it. -/
def piecesOfTag (n : Nat) (inside : Text) : List Piece :=
  (if n < 2 then [] else [.escaped (List.replicate (n / 2) '\\')]) ++
    [if n % 2 = 1 then .escaped ('[' :: (inside ++ [']'])) else .tag (Tag.ofInside inside)]

/-- The pieces of markup. `skip` counts the characters of a tag that have still to be passed
    over. -/
def piecesFrom : Nat → Text → List Piece
  | _, [] => []
  | skip + 1, _ :: r => piecesFrom skip r
  | 0, c :: r =>
    match tagAt? (c :: r) with
    | some (n, inside) => piecesOfTag n inside ++ piecesFrom (n + inside.length + 1) r
    | none => consToText c (piecesFrom 0 r)

/-- The text with no backslash in front of an opening bracket. -/
def bareBrackets : Text → Text
  | [] => []
  | [c] => [c]
  | c :: d :: r => if c = '\\' ∧ d = '[' then '[' :: bareBrackets r else c :: bareBrackets (d :: r)

/-- The tag of a name among open tags, and the others. -/
def takeOut? (name : Text) : List Tag → Option (Tag × List Tag)
  | [] => none
  | t :: ts =>
    if t.name = name then some (t, ts)
    else (takeOut? name ts).map fun x => (x.1, t :: x.2)

/-- The tag that a closing tag closes, and the others: the one that was opened last, or the last of
    those with the name that it gives. -/
def closed? (opened : List Tag) (name : Text) : Option (Tag × List Tag) :=
  if (Text.trim name).isEmpty then
    match opened with
    | [] => none
    | t :: ts => some (t, ts)
  else (canonical? (Text.trim name)).bind fun name => takeOut? name opened

/-- Whether a tag can be closed: an action only if its value can be read. -/
def Tag.isClosable (t : Tag) : Bool :=
  t.name.head? != some '@' || (t.value.getD []).isEmpty || isActionValue (t.value.getD [])

/-- The tags that are open after a further tag, the last of them first; nothing where the tag cannot
    be understood or closes nothing. -/
def follow? (opened : List Tag) (t : Tag) : Option (List Tag) :=
  match t.name with
  | '/' :: name =>
    (closed? opened name).bind fun (t, others) => if t.isClosable then some others else none
  | name => (canonical? name).map fun name => ⟨name, t.value⟩ :: opened

/-- The text of some pieces, with some tags open. -/
def plainOf? : List Tag → List Piece → Option Text
  | _, [] => some []
  | opened, .text s :: r | opened, .escaped s :: r =>
    (plainOf? opened r).map (draw (bareBrackets s) ++ ·)
  | opened, .tag t :: r => (follow? opened t).bind fun opened => plainOf? opened r

/-- What is left of markup when its tags are taken out. -/
def plain? (markup : Text) : Option Text := plainOf? [] (piecesFrom 0 markup)

end Yuml.Terminal
