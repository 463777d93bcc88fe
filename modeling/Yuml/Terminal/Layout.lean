import Yuml.Terminal.Cells
import Yuml.Terminal.Markup

/-!
# Layout: lines and tables of a certain width

A text is laid out on a terminal of so many cells. A line that is too long is broken before a word;
a word that is too long for any line is folded. The white space between two words stays with the
first of them, and where it does not fit at the end of a line it is dropped.
-/

namespace Yuml.Terminal

/-! ## 1. Characters that move the cursor -/

/-- The control characters that are taken out of a text. -/
def silenced : List Char := ['\x07', '\x08', '\x0b', '\x0c', '\x0d']

/-- The distance of two tab stops. -/
def tabStop : Nat := 8

/-- The pieces of a line that has been cut at its tabs, joined again with a space in place of each
    tab, and with more spaces up to the next stop; `column` is where the first piece begins. -/
def untabFrom : (column : Nat) → List Text → Text
  | _, [] => []
  | _, [p] => p
  | column, p :: q :: ps =>
    let reached := column + width (p ++ [' '])
    let gap := (tabStop - reached % tabStop) % tabStop
    p ++ ' ' :: (List.replicate gap ' ' ++ untabFrom (reached + gap) (q :: ps))

/-- A line with spaces up to the next stop in place of each tab. -/
def untab (line : Text) : Text := untabFrom 0 (Text.splitAt '\t' line)

/-! ## 2. Breaking lines -/

/-- Put a text in front of the first of some pieces. -/
def appendToPiece (s : Text) : List Text → List Text
  | [] => [s]
  | p :: ps => (s ++ p) :: ps

/-- The words of a line, each with the white space behind it, and the first one with the white space
    in front of it too. `begun` says that a word has begun, `gap` that white space came last. -/
def wordsFrom : (begun gap : Bool) → Text → List Text
  | _, _, [] => [[]]
  | begun, gap, c :: r =>
    if begun && gap && !Text.isBlank c then [] :: appendToPiece [c] (wordsFrom true false r)
    else appendToPiece [c] (wordsFrom (begun || !Text.isBlank c) (Text.isBlank c) r)

/-- Clusters in pieces that fit into lines of some cells; the first of them begins at a column. -/
def foldFrom (room : Nat) : (column : Nat) → List Cluster → List Text
  | _, [] => [[]]
  | column, c :: cs =>
    if room < column + c.cells then [] :: appendToPiece c.text (foldFrom room c.cells cs)
    else appendToPiece c.text (foldFrom room (column + c.cells) cs)

/-- A word in pieces that fit into lines of some cells. -/
def fold (room : Nat) (word : Text) : List Text := foldFrom room 0 (clusters word)

/-- The line, unless it is empty. -/
def lineOf (line : Text) : List Text := if line.isEmpty then [] else [line]

/-- Lay words out in lines of some cells, behind what a line holds so far. -/
def place (room : Nat) : (line : Text) → List Text → List Text
  | line, [] => [line]
  | line, word :: more =>
    if width line + width (Text.trimEnd word) ≤ room then place room (line ++ word) more
    else if width (Text.trimEnd word) ≤ room then lineOf line ++ place room word more
    else
      let pieces := fold room word
      lineOf line ++ pieces.dropLast ++ place room (pieces.getLast?.getD []) more

/-! Breaking a line moves nothing and loses nothing: the pieces in order are the line. -/

theorem flatten_appendToPiece (s : Text) (ps : List Text) :
    (appendToPiece s ps).flatten = s ++ ps.flatten := by
  cases ps <;> simp [appendToPiece]

theorem flatten_wordsFrom (begun gap : Bool) (s : Text) : (wordsFrom begun gap s).flatten = s := by
  induction s generalizing begun gap with
  | nil => rfl
  | cons c r ih =>
    unfold wordsFrom
    split <;> simp [flatten_appendToPiece, ih]

theorem flatten_foldFrom (room column : Nat) (cs : List Cluster) :
    (foldFrom room column cs).flatten = Cluster.joined cs := by
  induction cs generalizing column with
  | nil => rfl
  | cons c cs ih =>
    unfold foldFrom
    split <;> simp [flatten_appendToPiece, ih, Cluster.joined]

theorem foldFrom_ne_nil (room column : Nat) (cs : List Cluster) : foldFrom room column cs ≠ [] := by
  cases cs with
  | nil => simp [foldFrom]
  | cons c cs =>
    unfold foldFrom
    split
    · simp
    · cases foldFrom room (column + c.cells) cs <;> simp [appendToPiece]

theorem flatten_fold (room : Nat) (word : Text) : (fold room word).flatten = word := by
  rw [fold, flatten_foldFrom, joined_clusters]

theorem flatten_lineOf (line : Text) : (lineOf line).flatten = line := by
  cases line <;> simp [lineOf]

theorem flatten_place (room : Nat) (line : Text) (words : List Text) :
    (place room line words).flatten = line ++ words.flatten := by
  induction words generalizing line with
  | nil => simp [place]
  | cons word more ih =>
    unfold place
    split
    · simp [ih]
    · split
      · simp [ih, flatten_lineOf]
      · have hne : fold room word ≠ [] := foldFrom_ne_nil room 0 (clusters word)
        have hlast : (fold room word).getLast?.getD [] = (fold room word).getLast hne := by
          rw [List.getLast?_eq_some_getLast hne]; rfl
        have hall := congrArg List.flatten (List.dropLast_concat_getLast hne)
        rw [List.flatten_append, List.flatten_singleton, flatten_fold] at hall
        simp only [List.flatten_append, List.flatten_cons, flatten_lineOf, ih, hlast,
          List.append_assoc]
        rw [← List.append_assoc (List.flatten _), hall]

/-- A line without the white space at its end that has no room. -/
def dropExcess (room : Nat) (line : Text) : Text :=
  let blanks := (line.reverse.takeWhile Text.isBlank).length
  line.take (line.length - min blanks (line.length - room))

/-- The lines that a line is broken into. -/
def breakLine (room : Nat) (line : Text) : List Text :=
  (if line.all Text.isBlank then [line] else place room [] (wordsFrom false false line)).map
    (dropExcess room)

/-- The lines of a text on a terminal of some cells. -/
def linesOf (room : Nat) (s : Text) : List Text :=
  (Text.splitAt '\n' s).flatMap fun line => breakLine room (untab line)

/-! ## 3. Texts -/

/-- Marked up text as it is shown on a terminal of some cells, with a line feed behind it. -/
def shown? (room : Nat) (markup : Text) : Option Text :=
  (plain? markup).map fun s =>
    let lines := linesOf room (s.filter fun c => !silenced.contains c)
    Text.joinWith ['\n'] (lines.map (cutTo room)) ++ ['\n']

/-- A line in the middle of some cells; where the room at its two sides cannot be the same, there is
    more behind it. -/
def centred (room : Nat) (line : Text) : Text :=
  let line := cutTo room (Text.trimEnd line)
  let gap := room - width line
  List.replicate (gap / 2) ' ' ++ line ++ List.replicate (gap - gap / 2) ' '

/-- Marked up text in the middle of some cells. -/
def shownCentred? (room : Nat) (markup : Text) : Option Text :=
  (plain? markup).map fun s =>
    let lines := linesOf room (s.filter fun c => !silenced.contains c)
    Text.joinWith ['\n'] (lines.map (centred room)) ++ ['\n']

/-! ## 4. Tables -/

/-- The larger of the numbers at each place of two lists; what only one of them has stays. -/
def maxima : List Nat → List Nat → List Nat
  | [], ns | ns, [] => ns
  | m :: ms, n :: ns => max m n :: maxima ms ns

/-- The widths of the columns of some rows. -/
def columnWidths (rows : List (List Text)) : List Nat :=
  rows.foldl (fun ws row => maxima ws (row.map width)) []

/-- The width of a table: that of its cells, with a space at both sides of each, and of the lines
    between and around them. -/
def tableWidth (columns : List Nat) : Nat := columns.foldl (fun total w => total + (w + 3)) 1

/-- A line of a table that holds no cells. -/
def rule (left middle right : Char) (columns : List Nat) : Text :=
  left :: (Text.joinWith [middle] (columns.map fun w => List.replicate (w + 2) '─') ++ [right])

/-- A line of a table that holds the cells of a row. -/
def rowLine (columns : List Nat) (row : List Text) : Text :=
  let cell := fun (w : Nat) (s : Text) => ' ' :: (s ++ List.replicate (w - width s + 1) ' ')
  '│' :: (Text.joinWith ['│'] (columns.zipWith cell row) ++ ['│'])

/-- Some rows in a frame, below a title in the middle. -/
def table? (title : Text) (rows : List (List Text)) : Option Text :=
  let columns := columnWidths rows
  let lines :=
    [rule '┌' '┬' '┐' columns] ++ rows.map (rowLine columns) ++ [rule '└' '┴' '┘' columns]
  (shownCentred? (tableWidth columns) title).map (· ++ lines.flatMap (· ++ ['\n']))

end Yuml.Terminal
