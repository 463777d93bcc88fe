import Yuml.Settings.Toml.Number
import Yuml.Settings.Toml.Quoted

/-!
# Settings files: fields and their values

A field is written `key = value`. Where an equals sign stands behind another one, the field is cut
at the first behind which something stands that looks like a value (`cutField?`). Points cut a key
into the names of tables, each inside the one before it, and the name of the field.

A value may be a list of values of one kind, or a table between braces; both are cut at their commas
before it is known what their pieces are, and pieces that a comma has cut wrongly are put together
again (`joinTexts`, `joinFields`).
-/

namespace Yuml.Toml

/-! ## 1. Where a field is cut -/

/-- The pieces of a text in front of its first double quote, cut at single quotes: a double quote
    between two of them cuts nothing, and a piece behind it belongs to the text. -/
def firstPieces : (pieces : List Text) → (more : List Text) → List Text × List Text
  | pieces, [] => (pieces, [])
  | pieces, m :: more =>
    if pieces.length % 2 = 0 then
      firstPieces (pieces.dropLast ++ Text.splitAt '\'' (pieces.getLast?.getD [] ++ '"' :: m)) more
    else (pieces, m :: more)

/-- The pieces of a text between its quotes, in turn outside and inside. Behind the first double
    quote, single quotes cut nothing. -/
def quotePieces (s : Text) : List Text :=
  match Text.splitAt '"' s with
  | [] => []
  | [p] => Text.splitAt '\'' p
  | p :: ps =>
    if p.contains '\'' then
      match firstPieces (Text.splitAt '\'' p) ps with
      | (pieces, []) => pieces
      | (pieces, m :: more) => pieces ++ Text.splitAt '\'' m ++ more
    else p :: ps

/-- How often a mark stands in the pieces in front of the first one outside quotes that has it. -/
def marksInQuotes (mark : Text) : (isQuoted : Bool) → List Text → Nat
  | _, [] => 0
  | isQuoted, p :: ps =>
    if !isQuoted && Text.occursIn mark p then 0
    else (Text.splitOnText mark p).length - 1 + marksInQuotes mark (!isQuoted) ps

/-- Whether what stands behind an equals sign looks like a value. -/
def looksLikeValue (s : Text) : Bool :=
  match s with
  | [] => true
  | c :: _ =>
    [' ', '\t', '"', '\'', '[', '\x7b'].contains c ||
      ["true".toList, "false".toList].contains (Text.trim s) ||
      looksLikeNumber s || isDate s || beginsLikeTime s

/-- Cut a field at the first equals sign behind which something stands that looks like a value,
    given the pieces between equals signs. `proper` says that the number behind every sign so far is
    grouped and padded as it may be. What stands behind the first sign (`isFirst`) and begins with a
    digit is taken without its low lines. -/
def cutAt? (isFirst proper : Bool) (key : Text) : List Text → Option (Text × Text × Bool)
  | [] => none
  | p :: ps =>
    let rest := Text.joinWith ['='] (p :: ps)
    let proper := proper && isProper (Text.trim rest)
    let rest := if isFirst && rest.head?.any Char.isDigit then rest.filter (· != '_') else rest
    if looksLikeValue rest then some (Text.trim key, Text.trim rest, proper)
    else cutAt? false proper (key ++ '=' :: p) ps

/-- The key and the value of a field, and whether the value, if it is a number, is grouped and
    padded as it may be. -/
def cutField? (s : Text) : Option (Text × Text × Bool) :=
  let pieces := Text.splitAt '=' s
  let skipped := min (marksInQuotes ['='] false (quotePieces s) + 1) (pieces.length - 1)
  cutAt? true true (Text.joinWith ['='] (pieces.take skipped)) (pieces.drop skipped)

/-- The names in a key with points, given its pieces between quotes. -/
def namesFrom : (isQuoted : Bool) → List Text → List Text
  | _, [] => []
  | true, p :: ps => p :: namesFrom false ps
  | false, p :: ps => (Text.splitAt '.' p).map Text.trim ++ namesFrom true ps

/-- The tables that a key names, and the name of the field in them. -/
def cutKey (key : Text) : Except Malformed (List Text × Text) :=
  if key.contains '.' then
    let names := if key.any isQuote then namesFrom false (quotePieces key) else Text.splitAt '.' key
    match names.reverse.dropWhile List.isEmpty with
    | [] => block .listEnds
    | name :: outer => .ok (outer.reverse.filter fun p => !p.isEmpty, Text.trim name)
  else match key with
    | [] => block .textEnds
    | c :: _ =>
      .ok ([], if isQuote c ∧ key.getLast? = some c then Text.inside key else key)

/-! ## 2. Texts over several lines -/

/-- A text in three quotes that has not ended on its line: the key it belongs to, what has been read
    of its value, and whether the next line goes on where the last one ends. -/
structure OpenText where
  key : Text
  sofar : Text
  joins : Bool

/-- A text that goes on behind a line. If a backslash stands at the end of the line, it is taken
    away, and the next line goes on there. -/
def OpenText.ofLine (key sofar : Text) : OpenText :=
  if endsProtecting sofar then ⟨key, sofar.dropLast, true⟩ else ⟨key, sofar ++ ['\n'], false⟩

/-- Whether a list, given what stands between its brackets, is one of texts. -/
def isTextList (s : Text) : Bool := (Text.trim s).head?.any isQuote

/-- The last text of a list of texts, given its last piece between commas and the other pieces, the
    last of them first: a text that a comma has cut is put together again. -/
def lastText (p : Text) : List Text → Except Malformed Text
  | [] => .ok p
  | q :: ps =>
    match p with
    | [] => block .textEnds
    | c :: _ => if isQuote c then .ok p else lastText (q ++ ',' :: p) ps

/-- Whether a text ends in three quotes of a kind. -/
def endsInThree (quote : Char) (s : Text) : Bool := Text.endsWith [quote, quote, quote] s

/-- Whether a text in three quotes begins but does not end. A shorter text than three quotes is cut
    short. -/
def isOpenText (s : Text) : Except Malformed Bool :=
  match s with
  | [] => block .textEnds
  | a :: r =>
    if !isQuote a then .ok false
    else match r with
      | [] => block .textEnds
      | b :: r =>
        if b ≠ a then .ok false
        else match r with
          | [] => block .textEnds
          | c :: _ => .ok (c = a && !(5 < s.length && endsInThree a s))

/-- Whether a value goes on behind its line: a text in three quotes, or a list of texts that is not
    closed and ends in such a text. -/
def runsOn (s : Text) : Except Malformed Bool :=
  if s.length < 3 then .ok false
  else if s.head? = some '[' ∧ s.getLast? ≠ some ']' ∧ isTextList (Text.inside s) then
    match (Text.splitAt ',' (Text.trim (s.drop 1))).reverse with
    | [] => .ok false
    | p :: ps => do isOpenText (← lastText p ps)
  else isOpenText s

/-! ## 3. Lists -/

/-- Whether a text begins and ends with the same character, and the last one is not protected. -/
def isBounded (s : Text) : Bool :=
  s.isEmpty || (s.head? == s.getLast? && !endsProtecting (s.drop 1).dropLast)

/-- Whether a text begins with three quotes and does not end in two. -/
def isCutOpen (s : Text) : Bool :=
  match s, s.reverse with
  | a :: b :: c :: _, _ :: y :: z :: _ => b == a && c == a && y != a && z != a
  | _, _ => false

/-- Whether no comma has cut a text. -/
def isWhole (s : Text) : Bool := isBounded (Text.trim s) && !isCutOpen (Text.trim s)

/-- Pieces of a list of texts: a text that a comma has cut is put together again. `isJoined` says
    that the first piece has been put together, so that it must end as a text. -/
def joinTexts : (isJoined : Bool) → List Text → Except Malformed (List Text)
  | _, [] => .ok []
  | isJoined, [p] => if isJoined && !isWhole p then block .listEnds else .ok [p]
  | _, p :: q :: ps =>
    if isWhole p then (joinTexts false (q :: ps)).map (p :: ·)
    else joinTexts true ((p ++ ',' :: q) :: ps)
termination_by _ ps => ps.length

/-- The pieces of a list of lists, cut at the commas outside inner brackets. -/
def listsFrom (depth : Int) (piece : Text) : Text → List Text
  | [] => [piece.reverse]
  | c :: r =>
    if c = ',' ∧ depth = 0 then piece.reverse :: listsFrom depth [] r
    else
      let deeper := if c = '[' then depth + 1 else if c = ']' then depth - 1 else depth
      listsFrom deeper (c :: piece) r

/-- The tables in a list of tables. Between them everything is passed over, first of all one
    character behind each; `piece` is what has been read of a table, last character first. -/
def tablesFrom (depth : Nat) (inText isBehind : Bool) (piece : Text) : Text → List Text
  | [] => []
  | c :: r =>
    if isBehind then tablesFrom 0 false false [] r
    else if depth = 0 then
      if c = '\x7b' then tablesFrom 1 false false [c] r else tablesFrom 0 false false [] r
    else if isQuote c then tablesFrom depth (!inText || protects piece) false (c :: piece) r
    else if inText then tablesFrom depth true false (c :: piece) r
    else if c = '\x7b' then tablesFrom (depth + 1) false false (c :: piece) r
    else if c ≠ '\x7d' then tablesFrom depth false false (c :: piece) r
    else if 1 < depth then tablesFrom (depth - 1) false false (c :: piece) r
    else (c :: piece).reverse :: tablesFrom 0 false true [] r

/-- The pieces of a list, given what stands between its brackets. -/
def listPieces (s : Text) : Except Malformed (List Text) :=
  if s.contains '[' && (Text.trim (s.takeWhile (· != '['))).isEmpty then .ok (listsFrom 0 [] s)
  else if (Text.trim s).head? = some '\x7b' then .ok (tablesFrom 0 false false [] s)
  else if isTextList s then joinTexts false (Text.splitAt ',' s)
  else .ok (Text.splitAt ',' s)

/-- Whether two values may stand in one list. -/
def sameKind : Value → Value → Bool
  | .date _, .date _ => true
  | v, w => v.kind == w.kind

/-! ## 4. Tables between braces -/

/-- Whether a value in a table between braces is complete: a text, a number or a date, a truth
    value, a list or a table. -/
def isComplete (s : Text) : Bool :=
  match s.head?, s.getLast? with
  | some a, some z =>
    (isQuote a && z == a) || a == '-' || a.isDigit || s == "true".toList || s == "false".toList ||
      (a == '[' && z == ']') || (a == '\x7b' && z == '\x7d')
  | _, _ => false

/-- The fields of a table between braces: a value that a comma has cut is put together again. -/
def joinFields : (ps : List Text) → Except Malformed (List Text)
  | [] => .ok []
  | p :: ps =>
    if !p.contains '=' then .error .unreadable
    else
      let v := Text.trim ((p.dropWhile (· != '=')).drop 1)
      if v.isEmpty then block .textEnds
      else if isComplete v then (joinFields ps).map (p :: ·)
      else match ps with
        | [] => .error .unreadable
        | q :: qs => joinFields ((p ++ ',' :: q) :: qs)
termination_by ps => ps.length

/-- The fields between the braces of a table. -/
def fieldPieces (s : Text) : Except Malformed (List Text) :=
  if (Text.trim s).isEmpty then .ok [] else joinFields (Text.splitAt ',' s)

/-! ## 5. Where a field goes -/

/-- The obstacle to looking for a name in a value that is no table. -/
def obstacleTo (name : Text) : Value → Obstacle
  | .text s => if Text.occursIn name s then .nameInText else .nameOutsideText
  | .halfText => .nameOutsideText
  | .list _ => .nameInList
  | v => .noNames v.kind

/-- Go through the tables that a key names, from the value that is open; a table that is not there
    is made later. -/
def reach : (path : List Text) → Value → Except Malformed Unit
  | [], _ => .ok ()
  | p :: path, .table _ fields =>
    match get? fields p with
    | some v => reach path v
    | none => .ok ()
  | p :: _, v => block (obstacleTo p v)

/-- Put a field into the table that its key names, where the name must not be taken. Of a text that
    goes on behind its line nothing is put there yet. -/
def addAt (key : Text) (content : Option Value) : (path : List Text) → Value →
    Except Malformed Value
  | [], .table inBraces fields =>
    if (get? fields key).isSome then .error .unreadable
    else match content with
      | some v => .ok (.table inBraces (fields ++ [(key, v)]))
      | none => if key.isEmpty then block .noKey else .ok (.table inBraces fields)
  | p :: path, .table inBraces fields => do
    let inner := (get? fields p).getD (.table false [])
    return .table inBraces (put fields p (← addAt key content path inner))
  | _, _ => .error .unreadable

/-! ## 6. Values -/

mutual

/-- A value; `proper` says that a number is grouped and padded as it may be, and `fuel` bounds how
    deep lists and tables are nested. -/
def value (fuel : Nat) (proper : Bool) (s : Text) : Except Malformed Value :=
  match fuel with
  | 0 => .error .unreadable
  | fuel + 1 =>
    if s = "true".toList then .ok (.flag true)
    else if s = "false".toList then .ok (.flag false)
    else match s with
      | '"' :: _ => readText '"' s
      | '\'' :: _ => readText '\'' s
      | '[' :: _ => do return .list (← items fuel [] (← listPieces (Text.inside s)))
      | '\x7b' :: _ => do fieldsInto fuel (.table true []) (← fieldPieces (Text.inside s))
      | s => orUnreadable (plainValue? proper s)

/-- The values in a list, which are of one kind, behind some that have been read. Empty pieces are
    passed over. -/
def items (fuel : Nat) (sofar : List Value) (pieces : List Text) :
    Except Malformed (List Value) :=
  match fuel with
  | 0 => .error .unreadable
  | fuel + 1 =>
    match pieces with
    | [] => .ok sofar
    | p :: ps =>
      if (Text.trim p).isEmpty then items fuel sofar ps
      else do
        let v ← value fuel true (Text.trim p)
        if sofar.head?.all (sameKind v) then items fuel (sofar ++ [v]) ps else throw .unreadable

/-- The value that is open, with some fields between braces put into it. Those behind a text that
    goes on are left out. -/
def fieldsInto (fuel : Nat) (here : Value) (pieces : List Text) : Except Malformed Value :=
  match fuel with
  | 0 => .error .unreadable
  | fuel + 1 =>
    match pieces with
    | [] => .ok here
    | p :: ps => do
      let (here, openText) ← fieldInto fuel here p
      if openText.isSome then return here else fieldsInto fuel here ps

/-- The value that is open, with a field put into it, and the text with which the field goes on
    behind its line. -/
def fieldInto (fuel : Nat) (here : Value) (s : Text) :
    Except Malformed (Value × Option OpenText) :=
  match fuel with
  | 0 => .error .unreadable
  | fuel + 1 => do
    let (key, rest, proper) ← orUnreadable (cutField? s)
    let (path, name) ← cutKey key
    reach path here
    if ← runsOn rest then return (← addAt name none path here, some (.ofLine name rest))
    else
      let v ← value fuel proper rest
      return (← addAt name (some v) path here, none)

end

/-- How deep values are nested in a text at most, with some room for the steps between them. -/
def room (s : Text) : Nat := 2 * s.length + 4

end Yuml.Toml
