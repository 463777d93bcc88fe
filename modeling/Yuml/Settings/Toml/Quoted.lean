import Yuml.Settings.Toml.Basic

/-!
# Settings files: texts in quotes

A text stands between two quotes of either kind, or between three and three. Between double quotes a
backslash begins an escape: of one letter, or of `u` with four digits or `U` with eight. What stands
between single quotes is taken as it is.

An escape is looked for before it is known whether its backslash is protected by another one, so
that a protected escape with digits is put back only when the text in front of it is looked at.
-/

namespace Yuml.Toml

/-! ## 1. Where a text ends -/

/-- Whether nothing stands behind the closing quote, given the pieces between the quotes. In a text
    in three quotes a single quote closes nothing; `quotes` counts those at a stretch. -/
def closesFrom (triple : Bool) : (isClosed : Bool) → (quotes : Nat) → List Text → Bool
  | _, _, [] => true
  | isClosed, quotes, p :: ps =>
    if p.isEmpty then closesFrom triple (isClosed || !triple) (quotes + 1) ps
    else if endsProtecting p then closesFrom triple isClosed quotes ps
    else if isClosed then false
    else if !triple || 1 < quotes then closesFrom triple true quotes ps
    else closesFrom triple false 0 ps

/-- Whether nothing stands behind the closing quote of a text that begins with a quote. -/
def closes (quote : Char) (s : Text) : Bool :=
  match Text.splitAt quote (s.drop 1) with
  | [] :: [] :: ps => closesFrom true false 0 ps
  | ps => closesFrom false false 0 ps

/-! ## 2. Escapes -/

/-- The characters that a backslash and a letter stand for. -/
def escapes : List (Char × Char) :=
  [('0', '\x00'), ('b', '\x08'), ('f', '\x0c'), ('n', '\n'), ('r', '\r'), ('t', '\t'), ('"', '"')]

/-- Whether a backslash and a letter begin an escape with digits. -/
def isUnitMark (c : Char) : Bool := c == 'u' || c == 'U'

/-- Whether a character may stand behind a backslash. -/
def isEscape (c : Char) : Bool := isUnitMark c || escapes.any (·.1 == c)

/-- Whether only known escapes stand in the pieces between backslashes; `isProtected` says that the
    backslash in front is itself protected. -/
def knownFrom : (isProtected : Bool) → List Text → Bool
  | _, [] => true
  | isProtected, p :: ps =>
    match p with
    | [] => knownFrom (!isProtected) ps
    | c :: _ => (isProtected || isEscape c) && knownFrom false ps

/-- The value of a hexadecimal digit in small letters. -/
def hexValue? (c : Char) : Option Nat :=
  if c.isDigit then some (c.toNat - '0'.toNat)
  else if 'a' ≤ c ∧ c ≤ 'f' then some (c.toNat - 'a'.toNat + 10)
  else none

/-- The largest number that an escape may have and still be found to be no character. -/
def largestUnit : Nat := 0x7FFFFFFF

/-- The character of an escape with some digits; nothing where they stand for half a character.
    Digits that begin with a `d` and an eight or more are refused. -/
def unit (digits : Text) : Except Malformed (Option Char) := do
  let values ← orUnreadable (digits.mapM fun c => hexValue? (Char.toLower c))
  match values with
  | [] | [0xd] => block .textEnds
  | a :: b :: _ => if a = 0xd ∧ 8 ≤ b then throw .unreadable
  | _ => pure ()
  let n := values.foldl (fun n d => 16 * n + d) 0
  if largestUnit < n then block .hugeEscape
  else if 0x10FFFF < n then throw .unreadable
  else return if n.isValidChar then some (Char.ofNat n) else none

/-- What stands in a text for half a character. -/
def halfMark : Char := '\ufffd'

/-- The pieces that an escape with digits divides, joined with the characters that the escapes stand
    for, and whether all are whole characters. `isProtected` says that the backslash of the escape
    in front is protected, so that the escape stands for itself; this is found out only behind
    another such escape. -/
def unitsFrom (mark : Char) (count : Nat) : (isProtected : Bool) → List Text →
    Except Malformed (Text × Bool)
  | _, [] => .ok ([], true)
  | true, p :: ps => do
    let (r, areWhole) ← unitsFrom mark count (endsProtecting p) ps
    return ('\\' :: mark :: (p ++ r), areWhole)
  | false, p :: ps => do
    let c ← unit (p.take count)
    let (r, areWhole) ← unitsFrom mark count false ps
    return (c.getD halfMark :: (p.drop count ++ r), c.isSome && areWhole)

/-- A text with the characters that its escapes with some digits stand for, and whether all are
    whole characters. -/
def units (mark : Char) (count : Nat) (s : Text) : Except Malformed (Text × Bool) :=
  match Text.splitOnText ['\\', mark] s with
  | [] => .ok ([], true)
  | p :: ps => do
    let (r, areWhole) ← unitsFrom mark count (endsProtecting p) ps
    return (p ++ r, areWhole)

/-- A text with the characters that its escapes of one letter stand for. Nothing, if one is not
    known. -/
def unescape? : Text → Option Text
  | [] => some []
  | ['\\'] => some ['\\']
  | '\\' :: c :: r =>
    if c = '\\' then (unescape? r).map ('\\' :: ·)
    else if isUnitMark c then (unescape? r).map fun t => '\\' :: c :: t
    else match escapes.find? (·.1 == c) with
      | some (_, d) => (unescape? r).map (d :: ·)
      | none => none
  | c :: r => (unescape? r).map (c :: ·)

/-- A text in double quotes with the characters that its escapes stand for, and whether all are
    whole characters. -/
def unescaped (s : Text) : Except Malformed (Text × Bool) := do
  if !knownFrom false ((Text.splitAt '\\' s).drop 1) then throw .unreadable
  let (s, _) ← units 'u' 4 s
  let (s, areWhole) ← units 'U' 8 s
  return (← orUnreadable (unescape? s), areWhole)

/-! ## 3. Reading -/

/-- A text without the quotes around it, one or three at each end. -/
def withoutQuotes (quote : Char) (s : Text) : Text :=
  match s with
  | a :: b :: r =>
    if b = quote ∧ (r.isEmpty ∨ r.head? = some b) then
      Text.inside r.dropLast.dropLast
    else Text.inside (a :: b :: r)
  | s => Text.inside s

/-- The text that a quote and what follows it stand for. -/
def readText (quote : Char) (s : Text) : Except Malformed Value := do
  if !closes quote s then throw .unreadable
  let (s, areWhole) ← if quote = '"' then unescaped s else pure (s, true)
  return if areWhole then .text (withoutQuotes quote s) else .halfText

end Yuml.Toml
