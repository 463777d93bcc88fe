import Yuml.Text.Basic

/-!
# Tokens of an expression line

An expression line such as `(start)->|a|` is a row of bracketed pieces with bare text between
them. This file reads a line into its tokens:

* `Bracket` names the four pairs of delimiters; `|` closes itself;
* `Scan` is where a reading stands in the middle of a line: the tokens found so far, the text of
  the piece being read, the opener that waits for its closer, and whether an escape character has
  just been read and waits for the character it protects;
* `Scan.step` reads one character, `Scan.finish` ends the line, and `tokenize` is the fold of the
  one followed by the other, so the reading of `a ++ b` continues the reading of `a`.

An escape character and the character behind it are copied as they stand; at the very end of the
line it is an ordinary character. An opener that is never closed keeps the rest of the line in one
bare token. Tokens are trimmed and empty ones are left out.
-/

namespace Yuml

/-! ## 1. Brackets and tokens -/

/-- A pair of delimiters. -/
inductive Bracket where
  | paren
  | square
  | angle
  | pipe
  deriving DecidableEq, Repr

namespace Bracket

/-- The character that opens the pair. -/
def opener : Bracket → Char
  | .paren => '('
  | .square => '['
  | .angle => '<'
  | .pipe => '|'

/-- The character that closes the pair. -/
def closer : Bracket → Char
  | .paren => ')'
  | .square => ']'
  | .angle => '>'
  | .pipe => '|'

/-- The pair that a character opens. -/
def ofOpener? (c : Char) : Option Bracket :=
  if c = '(' then some .paren
  else if c = '[' then some .square
  else if c = '<' then some .angle
  else if c = '|' then some .pipe
  else none

theorem ofOpener?_opener (b : Bracket) : ofOpener? b.opener = some b := by
  cases b <;> rfl

theorem opener_of_ofOpener? {c : Char} {b : Bracket} (h : ofOpener? c = some b) :
    b.opener = c := by
  unfold ofOpener? at h
  split at h
  · cases h; simp_all [opener]
  · split at h
    · cases h; simp_all [opener]
    · split at h
      · cases h; simp_all [opener]
      · split at h
        · cases h; simp_all [opener]
        · cases h

end Bracket

/-- What encloses a token: a pair of delimiters, or nothing. -/
inductive TokenKind where
  | closed (bracket : Bracket)
  | bare
  deriving DecidableEq, Repr

/-- The name of a kind of token. -/
def TokenKind.name : TokenKind → String
  | .closed .paren => "paren"
  | .closed .square => "bracket"
  | .closed .angle => "angle"
  | .closed .pipe => "pipe"
  | .bare => "bare"

/-- A trimmed piece of a line, its delimiters included. -/
structure Token where
  text : Text
  kind : TokenKind
  deriving DecidableEq, Repr

namespace Token

/-- The text between the delimiters; all of a bare token. -/
def inner (t : Token) : Text :=
  match t.kind with
  | .closed _ => Text.inside t.text
  | .bare => t.text

/-- The token of a piece, unless the piece is blank. -/
def ofPiece (piece : Text) (kind : TokenKind) : List Token :=
  if (Text.trim piece).isEmpty then [] else [⟨Text.trim piece, kind⟩]

end Token

/-! ## 2. Reading one character -/

/-- Where the reading of a line stands. -/
structure Scan where
  /-- The tokens read so far, in line order. -/
  tokens : List Token
  /-- The piece that is being read. -/
  word : Text
  /-- The opener whose closer has not come yet. -/
  pending : Option Char
  /-- Whether the last character read is an escape character that waits for the next one. -/
  lifted : Bool
  deriving DecidableEq, Repr

namespace Scan

/-- Before the first character of a line. -/
def start : Scan := ⟨[], [], none, false⟩

/-- Read a character that no escape protects. It fails on the opener that is waiting when that
    opener belongs to no pair: nothing can close it. -/
def plain (openers : List Char) (s : Scan) (c : Char) : Except Char Scan :=
  match s.pending with
  | none =>
    if c ∈ openers then
      .ok { s with
        tokens := s.tokens ++ Token.ofPiece s.word .bare, word := [c], pending := some c }
    else .ok { s with word := s.word ++ [c] }
  | some o =>
    match Bracket.ofOpener? o with
    | none => .error o
    | some b =>
      if c = b.closer then
        .ok { s with tokens := s.tokens ++ Token.ofPiece (Text.trim s.word ++ [c]) (.closed b),
                     word := [], pending := none }
      else .ok { s with word := s.word ++ [c] }

/-- Read the next character of a line. The escape is a text: it protects a character only where
    it is one character long. -/
def step (openers : List Char) (escape : Text) (s : Scan) (c : Char) : Except Char Scan :=
  if s.lifted then .ok { s with word := s.word ++ escape ++ [c], lifted := false }
  else if escape = [c] then .ok { s with lifted := true }
  else plain openers s c

/-- The scan with an escape that protects nothing read as an ordinary character. -/
def settle (openers : List Char) (escape : Text) (s : Scan) : Except Char Scan :=
  if s.lifted then escape.foldlM (plain openers) { s with lifted := false } else .ok s

/-- End the line: what is left of it is a bare token. -/
def finish (openers : List Char) (escape : Text) (s : Scan) : Except Char (List Token) :=
  (s.settle openers escape).map fun t => t.tokens ++ Token.ofPiece t.word .bare

/-- Read a stretch of a line. -/
def run (openers : List Char) (escape : Text) (s : Scan) (line : Text) : Except Char Scan :=
  line.foldlM (step openers escape) s

theorem run_append (openers : List Char) (escape : Text) (s : Scan) (a b : Text) :
    s.run openers escape (a ++ b) = (s.run openers escape a).bind (·.run openers escape b) :=
  List.foldlM_append

end Scan

/-! ## 3. Reading a line -/

/-- The backslash, which protects the character behind it. -/
def defaultEscape : Text := ['\\']

/-- The tokens of a line. The error is an opener that belongs to no pair of delimiters. -/
def tokenize (line : Text) (openers : List Char) (escape : Text) : Except Char (List Token) :=
  (Scan.start.run openers escape line).bind (·.finish openers escape)

end Yuml
