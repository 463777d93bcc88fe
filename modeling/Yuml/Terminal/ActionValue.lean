import Yuml.Text.LetterCase
import Yuml.Text.WordChar

/-!
# Values of actions

A tag that begins with `@` names an action, and what stands behind its equals sign is the name of
a handler, a handler with values in brackets, or a value (`isActionValue`). A VALUE is a number, a
text, a row of bytes, `True`, `False`, `None` or `...`, a tuple of values, a set of values or a
table of keys and values; a set and the keys of a table hold nothing that is itself a set or a
table.

Values are read in two steps: the text into tokens (`tokensFrom`), and the tokens into a value
(`valueFrom`, `valuesFrom`).
-/

namespace Yuml.Terminal

/-! ## 1. Numbers -/

/-- Digits with a low line at most between each two of them. -/
def isDigitPart (isDigit : Char → Bool) (s : Text) : Bool :=
  s.all (fun c => isDigit c || c == '_') && s.head?.any isDigit && s.getLast?.any isDigit &&
    !Text.occursIn "__".toList s

/-- A whole number in decimal digits, which begins with a zero only if it is zero. -/
def isWholeNumber (s : Text) : Bool :=
  isDigitPart Char.isDigit s && (s.head? != some '0' || s.all fun c => c == '0' || c == '_')

/-- The digits of a number in front of its exponent: with a point among them, or without. -/
def isMantissa (needsPoint : Bool) (s : Text) : Bool :=
  match Text.splitAt '.' s with
  | [whole] => !needsPoint && isDigitPart Char.isDigit whole
  | [whole, part] =>
    (whole.isEmpty || isDigitPart Char.isDigit whole) &&
      (part.isEmpty || isDigitPart Char.isDigit part) && !(whole.isEmpty && part.isEmpty)
  | _ => false

/-- A number with a point or an exponent. -/
def isPointNumber (s : Text) : Bool :=
  let front := s.takeWhile fun c => c != 'e' && c != 'E'
  match s.drop front.length with
  | [] => isMantissa true front
  | _ :: '+' :: exponent | _ :: '-' :: exponent | _ :: exponent =>
    isMantissa false front && isDigitPart Char.isDigit exponent

/-- A whole number in another base than ten. -/
def isBasedNumber (s : Text) : Bool :=
  let digits := fun (isDigit : Char → Bool) (r : Text) =>
    isDigitPart isDigit (if r.head? = some '_' then r.drop 1 else r)
  match s with
  | '0' :: b :: r =>
    if b = 'x' ∨ b = 'X' then
      digits (fun c => c.isDigit || ('a' ≤ c && c ≤ 'f') || ('A' ≤ c && c ≤ 'F')) r
    else if b = 'o' ∨ b = 'O' then digits (fun c => '0' ≤ c && c ≤ '7') r
    else if b = 'b' ∨ b = 'B' then digits (fun c => c == '0' || c == '1') r
    else false
  | _ => false

/-- Whether a number is imaginary, if a text is a number. -/
def numberKind? (s : Text) : Option Bool :=
  if isBasedNumber s || isWholeNumber s || isPointNumber s then some false
  else
    let front := s.dropLast
    if (s.getLast? = some 'j' ∨ s.getLast? = some 'J') ∧
        (isDigitPart Char.isDigit front || isPointNumber front) then some true
    else none

/-- The characters at the front that can belong to a number: a sign can only behind the mark of an
    exponent. -/
def numberFront (based : Bool) (before : Char) : Text → Text
  | [] => []
  | c :: r =>
    let signed := (c == '+' || c == '-') && (before == 'e' || before == 'E') && !based
    if c.isAlphanum || c == '_' || c == '.' || signed then c :: numberFront based c r else []

/-! ## 2. Texts -/

/-- Whether the character behind a backslash may stand there, given what stands behind it. -/
def isKnownEscape (bytes : Bool) (c : Char) (r : Text) : Bool :=
  let isHexDigit := fun (c : Char) =>
    c.isDigit || ('a' ≤ c && c ≤ 'f') || ('A' ≤ c && c ≤ 'F')
  let digits := fun (n : Nat) => n ≤ r.length && (r.take n).all isHexDigit
  if c = 'x' then digits 2
  else if bytes then c.toNat < 128
  else if c = 'u' then digits 4
  else if c = 'U' then digits 8 && !"0010ffff".toList.lex (r.take 8)
  else if c = 'N' then r.head? = some '\x7b' && r.contains '\x7d'
  else true

/-- What stands behind the closing quote; nothing where the text is not closed or has an escape that
    is not known. `skip` characters belong to an escape. -/
def behindQuote? (quote : Char) (triple plain bytes : Bool) : (skip : Nat) → Text → Option Text
  | _, [] => none
  | skip + 1, _ :: r => behindQuote? quote triple plain bytes skip r
  | 0, c :: r =>
    if c = quote then
      if !triple then some r
      else if Text.startsWith [quote, quote] r then some (r.drop 2)
      else behindQuote? quote triple plain bytes 0 r
    else if c = '\\' then
      if plain || r.head?.any fun d => isKnownEscape bytes d (r.drop 1) then
        behindQuote? quote triple plain bytes 1 r
      else none
    else if (c = '\n' ∧ !triple) ∨ (bytes ∧ 128 ≤ c.toNat) then none
    else behindQuote? quote triple plain bytes 0 r

/-- What stands behind a text in quotes, the quotes being at the front. -/
def behindText? (plain bytes : Bool) : Text → Option Text
  | '"' :: '"' :: '"' :: r => behindQuote? '"' true plain bytes 0 r
  | '\'' :: '\'' :: '\'' :: r => behindQuote? '\'' true plain bytes 0 r
  | '"' :: r => behindQuote? '"' false plain bytes 0 r
  | '\'' :: r => behindQuote? '\'' false plain bytes 0 r
  | _ => none

/-! ## 3. Tokens -/

/-- A piece of a value. -/
inductive ValueToken where
  | number (imaginary : Bool)
  | text
  | bytes
  | word (s : Text)
  | mark (c : Char)
  deriving DecidableEq, Repr

/-- The characters that stand for themselves. -/
def valueMarks : List Char := ['(', ')', '\x7b', '\x7d', ',', ':', '+', '-']

/-- The token of a text with some letters in front of its quotes: `r` for one without escapes, `b`
    for bytes. -/
def textToken? (letters : Text) : Option (Bool × ValueToken) :=
  let letters := Text.toLower letters
  if letters.isEmpty ∨ letters = ['u'] then some (false, .text)
  else if letters = ['r'] then some (true, .text)
  else if letters = ['b'] then some (false, .bytes)
  else if letters = ['b', 'r'] ∨ letters = ['r', 'b'] then some (true, .bytes)
  else none

/-- The tokens of a text, of which there are no more than `fuel`; `depth` brackets are open. A line
    feed stands only inside brackets. -/
def tokensFrom : (fuel depth : Nat) → Text → Option (List ValueToken)
  | 0, _, _ => none
  | _, _, [] => some []
  | fuel + 1, depth, c :: r =>
    if c = ' ' ∨ c = '\t' ∨ c = '\x0c' ∨ (c = '\n' ∧ 0 < depth) then tokensFrom fuel depth r
    else if c = '#' then tokensFrom fuel depth (r.dropWhile (· != '\n'))
    else if c = '.' ∧ Text.startsWith "..".toList r then
      (tokensFrom fuel depth (r.drop 2)).map (.word "...".toList :: ·)
    else if c.isDigit ∨ (c = '.' ∧ r.head?.any Char.isDigit) then
      let based := c == '0' && r.head?.any fun d => d == 'x' || d == 'X'
      let number := c :: numberFront based c r
      match numberKind? number with
      | some imaginary =>
        (tokensFrom fuel depth (r.drop (number.length - 1))).map (.number imaginary :: ·)
      | none => none
    else if valueMarks.contains c then
      let depth := if c = '(' ∨ c = '\x7b' then depth + 1
        else if c = ')' ∨ c = '\x7d' then depth - 1 else depth
      (tokensFrom fuel depth r).map (.mark c :: ·)
    else
      let word := (c :: r).takeWhile Text.isWordChar
      let rest := (c :: r).drop word.length
      if rest.head?.any fun d => d == '"' || d == '\'' then
        match textToken? word with
        | some (plain, token) =>
          match behindText? plain (token == .bytes) rest with
          | some rest => (tokensFrom fuel depth rest).map (token :: ·)
          | none => none
        | none => none
      else if word.isEmpty then none
      else (tokensFrom fuel depth rest).map (.word word :: ·)

/-! ## 4. Values -/

/-- What matters about a value when values are put together. -/
inductive ValueKind where
  /-- A number without a sign. -/
  | number (imaginary : Bool)
  /-- A number with a sign in front of it. -/
  | signed (imaginary : Bool)
  /-- Any other value; whether it may stand in a set. -/
  | other (settled : Bool)
  deriving DecidableEq, Repr

/-- Whether a value may stand in a set. -/
def ValueKind.isSettled : ValueKind → Bool
  | .other settled => settled
  | _ => true

/-- The values that are written as words. -/
def valueWords : List Text :=
  ["True".toList, "False".toList, "None".toList, "...".toList]

/-- A value and the tokens behind it, or several values with commas between them, the tokens behind
    the last, and whether a comma stands behind it. -/
abbrev ValueRest (α : Type) := Option (α × List ValueToken)

mutual

/-- A value without a sum: a number with a sign or without, a text, a word, or values in
    brackets. -/
def itemFrom (fuel : Nat) (tokens : List ValueToken) : ValueRest ValueKind :=
  match fuel, tokens with
  | 0, _ => none
  | _ + 1, .number imaginary :: r => some (.number imaginary, r)
  | _ + 1, .text :: r =>
    let rest := r.dropWhile (· == .text)
    if rest.head? = some .bytes then none else some (.other true, rest)
  | _ + 1, .bytes :: r =>
    let rest := r.dropWhile (· == .bytes)
    if rest.head? = some .text then none else some (.other true, rest)
  | _ + 1, .word w :: r =>
    if valueWords.contains w then some (.other true, r)
    else match r with
      | .mark '(' :: .mark ')' :: r => if w = "set".toList then some (.other false, r) else none
      | _ => none
  | fuel + 1, .mark c :: r =>
    if c = '+' ∨ c = '-' then
      match itemFrom fuel r with
      | some (.number imaginary, r) => some (.signed imaginary, r)
      | _ => none
    else if c = '(' then
      match r with
      | .mark ')' :: r => some (.other true, r)
      | _ =>
        match valuesFrom fuel r with
        | some (([v], false), .mark ')' :: r) => some (v, r)
        | some ((vs, _), .mark ')' :: r) => some (.other (vs.all (·.isSettled)), r)
        | _ => none
    else if c = '\x7b' then
      match r with
      | .mark '\x7d' :: r => some (.other false, r)
      | _ =>
        match valueFrom fuel r with
        | some (_, .mark ':' :: _) =>
          match entriesFrom fuel r with
          | some (true, .mark '\x7d' :: r) => some (.other false, r)
          | _ => none
        | _ =>
          match valuesFrom fuel r with
          | some ((vs, _), .mark '\x7d' :: r) =>
            if vs.all (·.isSettled) then some (.other false, r) else none
          | _ => none
    else none
  | _ + 1, [] => none

/-- A value: an item, or the sum of a real and an imaginary number. -/
def valueFrom (fuel : Nat) (tokens : List ValueToken) : ValueRest ValueKind :=
  match fuel with
  | 0 => none
  | fuel + 1 =>
    match itemFrom fuel tokens with
    | some (v, .mark c :: r) =>
      if c = '+' ∨ c = '-' then
        match v, itemFrom fuel r with
        | .number false, some (.number true, r) | .signed false, some (.number true, r) =>
          if r.head? = some (.mark '+') ∨ r.head? = some (.mark '-') then none
          else some (.other true, r)
        | _, _ => none
      else some (v, .mark c :: r)
    | x => x

/-- Values with commas between them, at least one. -/
def valuesFrom (fuel : Nat) (tokens : List ValueToken) : ValueRest (List ValueKind × Bool) :=
  match fuel with
  | 0 => none
  | fuel + 1 =>
    match valueFrom fuel tokens with
    | none => none
    | some (v, .mark ',' :: r) =>
      if r.isEmpty ∨ r.head? = some (.mark ')') ∨ r.head? = some (.mark '\x7d') then
        some (([v], true), r)
      else (valuesFrom fuel r).map fun x => ((v :: x.1.1, x.1.2), x.2)
    | some (v, r) => some (([v], false), r)

/-- Keys and values with commas between them, at least one; whether all keys may stand there. -/
def entriesFrom (fuel : Nat) (tokens : List ValueToken) : ValueRest Bool :=
  match fuel with
  | 0 => none
  | fuel + 1 =>
    match valueFrom fuel tokens with
    | some (key, .mark ':' :: r) =>
      match valueFrom fuel r with
      | some (_, .mark ',' :: r) =>
        if r.head? = some (.mark '\x7d') then some (key.isSettled, r)
        else (entriesFrom fuel r).map fun x => (key.isSettled && x.1, x.2)
      | some (_, r) => some (key.isSettled, r)
      | none => none
    | _ => none

end

/-- Whether a text is a value, or several with commas between them. -/
def isValue (s : Text) : Bool :=
  match tokensFrom (s.length + 1) 0 s with
  | none => false
  | some tokens =>
    match valuesFrom (4 * tokens.length + 4) tokens with
    | some (_, []) => true
    | _ => false

/-- Whether a text may stand behind the equals sign of an action: a handler, a handler with values
    in brackets, or a value. -/
def isActionValue (s : Text) : Bool :=
  let s := Text.trim s
  let rest := s.dropWhile fun c => Text.isWordChar c || c == '.'
  if rest.isEmpty then true
  else if rest.head? = some '(' ∧ rest.getLast? = some ')' ∧ '\n' ∉ rest then isValue rest
  else isValue s

end Yuml.Terminal
