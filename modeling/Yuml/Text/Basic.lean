/-!
# Text: white space, trimming, splitting and searching

A text is a list of characters, so that every rule about a line, a label or an attribute value is
a recursion on the text itself. This file fixes:

* which characters are BLANK (`isBlank`: the white space of Unicode, together with the four
  separators U+001C to U+001F), and how a text is trimmed at its ends (`trim`);
* how a text is cut at every occurrence of one character (`splitAt`) or of a longer separator
  (`splitOnText`), and how pieces are joined again (`joinWith`);
* where one text occurs in another (`occursIn`, `startsWith`, `endsWith`), and the reading of
  "at the end of the text" that lets one last line feed stand behind it (`beforeFinalNewline`).
-/

namespace Yuml

/-- A text, character by character. -/
abbrev Text := List Char

namespace Text

/-! ## 1. White space -/

/-- The code point ranges of white space, both ends included. -/
def blankRanges : List (Nat × Nat) :=
  [(0x09, 0x0D), (0x1C, 0x20), (0x85, 0x85), (0xA0, 0xA0), (0x1680, 0x1680), (0x2000, 0x200A),
   (0x2028, 0x2029), (0x202F, 0x202F), (0x205F, 0x205F), (0x3000, 0x3000)]

/-- White space: what trimming removes and what may stand between the parts of a directive. -/
def isBlank (c : Char) : Bool :=
  blankRanges.any fun r => r.1 ≤ c.toNat && c.toNat ≤ r.2

/-- The text without the white space it begins with. -/
def trimStart (s : Text) : Text := s.dropWhile isBlank

/-- The text without the white space it ends with. -/
def trimEnd (s : Text) : Text := (s.reverse.dropWhile isBlank).reverse

/-- The text without the white space at its two ends. -/
def trim (s : Text) : Text := trimEnd (trimStart s)

@[simp] theorem trim_nil : trim [] = [] := rfl

/-! ## 2. Cutting and joining -/

/-- The pieces between the occurrences of a character; there is always at least one. -/
def splitAt (sep : Char) : Text → List Text
  | [] => [[]]
  | c :: r =>
    if c = sep then [] :: splitAt sep r
    else match splitAt sep r with
      | [] => [[c]]
      | p :: ps => (c :: p) :: ps

/-- The pieces between the occurrences of a separator, found from the left and not overlapping.
    `skip` counts the characters of an occurrence that have still to be passed over. -/
def splitOnTextFrom (sep : Text) : Nat → Text → List Text
  | _, [] => [[]]
  | skip + 1, _ :: r => splitOnTextFrom sep skip r
  | 0, c :: r =>
    if sep.isPrefixOf (c :: r) then [] :: splitOnTextFrom sep (sep.length - 1) r
    else match splitOnTextFrom sep 0 r with
      | [] => [[c]]
      | p :: ps => (c :: p) :: ps

/-- The pieces between the occurrences of a separator of at least one character. -/
def splitOnText (sep s : Text) : List Text := splitOnTextFrom sep 0 s

/-- The pieces with a separator between each two of them. -/
def joinWith (sep : Text) : List Text → Text
  | [] => []
  | [p] => p
  | p :: q :: ps => p ++ sep ++ joinWith sep (q :: ps)

/-- The words of a text, which white space divides; `word` is what has been read of the first. -/
def wordsFrom : (word : Text) → Text → List Text
  | word, [] => if word.isEmpty then [] else [word]
  | word, c :: r =>
    if isBlank c then (if word.isEmpty then [] else [word]) ++ wordsFrom [] r
    else wordsFrom (word ++ [c]) r

/-- The words of a text, which white space divides. -/
def words (s : Text) : List Text := wordsFrom [] s

theorem splitAt_ne_nil (sep : Char) (s : Text) : splitAt sep s ≠ [] := by
  cases s with
  | nil => simp [splitAt]
  | cons c r =>
    unfold splitAt
    split
    · simp
    · split <;> simp

/-- Joining the pieces with the character they were cut at gives the text back. -/
theorem joinWith_splitAt (sep : Char) (s : Text) : joinWith [sep] (splitAt sep s) = s := by
  induction s with
  | nil => rfl
  | cons c r ih =>
    unfold splitAt
    cases h : splitAt sep r with
    | nil => exact absurd h (splitAt_ne_nil sep r)
    | cons p ps =>
      rw [h] at ih
      split
      · next hc =>
        subst hc
        show [] ++ [c] ++ joinWith [c] (p :: ps) = c :: r
        rw [ih]; rfl
      · cases ps with
        | nil => simpa [joinWith] using congrArg (c :: ·) ih
        | cons q qs => simpa [joinWith] using congrArg (c :: ·) ih

/-! ## 3. Searching -/

/-- Whether the text begins with `part`. -/
def startsWith (part s : Text) : Bool := part.isPrefixOf s

/-- Whether the text ends with `part`. -/
def endsWith (part s : Text) : Bool := part.isSuffixOf s

/-- Whether `part` occurs in the text, anywhere. -/
def occursIn (part : Text) : Text → Bool
  | [] => part.isEmpty
  | c :: r => part.isPrefixOf (c :: r) || occursIn part r

/-- The text before its last character where this is a line feed, and the text itself otherwise:
    one line feed may stand behind what is read as the end of a text. -/
def beforeFinalNewline (s : Text) : Text :=
  if s.getLast? = some '\n' then s.dropLast else s

/-- Whether the text is `opener … closer`, one final line feed aside. -/
def isEnclosed (opener closer : Char) (s : Text) : Bool :=
  match s with
  | [] => false
  | c :: r => c == opener &&
      (r.getLast? == some closer || (beforeFinalNewline r).getLast? == some closer)

/-- The text without its first and its last character. -/
def inside (s : Text) : Text := (s.drop 1).dropLast

/-! ## 4. Numbers -/

/-- The decimal digits of a number. -/
def ofNat (n : Nat) : Text := Nat.toDigits 10 n

/-- The decimal digits of an integer, with a minus sign in front of a negative one. -/
def ofInt : Int → Text
  | .ofNat n => ofNat n
  | .negSucc n => '-' :: ofNat (n + 1)

end Text

end Yuml
