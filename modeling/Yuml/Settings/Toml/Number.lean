import Yuml.Settings.Toml.Basic
import Yuml.Text.LetterCase
import Yuml.Text.WordChar

/-!
# Settings files: numbers, dates and times

A number is whole, in one of four bases, or decimal; low lines may stand between its digits. How it
is grouped and padded is judged first and on its own (`isProper`); low lines are then left out.

A date, or a date with a time of day, is told by the places of its digits; what stands between them
does not matter, but there has to be a `-`. A time of day is told by the digits it begins with.
-/

namespace Yuml.Toml

/-! ## 1. Numbers -/

/-- Whether a number is grouped and padded as it may be: no low line stands at an end, next to a
    point or to another one, and a zero stands first only in front of a point or, without a sign,
    of the mark of a base. -/
def isProper (s : Text) : Bool :=
  let isPadded := match s with
    | '0' :: c :: _ => !(['.', 'o', 'b', 'x'].contains c)
    | '+' :: '0' :: c :: _ => c != '.'
    | '-' :: '0' :: c :: _ => c != '.'
    | _ => false
  !s.isEmpty && s.head? != some '_' && s.getLast? != some '_' && !isPadded &&
    ["__", "_.", "._"].all fun part => !Text.occursIn part.toList s

/-- The value of a hexadecimal digit in either case. -/
def digit? (c : Char) : Option Nat :=
  if c.isDigit then some (c.toNat - '0'.toNat)
  else
    let c := c.toLower
    if 'a' ≤ c ∧ c ≤ 'f' then some (c.toNat - 'a'.toNat + 10) else none

/-- The value of digits in a base. -/
def digits? (base : Nat) (s : Text) : Option Nat :=
  if s.isEmpty then none
  else s.foldlM (fun n c => do
    let d ← digit? c
    if d < base then some (base * n + d) else none) 0

/-- How many digits a whole number in base ten may have. -/
def longestWhole : Nat := 4300

/-- The base that a letter behind a zero marks. -/
def base? (c : Char) : Option Nat :=
  match c.toLower with
  | 'x' => some 16
  | 'o' => some 8
  | 'b' => some 2
  | _ => none

/-- A whole number without a sign. In base ten a zero stands first only in front of zeros. -/
def natural? (s : Text) : Option Nat :=
  match s with
  | '0' :: c :: r =>
    match base? c with
    | some base => digits? base r
    | none => if (c :: r).all (· == '0') then some 0 else none
  | s => if longestWhole < s.length then none else digits? 10 s

/-- Apply the sign at the front of a number to what is read behind it. -/
def signed? (read : Text → Option Nat) (s : Text) : Option Int :=
  match s with
  | '-' :: r => (read r).map fun n => -(n : Int)
  | '+' :: r => (read r).map fun n => (n : Int)
  | r => (read r).map fun n => (n : Int)

/-- Whether the number is decimal: it has a point, or an exponent without being in base sixteen. -/
def isDecimal (s : Text) : Bool :=
  s.contains '.' || (!s.contains 'x' && (s.contains 'e' || s.contains 'E'))

/-- A decimal number: digits in front, and digits or an exponent behind the point. -/
def decimal? (negative : Bool) (s : Text) : Option Value :=
  if (s.head?.any Char.isDigit) && (!s.contains '.' || (s.dropWhile (· != '.')).drop 1 != []) then
    (Binary64.unsigned? negative (s.map Text.plainDigit)).map .number
  else none

/-- A number. Its sign may stand in front of another one, or of blanks, if it is whole. -/
def number? (s : Text) : Option Value :=
  let (negative, r) := match s with
    | '-' :: r => (true, r)
    | '+' :: r => (false, r)
    | r => (false, r)
  let r := r.filter (· != '_')
  if isDecimal r then decimal? negative r
  else if Text.toLower r = "inf".toList then some (.number (.infinite negative))
  else if Text.toLower r = "nan".toList then some (.number .nan)
  else (signed? natural? (Text.trim (r.map Text.plainDigit))).map fun n =>
    .integer (if negative then -n else n)

/-- Whether every low line stands between two digits; `afterDigit` says that a digit is in front. -/
def groupsDigits : (afterDigit : Bool) → Text → Bool
  | _, [] => true
  | _, ['_'] => false
  | afterDigit, '_' :: c :: r => afterDigit && c.isDigit && groupsDigits true r
  | _, c :: r => groupsDigits c.isDigit r

/-- Whether a text is a number, however it is padded. -/
def looksLikeNumber (s : Text) : Bool :=
  let s := Text.trim (s.map Text.plainDigit)
  groupsDigits false s && (Binary64.ofText? (s.filter (· != '_'))).isSome

/-! ## 2. Dates and times -/

/-- The whole number in some places of a text. -/
def numberAt? (s : Text) (start stop : Nat) : Option Int := do
  let digits ← Value.withoutLowLines? (Text.trim ((s.take stop).drop start))
  signed? (digits? 10) (digits.map Text.plainDigit)

/-- The days of a month. -/
def daysIn (year month : Int) : Int :=
  if month = 2 then
    if year % 4 = 0 ∧ (year % 100 ≠ 0 ∨ year % 400 = 0) then 29 else 28
  else if month = 4 ∨ month = 6 ∨ month = 9 ∨ month = 11 then 30
  else 31

/-- Whether a text begins with the digits of a day of the calendar: `1979-05-27`. -/
def beginsWithDay (s : Text) : Bool :=
  match numberAt? s 0 4, numberAt? s 5 7, numberAt? s 8 10 with
  | some y, some m, some d =>
    decide (1 ≤ y ∧ y ≤ 9999 ∧ 1 ≤ m ∧ m ≤ 12 ∧ 1 ≤ d ∧ d ≤ daysIn y m)
  | _, _, _ => false

/-- Whether the digits of a time of day stand at a place: `07:32:00`. -/
def hasTimeAt (s : Text) (start : Nat) : Bool :=
  match numberAt? s start (start + 2), numberAt? s (start + 3) (start + 5),
    numberAt? s (start + 6) (start + 8) with
  | some h, some m, some sec =>
    decide (0 ≤ h ∧ h < 24 ∧ 0 ≤ m ∧ m < 60 ∧ 0 ≤ sec ∧ sec < 60)
  | _, _, _ => false

/-- Whether a text is a date: a day alone, or a day with a time of day. -/
def isDate (s : Text) : Bool :=
  (s.drop 1).contains '-' && beginsWithDay s && (s.length == 10 || hasTimeAt s 11)

/-- Whether a text begins like a time of day, which may turn out to be none. -/
def beginsLikeTime (s : Text) : Bool :=
  match s with
  | a :: b :: ':' :: c :: d :: ':' :: e :: f :: _ => [a, b, c, d, e, f].all Char.isDigit
  | _ => false

/-- A date, a time of day or a number; `proper` says that a number is grouped and padded as it may
    be. -/
def plainValue? (proper : Bool) (s : Text) : Option Value :=
  if beginsLikeTime s then if hasTimeAt s 0 then some .time else none
  else if isDate s then some (.date (s.length != 10))
  else if proper then number? s
  else none

end Yuml.Toml
