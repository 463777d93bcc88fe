import Yuml.Text.Basic

/-!
# Numbers of the binary64 format

Heights, widths, waiting times and lumas are binary64 numbers. They are held exactly, as a sign, a
mantissa and a power of two, so that what is printed can be computed in whole numbers:

* `ofRatio` and `ofDecimal` round a fraction or a decimal to the nearest number of the format, a tie
  to the one with the even mantissa;
* `Decimal` is what is left of a number for printing: some digits and the power of ten of the first
  of them; `toPrecision` rounds to a count of digits, `shortest` takes the fewest digits that read
  back as the same number;
* `Layout` says where positional notation ends and whether a whole number keeps its point.
-/

namespace Yuml

/-! ## 1. Rounding to the format -/

/-- A number: `± mantissa · 2 ^ exponent`, an infinity, or no number at all. -/
inductive Binary64 where
  | finite (negative : Bool) (mantissa : Nat) (exponent : Int)
  | infinite (negative : Bool)
  | nan
  deriving DecidableEq, Repr

namespace Binary64

/-- The whole number nearest to `num / den`; a tie goes to the even one. -/
def roundDiv (num den : Nat) : Nat :=
  let q := num / den
  let twice := 2 * (num % den)
  if twice < den then q else if den < twice then q + 1 else q + q % 2

/-- `x · base ^ power` as a fraction. -/
def scaled (base num den : Nat) (power : Int) : Nat × Nat :=
  let factor := Nat.pow base power.natAbs
  if power < 0 then (num, den * factor) else (num * factor, den)

/-- The least exponent of the format. -/
def minExponent : Int := -1074

/-- The greatest exponent of the format. -/
def maxExponent : Int := 971

/-- The number of the format nearest to `num / den`. -/
def ofRatio (negative : Bool) (num den : Nat) : Binary64 :=
  if num = 0 then .finite negative 0 0
  else
    let low : Int := (num.log2 : Int) - den.log2 - 53
    let (n, d) := scaled 2 num den (-low)
    let exponent := max minExponent (if n / d < Nat.pow 2 53 then low else low + 1)
    let (n, d) := scaled 2 num den (-exponent)
    let mantissa := roundDiv n d
    let (mantissa, exponent) :=
      if mantissa = Nat.pow 2 53 then (Nat.pow 2 52, exponent + 1) else (mantissa, exponent)
    if maxExponent < exponent then .infinite negative
    else if mantissa = 0 then .finite negative 0 0
    else .finite negative mantissa exponent

/-- The number of the format nearest to `digits · 10 ^ power`. Powers so far out that the answer is
    plain are cut off. -/
def ofDecimal (negative : Bool) (digits : Nat) (power : Int) : Binary64 :=
  let count := (Nat.toDigits 10 digits).length
  if digits = 0 then .finite negative 0 0
  else if power + count > 400 then .infinite negative
  else if power + count < -400 then .finite negative 0 0
  else
    let (n, d) := scaled 10 digits 1 power
    ofRatio negative n d

/-- A whole number, rounded to the format. -/
def ofInt (n : Int) : Binary64 := ofDecimal (n < 0) n.natAbs 0

/-- The size of a finite number as a fraction. -/
def fraction (mantissa : Nat) (exponent : Int) : Nat × Nat := scaled 2 mantissa 1 exponent

/-- Whether the number is zero or less; what is no number is neither. -/
def isAtMostZero : Binary64 → Bool
  | .finite negative mantissa _ => negative || mantissa == 0
  | .infinite negative => negative
  | .nan => false

/-- Whether two numbers are equal; what is no number equals nothing. -/
def agrees (x y : Binary64) : Bool := x == y && x != .nan

/-- Whether the number is a whole one. -/
def isWhole : Binary64 → Bool
  | .finite _ mantissa exponent =>
    let (num, den) := fraction mantissa exponent
    num % den == 0
  | _ => false

/-! ## 2. Decimal digits -/

/-- Digits with the power of ten of the first one: `d.ddd · 10 ^ power`. -/
structure Decimal where
  digits : Text
  power : Int
  deriving DecidableEq, Repr

/-- The digits without the zeros at their end; one digit always stays. -/
def Decimal.stripped (d : Decimal) : Decimal :=
  match (d.digits.reverse.dropWhile (· == '0')).reverse with
  | [] => { d with digits := ['0'] }
  | kept => { d with digits := kept }

/-- The power of ten `x` with `10 ^ x ≤ num / den < 10 ^ (x + 1)`, for a fraction above zero. -/
def decimalPower (num den : Nat) : Int :=
  let guess : Int := ((Nat.toDigits 10 num).length : Int) - (Nat.toDigits 10 den).length
  let (n, d) := scaled 10 num den (-guess)
  if d ≤ n then guess else guess - 1

/-- A fraction above zero, rounded to `count` digits, a tie to the even last digit. -/
def toPrecision (count num den : Nat) : Decimal :=
  let power := decimalPower num den
  let (n, d) := scaled 10 num den ((count : Int) - 1 - power)
  let rounded := roundDiv n d
  if rounded = Nat.pow 10 count then ⟨Nat.toDigits 10 (Nat.pow 10 (count - 1)), power + 1⟩
  else ⟨Nat.toDigits 10 rounded, power⟩

/-- The decimals with `count` digits next below and next above a fraction above zero, the nearer
    one first; of two that are equally near, the even one. -/
def neighbours (count num den : Nat) : List (Nat × Int) :=
  let last : Int := decimalPower num den - ((count : Int) - 1)
  let (n, d) := scaled 10 num den (-last)
  let below := n / d
  if roundDiv n d = below then [(below, last), (below + 1, last)]
  else [(below + 1, last), (below, last)]

/-- Try longer and longer digit strings until one reads back; `tries` are left. -/
def shortestFrom (mantissa : Nat) (exponent : Int) : (tries count : Nat) → Nat × Int
  | 0, _ => (mantissa, exponent)
  | tries + 1, count =>
    let (num, den) := fraction mantissa exponent
    match (neighbours count num den).find? fun c =>
        ofDecimal false c.1 c.2 == .finite false mantissa exponent with
    | some c => c
    | none => shortestFrom mantissa exponent tries (count + 1)

/-- The fewest digits that read back as the same number; seventeen always do. -/
def shortest (mantissa : Nat) (exponent : Int) : Decimal :=
  let (digits, last) := shortestFrom mantissa exponent 17 1
  let text := Nat.toDigits 10 digits
  ⟨text, last + text.length - 1⟩

/-! ## 3. Texts -/

/-- How a number is laid out. -/
structure Layout where
  /-- The least power of ten that is written positionally. -/
  least : Int
  /-- The first power of ten that is not written positionally any more. -/
  bound : Int
  /-- Whether a whole number is written with `.0`. -/
  keepsPoint : Bool

/-- The exponent of scientific notation: a sign and at least two digits. -/
def exponentText (power : Int) : Text :=
  let digits := Nat.toDigits 10 power.natAbs
  (if power < 0 then '-' else '+') :: (List.replicate (2 - digits.length) '0' ++ digits)

/-- Digits that stand before and behind the point. -/
def positional (layout : Layout) (whole part : Text) : Text :=
  if part.isEmpty then whole ++ (if layout.keepsPoint then ".0".toList else [])
  else whole ++ '.' :: part

/-- The text of a decimal without zeros at its end. -/
def Decimal.render (layout : Layout) (d : Decimal) : Text :=
  if layout.least ≤ d.power ∧ d.power < layout.bound then
    if d.power < 0 then
      positional layout ['0'] (List.replicate (d.power.natAbs - 1) '0' ++ d.digits)
    else
      let count := d.power.natAbs + 1
      positional layout (d.digits.take count ++ List.replicate (count - d.digits.length) '0')
        (d.digits.drop count)
  else
    (match d.digits with
      | [] => []
      | [c] => [c]
      | c :: r => c :: '.' :: r) ++ 'e' :: exponentText d.power

/-- A sign in front of a negative number. -/
def signed (negative : Bool) (s : Text) : Text := if negative then '-' :: s else s

/-- The text of a number whose digits are chosen by `digits`. -/
def render (layout : Layout) (digits : Nat → Int → Decimal) : Binary64 → Text
  | .nan => "nan".toList
  | .infinite negative => signed negative "inf".toList
  | .finite negative 0 _ => signed negative (Decimal.render layout ⟨['0'], 0⟩)
  | .finite negative mantissa exponent =>
    signed negative (Decimal.render layout (digits mantissa exponent).stripped)

/-- Six digits at most, positional from 0.0001 to below a million, whole numbers without a point. -/
def general : Binary64 → Text :=
  render ⟨-4, 6, false⟩ fun mantissa exponent =>
    let (num, den) := fraction mantissa exponent
    toPrecision 6 num den

/-- The fewest digits, positional from 0.0001 to below 10^16, whole numbers with `.0`. -/
def precise : Binary64 → Text := render ⟨-4, 16, true⟩ shortest

/-- A number `units / 10 ^ places`, written with all its places. -/
def placesText (places units : Nat) : Text :=
  let whole := Nat.pow 10 places
  let part := Nat.toDigits 10 (units % whole)
  Nat.toDigits 10 (units / whole) ++
    '.' :: (List.replicate (places - part.length) '0' ++ part)

/-- The text with a fixed count of places, a tie to the even last digit. -/
def fixed (places : Nat) : Binary64 → Text
  | .nan => "nan".toList
  | .infinite negative => signed negative "inf".toList
  | .finite negative mantissa exponent =>
    let (num, den) := fraction mantissa exponent
    signed negative (placesText places (roundDiv (num * Nat.pow 10 places) den))

/-! ## 4. Reading -/

/-- The value of decimal digits, where all characters are. -/
def digitsValue? (s : Text) : Option Nat :=
  if s.all Char.isDigit then some (s.foldl (fun n c => 10 * n + (c.toNat - '0'.toNat)) 0) else none

/-- The exponent part of a decimal: nothing, or a marker, a sign at will and digits. -/
def exponentPart? : Text → Option Int
  | [] => some 0
  | c :: r =>
    if c = 'e' ∨ c = 'E' then
      match r with
      | [] => none
      | '-' :: d => if d.isEmpty then none else (digitsValue? d).map fun n => -(n : Int)
      | '+' :: d => if d.isEmpty then none else (digitsValue? d).map fun n => (n : Int)
      | d => (digitsValue? d).map fun n => (n : Int)
    else none

/-- A decimal without its sign: digits, a point at will among them, an exponent at will. -/
def unsigned? (negative : Bool) (s : Text) : Option Binary64 :=
  let whole := s.takeWhile Char.isDigit
  let r := s.dropWhile Char.isDigit
  let (part, r) := match r with
    | '.' :: r => (r.takeWhile Char.isDigit, r.dropWhile Char.isDigit)
    | r => ([], r)
  if whole.isEmpty && part.isEmpty then none
  else match digitsValue? (whole ++ part), exponentPart? r with
    | some n, some e => some (ofDecimal negative n (e - part.length))
    | _, _ => none

/-- The words for what no digits can write. -/
def special? (negative : Bool) (s : Text) : Option Binary64 :=
  let word := s.map Char.toLower
  if word = "inf".toList ∨ word = "infinity".toList then some (.infinite negative)
  else if word = "nan".toList then some .nan
  else none

/-- The number that a text spells: a sign at will, then a decimal or a word. -/
def ofText? (s : Text) : Option Binary64 :=
  let (negative, r) := match s with
    | '-' :: r => (true, r)
    | '+' :: r => (false, r)
    | r => (false, r)
  match special? negative r with
  | some x => some x
  | none => unsigned? negative r

end Binary64

end Yuml
