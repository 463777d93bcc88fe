import Yuml.Text.Basic

/-!
# UTF-8

Files and the output of other programs are bytes; a text is read from them as UTF-8. A sequence of
bytes that is no character is reported by its ILL-FORMED SUBPART: the longest beginning of a
character that stands there, or one byte where no character begins.

* `next` reads one character or one ill-formed subpart, and says how many bytes it took;
* `decode` reads a whole text and fails on the first ill-formed subpart;
* `decodeLossy` reads every ill-formed subpart as U+FFFD.
-/

namespace Yuml.Utf8

/-! ## 1. One character -/

/-- Why bytes are no character. -/
inductive Reason where
  | startByte
  | continuationByte
  | endOfData
  deriving DecidableEq, Repr

/-- The words for a reason. -/
def Reason.words : Reason → String
  | .startByte => "invalid start byte"
  | .continuationByte => "invalid continuation byte"
  | .endOfData => "unexpected end of data"

/-- What a first byte announces: how many bytes follow, the bits it contributes, and the range of
    the second byte, which rules out overlong forms, surrogates and numbers past U+10FFFF. -/
def lead (b : Nat) : Option (Nat × Nat × Nat × Nat) :=
  if b < 0x80 then some (0, b, 0x80, 0xBF)
  else if b < 0xC2 then none
  else if b < 0xE0 then some (1, b - 0xC0, 0x80, 0xBF)
  else if b = 0xE0 then some (2, 0, 0xA0, 0xBF)
  else if b = 0xED then some (2, 0xD, 0x80, 0x9F)
  else if b < 0xF0 then some (2, b - 0xE0, 0x80, 0xBF)
  else if b = 0xF0 then some (3, 0, 0x90, 0xBF)
  else if b < 0xF4 then some (3, b - 0xF0, 0x80, 0xBF)
  else if b = 0xF4 then some (3, 4, 0x80, 0x8F)
  else none

/-- Read the bytes that follow a first byte: `need` of them, the next one in `low` to `high`. The
    answer is the code point or the reason why there is none, and how many bytes were used. -/
def following : (need code low high used : Nat) → List UInt8 → Except Reason Nat × Nat
  | 0, code, _, _, used, _ => (.ok code, used)
  | _ + 1, _, _, _, used, [] => (.error .endOfData, used)
  | need + 1, code, low, high, used, b :: r =>
    if low ≤ b.toNat ∧ b.toNat ≤ high then
      following need (code * 64 + (b.toNat - 0x80)) 0x80 0xBF (used + 1) r
    else (.error .continuationByte, used)

/-- The character at the front of some bytes, the first of which is given, or the reason why there
    is none; and how many bytes it takes behind the first. -/
def next (b : UInt8) (r : List UInt8) : Except Reason Char × Nat :=
  match lead b.toNat with
  | none => (.error .startByte, 0)
  | some (need, code, low, high) =>
    let (result, used) := following need code low high 0 r
    (result.map Char.ofNat, used)

/-! ## 2. Whole texts -/

/-- An ill-formed subpart: its first byte, where it begins, how long it is, and the reason. -/
structure Malformed where
  byte : UInt8
  position : Nat
  length : Nat
  reason : Reason
  deriving DecidableEq, Repr

/-- Read bytes from a position on. The bytes that the character before has taken are passed over
    while `skip` counts down. -/
def decodeFrom : (skip position : Nat) → List UInt8 → Except Malformed Text
  | _, _, [] => .ok []
  | skip + 1, position, _ :: r => decodeFrom skip (position + 1) r
  | 0, position, b :: r =>
    match next b r with
    | (.error reason, used) => .error ⟨b, position, used + 1, reason⟩
    | (.ok c, used) => (decodeFrom used (position + 1) r).map (c :: ·)

/-- The text that the bytes spell. -/
def decode (bytes : List UInt8) : Except Malformed Text := decodeFrom 0 0 bytes

/-- Read bytes with U+FFFD for every ill-formed subpart. -/
def decodeLossyFrom : (skip : Nat) → List UInt8 → Text
  | _, [] => []
  | skip + 1, _ :: r => decodeLossyFrom skip r
  | 0, b :: r =>
    match next b r with
    | (.error _, used) => '\ufffd' :: decodeLossyFrom used r
    | (.ok c, used) => c :: decodeLossyFrom used r

/-- The text that the bytes spell, with U+FFFD for every ill-formed subpart. -/
def decodeLossy (bytes : List UInt8) : Text := decodeLossyFrom 0 bytes

/-- The bytes of one character. -/
def encodeChar (c : Char) : List UInt8 :=
  let n := c.toNat
  if n < 0x80 then [n.toUInt8]
  else if n < 0x800 then [(0xC0 + n / 64).toUInt8, (0x80 + n % 64).toUInt8]
  else if n < 0x10000 then
    [(0xE0 + n / 4096).toUInt8, (0x80 + n / 64 % 64).toUInt8, (0x80 + n % 64).toUInt8]
  else
    [(0xF0 + n / 262144).toUInt8, (0x80 + n / 4096 % 64).toUInt8, (0x80 + n / 64 % 64).toUInt8,
     (0x80 + n % 64).toUInt8]

/-- The bytes of a text. -/
def encode (s : Text) : List UInt8 := s.flatMap encodeChar

end Yuml.Utf8
