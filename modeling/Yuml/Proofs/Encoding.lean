import Mathlib
import Yuml.Text.Utf8

/-!
# Encoding: which bytes are a text

The bytes of a text are its UTF-8 as the standard library has it (`encode_eq_toUTF8`), and reading
accepts exactly the bytes of a text (`decode_eq_ok_iff`). So that some bytes can be read is a statement
about the bytes and not about the reader.

The reader is followed by what it reads: a first byte with what it announces (`lead_eq`), the bytes that
follow it (`following_eq_ok_iff`), one character (`next_eq_ok_iff`), and the whole text by induction on
its characters.
-/

namespace Yuml.Utf8

/-! ## 1. Writing -/

theorem toNat_valid (c : Char) : c.toNat < 0xD800 ∨ 0xDFFF < c.toNat ∧ c.toNat < 0x110000 :=
  c.valid

theorem encodeChar_eq (c : Char) : encodeChar c = String.utf8EncodeChar c := by
  have hvalid := toNat_valid c
  have hval : c.val.toNat = c.toNat := rfl
  have hle (m : Nat) : c.toNat ≤ m ↔ c.toNat < m + 1 := Nat.lt_succ_iff.symm
  simp only [encodeChar, String.utf8EncodeChar, hval, hle, Nat.toUInt8_eq]
  split_ifs with h₁ h₂ h₃
  · rfl
  · rw [Nat.mod_eq_of_lt (show c.toNat / 64 < 0x20 by omega), Nat.add_comm 0xC0, Nat.add_comm 0x80]
  · rw [Nat.mod_eq_of_lt (show c.toNat / 4096 < 0x10 by omega), Nat.add_comm 0xE0,
      Nat.add_comm 0x80, Nat.add_comm 0x80]
  · rw [Nat.mod_eq_of_lt (show c.toNat / 262144 < 0x08 by omega), Nat.add_comm 0xF0,
      Nat.add_comm 0x80, Nat.add_comm 0x80, Nat.add_comm 0x80]

/-- **The bytes of a text are its UTF-8.** -/
theorem encode_eq_toUTF8 (s : Text) : encode s = (String.ofList s).toUTF8.data.toList := by
  have hchars : encode s = s.flatMap String.utf8EncodeChar :=
    congrArg (s.flatMap ·) (funext encodeChar_eq)
  rw [hchars, String.toUTF8_eq_toByteArray]
  exact List.toList_data_toByteArray.symm

/-! ## 2. A first byte -/

/-- What a first byte announces, by how many bytes follow it. -/
theorem lead_eq (b : Nat) :
    lead b =
      if b < 0x80 then some (0, b, 0x80, 0xBF)
      else if b < 0xC2 then none
      else if b < 0xE0 then some (1, b - 0xC0, 0x80, 0xBF)
      else if b < 0xF0 then
        some (2, b - 0xE0, if b = 0xE0 then 0xA0 else 0x80, if b = 0xED then 0x9F else 0xBF)
      else if b < 0xF5 then
        some (3, b - 0xF0, if b = 0xF0 then 0x90 else 0x80, if b = 0xF4 then 0x8F else 0xBF)
      else none := by
  unfold lead
  split_ifs <;> first | omega | simp_all

/-! ## 3. The bytes that follow -/

/-- Some bytes follow a first byte that announces a range for the next one. -/
def Follow (low high : Nat) : List UInt8 → Prop
  | [] => True
  | b :: r => (low ≤ b.toNat ∧ b.toNat ≤ high) ∧ Follow 0x80 0xBF r

/-- The code point that some bytes continue. -/
def continued (code : Nat) (bytes : List UInt8) : Nat :=
  bytes.foldl (fun code b => code * 64 + (b.toNat - 0x80)) code

theorem continued_cons (code : Nat) (b : UInt8) (r : List UInt8) :
    continued code (b :: r) = continued (code * 64 + (b.toNat - 0x80)) r := by
  rw [continued, List.foldl_cons]
  rfl

theorem following_eq_ok_iff {need code low high used v u : Nat} {r : List UInt8} :
    following need code low high used r = (.ok v, u) ↔
      ∃ tail rest, r = tail ++ rest ∧ tail.length = need ∧ u = used + need ∧
        Follow low high tail ∧ v = continued code tail := by
  induction need generalizing code low high used r with
  | zero =>
    constructor
    · intro h
      obtain ⟨hv, hu⟩ := Prod.mk.inj h
      exact ⟨[], r, rfl, rfl, hu.symm, trivial, (Except.ok.inj hv).symm⟩
    · rintro ⟨tail, rest, rfl, hlength, rfl, -, rfl⟩
      obtain rfl := List.length_eq_zero_iff.mp hlength
      rfl
  | succ need ih =>
    cases r with
    | nil =>
      constructor
      · intro h
        cases (Prod.mk.inj h).1
      · rintro ⟨tail, rest, hnil, hlength, -⟩
        obtain ⟨rfl, -⟩ := List.append_eq_nil_iff.mp hnil.symm
        cases hlength
    | cons b r =>
      by_cases hrange : low ≤ b.toNat ∧ b.toNat ≤ high
      · rw [following, if_pos hrange, ih]
        constructor
        · rintro ⟨tail, rest, rfl, rfl, rfl, hfollow, rfl⟩
          exact ⟨b :: tail, rest, rfl, rfl, by omega, ⟨hrange, hfollow⟩,
            (continued_cons code b tail).symm⟩
        · rintro ⟨_ | ⟨x, tail⟩, rest, hsplit, hlength, rfl, hfollow, rfl⟩
          · cases hlength
          · obtain ⟨rfl, rfl⟩ := List.cons.inj hsplit
            exact ⟨tail, rest, rfl, Nat.succ.inj hlength, by omega, hfollow.2,
              continued_cons code b tail⟩
      · rw [following, if_neg hrange]
        constructor
        · intro h
          cases (Prod.mk.inj h).1
        · rintro ⟨_ | ⟨x, tail⟩, rest, hsplit, hlength, -, hfollow, -⟩
          · cases hlength
          · obtain ⟨rfl, -⟩ := List.cons.inj hsplit
            exact absurd hfollow.1 hrange

/-! ## 4. One character -/

/-- What the first byte of a character and those that follow it say about the character. -/
def Spells (b : UInt8) (tail : List UInt8) (c : Char) : Prop :=
  ∃ code low high, lead b.toNat = some (tail.length, code, low, high) ∧ Follow low high tail ∧
    c = Char.ofNat (continued code tail)

theorem next_eq_ok_iff_spells {b : UInt8} {r : List UInt8} {c : Char} {used : Nat} :
    next b r = (.ok c, used) ↔
      ∃ tail rest, r = tail ++ rest ∧ used = tail.length ∧ Spells b tail c := by
  unfold next
  constructor
  · intro h
    split at h
    · cases (Prod.mk.inj h).1
    · next need code low high hlead =>
      obtain ⟨result, u, hfollowing⟩ : ∃ result u, following need code low high 0 r = (result, u) :=
        ⟨_, _, rfl⟩
      rw [hfollowing] at h
      obtain ⟨hresult, rfl⟩ := Prod.mk.inj h
      cases result with
      | error reason => cases hresult
      | ok v =>
        obtain ⟨tail, rest, rfl, rfl, rfl, hfollow, rfl⟩ := following_eq_ok_iff.mp hfollowing
        exact ⟨tail, rest, rfl, by omega, code, low, high, hlead, hfollow,
          (Except.ok.inj hresult).symm⟩
  · rintro ⟨tail, rest, rfl, rfl, code, low, high, hlead, hfollow, rfl⟩
    have hfollowing : following tail.length code low high 0 (tail ++ rest) =
        (.ok (continued code tail), 0 + tail.length) :=
      following_eq_ok_iff.mpr ⟨tail, rest, rfl, rfl, rfl, hfollow, rfl⟩
    rw [hlead]
    simp only [hfollowing]
    rw [Nat.zero_add]
    rfl

theorem toNat_ofNat {n : Nat} (h : n < 0xD800 ∨ 0xDFFF < n ∧ n < 0x110000) :
    (Char.ofNat n).toNat = n := by
  rw [Char.toNat_ofNat, if_pos h]

theorem encodeChar_ofNat {n : Nat} (h : n < 0xD800 ∨ 0xDFFF < n ∧ n < 0x110000) :
    encodeChar (Char.ofNat n) =
      if n < 0x80 then [n.toUInt8]
      else if n < 0x800 then [(0xC0 + n / 64).toUInt8, (0x80 + n % 64).toUInt8]
      else if n < 0x10000 then
        [(0xE0 + n / 4096).toUInt8, (0x80 + n / 64 % 64).toUInt8, (0x80 + n % 64).toUInt8]
      else
        [(0xF0 + n / 262144).toUInt8, (0x80 + n / 4096 % 64).toUInt8, (0x80 + n / 64 % 64).toUInt8,
         (0x80 + n % 64).toUInt8] := by
  rw [encodeChar, toNat_ofNat h]

theorem toUInt8_eq {n : Nat} (b : UInt8) (h : n = b.toNat) : n.toUInt8 = b := by
  rw [h]
  exact UInt8.ofNat_toNat

/-- What is spelled is the character that is written so. -/
theorem encodeChar_of_spells {b : UInt8} {tail : List UInt8} {c : Char} (h : Spells b tail c) :
    encodeChar c = b :: tail := by
  obtain ⟨code, low, high, hlead, hfollow, rfl⟩ := h
  rw [lead_eq] at hlead
  split at hlead
  · next hb =>
    obtain ⟨hlength, rfl, -, -⟩ := by simpa using hlead
    obtain rfl := List.length_eq_zero_iff.mp hlength.symm
    rw [continued, List.foldl_nil, encodeChar_ofNat (by omega), if_pos hb, toUInt8_eq b rfl]
  split at hlead
  · cases hlead
  split at hlead
  · obtain ⟨hlength, rfl, rfl, rfl⟩ := by simpa using hlead
    obtain ⟨x, rfl⟩ := List.length_eq_one_iff.mp hlength.symm
    obtain ⟨hx, -⟩ := hfollow
    rw [continued_cons, continued, List.foldl_nil, encodeChar_ofNat (by omega),
      if_neg (by omega), if_pos (by omega), toUInt8_eq b (by omega), toUInt8_eq x (by omega)]
  split at hlead
  · obtain ⟨hlength, rfl, rfl, rfl⟩ := by simpa using hlead
    obtain ⟨x, y, rfl⟩ := List.length_eq_two.mp hlength.symm
    obtain ⟨hx, hy, -⟩ := hfollow
    -- No code point below 0x800 is spelled so, and no half of a surrogate pair.
    have hsecond : 0x80 ≤ x.toNat ∧ x.toNat ≤ 0xBF ∧ (b.toNat = 0xE0 → 0xA0 ≤ x.toNat) ∧
        (b.toNat = 0xED → x.toNat ≤ 0x9F) := by
      split_ifs at hx <;> omega
    rw [continued_cons, continued_cons, continued, List.foldl_nil, encodeChar_ofNat (by omega),
      if_neg (by omega), if_neg (by omega), if_pos (by omega), toUInt8_eq b (by omega),
      toUInt8_eq x (by omega), toUInt8_eq y (by omega)]
  split at hlead
  · obtain ⟨hlength, rfl, rfl, rfl⟩ := by simpa using hlead
    obtain ⟨x, y, z, rfl⟩ := List.length_eq_three.mp hlength.symm
    obtain ⟨hx, hy, hz, -⟩ := hfollow
    have hsecond : 0x80 ≤ x.toNat ∧ x.toNat ≤ 0xBF ∧ (b.toNat = 0xF0 → 0x90 ≤ x.toNat) ∧
        (b.toNat = 0xF4 → x.toNat ≤ 0x8F) := by
      split_ifs at hx <;> omega
    rw [continued_cons, continued_cons, continued_cons, continued, List.foldl_nil,
      encodeChar_ofNat (by omega), if_neg (by omega), if_neg (by omega), if_neg (by omega),
      toUInt8_eq b (by omega), toUInt8_eq x (by omega), toUInt8_eq y (by omega),
      toUInt8_eq z (by omega)]
  · cases hlead

theorem toNat_toUInt8 {n : Nat} (h : n < 256) : n.toUInt8.toNat = n := by
  rw [Nat.toUInt8_eq, UInt8.toNat_ofNat', Nat.mod_eq_of_lt h]

/-- A character is spelled by what is written for it. -/
theorem spells_of_encodeChar {b : UInt8} {tail : List UInt8} {c : Char}
    (h : encodeChar c = b :: tail) : Spells b tail c := by
  have hvalid := toNat_valid c
  have hchar {n : Nat} (hn : n = c.toNat) : c = Char.ofNat n := by rw [hn, Char.ofNat_toNat]
  rw [← Char.ofNat_toNat c, encodeChar_ofNat hvalid] at h
  split at h
  · next hone =>
    obtain ⟨rfl, rfl⟩ := List.cons.inj h
    have hb := toNat_toUInt8 (show c.toNat < 256 by omega)
    refine ⟨c.toNat, 0x80, 0xBF, ?_, trivial, hchar rfl⟩
    rw [hb, lead_eq, if_pos hone]
    rfl
  split at h
  · obtain ⟨rfl, rfl⟩ := List.cons.inj h
    have hb := toNat_toUInt8 (show 0xC0 + c.toNat / 64 < 256 by omega)
    have hx := toNat_toUInt8 (show 0x80 + c.toNat % 64 < 256 by omega)
    refine ⟨0xC0 + c.toNat / 64 - 0xC0, 0x80, 0xBF, ?_, ?_, hchar ?_⟩
    · rw [hb, lead_eq, if_neg (by omega), if_neg (by omega), if_pos (by omega)]
      rfl
    · exact ⟨by omega, trivial⟩
    · rw [continued_cons, continued, List.foldl_nil, hx]
      omega
  split at h
  · obtain ⟨rfl, rfl⟩ := List.cons.inj h
    have hb := toNat_toUInt8 (show 0xE0 + c.toNat / 4096 < 256 by omega)
    have hx := toNat_toUInt8 (show 0x80 + c.toNat / 64 % 64 < 256 by omega)
    have hy := toNat_toUInt8 (show 0x80 + c.toNat % 64 < 256 by omega)
    refine ⟨0xE0 + c.toNat / 4096 - 0xE0, if 0xE0 + c.toNat / 4096 = 0xE0 then 0xA0 else 0x80,
      if 0xE0 + c.toNat / 4096 = 0xED then 0x9F else 0xBF, ?_, ?_, hchar ?_⟩
    · rw [hb, lead_eq, if_neg (by omega), if_neg (by omega), if_neg (by omega), if_pos (by omega)]
      rfl
    · refine ⟨?_, by omega, trivial⟩
      rw [hx]
      split_ifs <;> omega
    · rw [continued_cons, continued_cons, continued, List.foldl_nil, hx, hy]
      omega
  · obtain ⟨rfl, rfl⟩ := List.cons.inj h
    have hb := toNat_toUInt8 (show 0xF0 + c.toNat / 262144 < 256 by omega)
    have hx := toNat_toUInt8 (show 0x80 + c.toNat / 4096 % 64 < 256 by omega)
    have hy := toNat_toUInt8 (show 0x80 + c.toNat / 64 % 64 < 256 by omega)
    have hz := toNat_toUInt8 (show 0x80 + c.toNat % 64 < 256 by omega)
    refine ⟨0xF0 + c.toNat / 262144 - 0xF0, if 0xF0 + c.toNat / 262144 = 0xF0 then 0x90 else 0x80,
      if 0xF0 + c.toNat / 262144 = 0xF4 then 0x8F else 0xBF, ?_, ?_, hchar ?_⟩
    · rw [hb, lead_eq, if_neg (by omega), if_neg (by omega), if_neg (by omega), if_neg (by omega),
        if_pos (by omega)]
      rfl
    · refine ⟨?_, by omega, by omega, trivial⟩
      rw [hx]
      split_ifs <;> omega
    · rw [continued_cons, continued_cons, continued_cons, continued, List.foldl_nil, hx, hy, hz]
      omega

/-- **A character is read from its bytes and from no others.** -/
theorem next_eq_ok_iff {b : UInt8} {r : List UInt8} {c : Char} {used : Nat} :
    next b r = (.ok c, used) ↔
      ∃ tail rest, r = tail ++ rest ∧ used = tail.length ∧ encodeChar c = b :: tail := by
  rw [next_eq_ok_iff_spells]
  constructor
  · rintro ⟨tail, rest, rfl, rfl, h⟩
    exact ⟨tail, rest, rfl, rfl, encodeChar_of_spells h⟩
  · rintro ⟨tail, rest, rfl, rfl, h⟩
    exact ⟨tail, rest, rfl, rfl, spells_of_encodeChar h⟩

/-! ## 5. Whole texts -/

theorem exists_encodeChar (c : Char) : ∃ b tail, encodeChar c = b :: tail := by
  unfold encodeChar
  simp only
  split_ifs <;> exact ⟨_, _, rfl⟩

theorem decodeFrom_skip (tail rest : List UInt8) (position : Nat) :
    decodeFrom tail.length position (tail ++ rest) = decodeFrom 0 (position + tail.length) rest := by
  induction tail generalizing position with
  | nil => rfl
  | cons b tail ih =>
    rw [List.length_cons, List.cons_append, decodeFrom, ih, Nat.add_right_comm, Nat.add_assoc]

theorem decodeFrom_cons_eq_ok_iff {position : Nat} {b : UInt8} {r : List UInt8} {s : Text} :
    decodeFrom 0 position (b :: r) = .ok s ↔
      ∃ c used t, next b r = (.ok c, used) ∧ decodeFrom used (position + 1) r = .ok t ∧
        s = c :: t := by
  rw [decodeFrom]
  rcases next b r with ⟨_ | c, used⟩
  · simp
  · cases hrest : decodeFrom used (position + 1) r with
    | error cause => simp [hrest, Except.map]
    | ok t => simp [hrest, Except.map, eq_comm]

theorem decodeFrom_eq_ok_iff {position : Nat} {bytes : List UInt8} {s : Text} :
    decodeFrom 0 position bytes = .ok s ↔ bytes = encode s := by
  induction s generalizing position bytes with
  | nil =>
    cases bytes with
    | nil => exact ⟨fun _ => rfl, fun _ => rfl⟩
    | cons b r =>
      rw [decodeFrom_cons_eq_ok_iff]
      constructor
      · rintro ⟨c, used, t, -, -, hnil⟩
        cases hnil
      · intro hnil
        cases hnil
  | cons c s ih =>
    constructor
    · intro h
      cases bytes with
      | nil => cases h
      | cons b r =>
        obtain ⟨c', used, t, hnext, hrest, hcons⟩ := decodeFrom_cons_eq_ok_iff.mp h
        obtain ⟨rfl, rfl⟩ := List.cons.inj hcons
        obtain ⟨tail, rest, rfl, rfl, hwritten⟩ := next_eq_ok_iff.mp hnext
        rw [decodeFrom_skip] at hrest
        rw [encode, List.flatMap_cons, hwritten, List.cons_append, ih.mp hrest, encode]
    · rintro rfl
      obtain ⟨b, tail, hwritten⟩ := exists_encodeChar c
      have hnext := next_eq_ok_iff.mpr ⟨tail, encode s, rfl, rfl, hwritten⟩
      have hrest : decodeFrom tail.length (position + 1) (tail ++ encode s) = .ok s := by
        rw [decodeFrom_skip]
        exact ih.mpr rfl
      rw [encode, List.flatMap_cons, hwritten, List.cons_append, ← encode]
      exact decodeFrom_cons_eq_ok_iff.mpr ⟨c, _, s, hnext, hrest, rfl⟩

/-- **Some bytes can be read as a text exactly if they are the bytes of that text.** -/
theorem decode_eq_ok_iff {bytes : List UInt8} {s : Text} :
    decode bytes = .ok s ↔ bytes = encode s := decodeFrom_eq_ok_iff

end Yuml.Utf8
