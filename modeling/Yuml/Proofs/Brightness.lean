import Mathlib
import Yuml.Color
import Yuml.Proofs.Naming
import Yuml.Proofs.SmallLetters

/-!
# Brightness: which colours are known, and how bright they are

A colour is resolved to three channels, each a byte, or it is not known. This file fixes what resolves
to what (`rgb?_hex`, `rgb?_name`), in any case of letters (`rgb?_toLower`), and compares the luma of a
colour, which counts ten-thousandths, with the BRIGHTNESS of the colour as a rational number:

* `brightness_eq`: the luma is the brightness times ten thousand, and nothing is rounded;
* `luma_le`: it is never above that of white;
* `weigh_mono` and `contrast_eq_white_iff`: a colour with larger channels is brighter, and the colour
  forced on its text is white only below the one threshold, and black only above the other.
-/

namespace Yuml.Color

/-! ## 1. Hexadecimal colours -/

/-- A character that spells a hexadecimal digit, in either case. -/
def SpellsDigit (v : Nat) (c : Char) : Prop :=
  "0123456789abcdef".toList[v]? = some c ∨ "0123456789ABCDEF".toList[v]? = some c

/-- Two characters that spell a byte. -/
def SpellsByte (n : Nat) (s : Text) : Prop :=
  ∃ v w a b, SpellsDigit v a ∧ SpellsDigit w b ∧ s = [a, b] ∧ n = 16 * v + w

/-- The value of a hexadecimal digit, by its code point. -/
theorem hexValue?_eq (c : Char) :
    hexValue? c =
      if 48 ≤ c.toNat ∧ c.toNat ≤ 57 then some (c.toNat - 48)
      else if 97 ≤ c.toNat ∧ c.toNat ≤ 102 then some (c.toNat - 87)
      else if 65 ≤ c.toNat ∧ c.toNat ≤ 70 then some (c.toNat - 55)
      else none := by
  have hle : ∀ a b : Char, a ≤ b ↔ a.toNat ≤ b.toNat := fun a b =>
    Char.le_def.trans UInt32.le_iff_toNat_le
  simp only [hexValue?, hle, Char.reduceToNat]
  grind

theorem hexValue?_le {c : Char} {v : Nat} (h : hexValue? c = some v) : v ≤ 15 := by
  rw [hexValue?_eq] at h
  grind

theorem hexValue?_of_spellsDigit {v : Nat} {c : Char} (h : SpellsDigit v c) :
    hexValue? c = some v ∧ c.isAlphanum = true := by
  rcases h with h | h
  all_goals
    have hv := (List.getElem?_eq_some_iff.mp h).1
    simp only [String.reduceToList, List.length_cons, List.length_nil] at hv h
    interval_cases v
  all_goals
    obtain rfl := Option.some.inj h
    decide

/-- **A character has the value of a digit exactly if it spells the digit.** -/
theorem hexValue?_eq_some_iff {v : Nat} {c : Char} : hexValue? c = some v ↔ SpellsDigit v c := by
  refine ⟨fun h => ?_, fun h => (hexValue?_of_spellsDigit h).1⟩
  rw [hexValue?_eq] at h
  have hcode : c = Char.ofNat c.toNat := (Char.ofNat_toNat c).symm
  generalize c.toNat = n at h hcode
  subst hcode
  split_ifs at h with hdigit hsmall hcapital
  all_goals obtain rfl := Option.some.inj h
  · left
    obtain ⟨hlow, hhigh⟩ := hdigit
    interval_cases n <;> rfl
  · left
    obtain ⟨hlow, hhigh⟩ := hsmall
    interval_cases n <;> rfl
  · right
    obtain ⟨hlow, hhigh⟩ := hcapital
    interval_cases n <;> rfl

/-- The digits that six characters behind `#` spell. -/
theorem ofHex?_eq_some_iff {s : Text} {c : Rgb} :
    ofHex? s = some c ↔ ∃ x₁ x₂ x₃ x₄ x₅ x₆ v₁ v₂ v₃ v₄ v₅ v₆,
      s = ['#', x₁, x₂, x₃, x₄, x₅, x₆] ∧ hexValue? x₁ = some v₁ ∧ hexValue? x₂ = some v₂ ∧
      hexValue? x₃ = some v₃ ∧ hexValue? x₄ = some v₄ ∧ hexValue? x₅ = some v₅ ∧
      hexValue? x₆ = some v₆ ∧ c = ⟨16 * v₁ + v₂, 16 * v₃ + v₄, 16 * v₅ + v₆⟩ := by
  constructor
  · intro h
    unfold ofHex? at h
    split at h
    · split at h
      · rename_i h₁ h₂ h₃ h₄ h₅ h₆
        exact ⟨_, _, _, _, _, _, _, _, _, _, _, _, rfl, h₁, h₂, h₃, h₄, h₅, h₆,
          (Option.some.inj h).symm⟩
      · cases h
    · cases h
  · rintro ⟨x₁, x₂, x₃, x₄, x₅, x₆, v₁, v₂, v₃, v₄, v₅, v₆, rfl, h₁, h₂, h₃, h₄, h₅, h₆, rfl⟩
    simp only [ofHex?, h₁, h₂, h₃, h₄, h₅, h₆]

theorem ofHex?_eq_none {s : Text} (h : '#' ∉ s) : ofHex? s = none := by
  refine Option.eq_none_iff_forall_ne_some.mpr fun c hc => ?_
  obtain ⟨_, _, _, _, _, _, _, _, _, _, _, _, rfl, -⟩ := ofHex?_eq_some_iff.mp hc
  exact h List.mem_cons_self

/-- A text with white space before it and behind it, or with none. -/
def Padded (s padded : Text) : Prop :=
  ∃ before after, padded = before ++ s ++ after ∧ (∀ c ∈ before, Text.isBlank c = true) ∧
    ∀ c ∈ after, Text.isBlank c = true

/-- A text that neither begins nor ends in white space is what trimming leaves of it, padded. -/
theorem Padded.trim {s padded : Text} (h : Padded s padded)
    (hhead : ∀ c ∈ s.head?, Text.isBlank c = false)
    (hlast : ∀ c ∈ s.getLast?, Text.isBlank c = false) : Text.trim padded = s := by
  obtain ⟨before, after, rfl, hbefore, hafter⟩ := h
  rw [Text.trim_padded hbefore hafter, Text.trim_eq_self hhead hlast]

/-- **`#` and the spellings of three bytes are the colour of these channels.** -/
theorem rgb?_hex {r g b : Nat} {rs gs bs color : Text} (hr : SpellsByte r rs) (hg : SpellsByte g gs)
    (hb : SpellsByte b bs) (h : Padded ('#' :: (rs ++ gs ++ bs)) color) :
    rgb? color = some ⟨r, g, b⟩ := by
  obtain ⟨v₁, v₂, x₁, x₂, h₁, h₂, rfl, rfl⟩ := hr
  obtain ⟨v₃, v₄, x₃, x₄, h₃, h₄, rfl, rfl⟩ := hg
  obtain ⟨v₅, v₆, x₅, x₆, h₅, h₆, rfl, rfl⟩ := hb
  have hlast : Text.isBlank x₆ = false :=
    Text.isBlank_of_isAlphanum (hexValue?_of_spellsDigit h₆).2
  have htrim : Text.trim color = ['#', x₁, x₂, x₃, x₄, x₅, x₆] :=
    h.trim (fun c hc => Option.some.inj hc ▸ (by decide)) fun c hc => Option.some.inj hc ▸ hlast
  have hhex : ofHex? ['#', x₁, x₂, x₃, x₄, x₅, x₆] =
      some ⟨16 * v₁ + v₂, 16 * v₃ + v₄, 16 * v₅ + v₆⟩ :=
    ofHex?_eq_some_iff.mpr ⟨x₁, x₂, x₃, x₄, x₅, x₆, v₁, v₂, v₃, v₄, v₅, v₆, rfl,
      (hexValue?_of_spellsDigit h₁).1, (hexValue?_of_spellsDigit h₂).1,
      (hexValue?_of_spellsDigit h₃).1, (hexValue?_of_spellsDigit h₄).1,
      (hexValue?_of_spellsDigit h₅).1, (hexValue?_of_spellsDigit h₆).1, rfl⟩
  rw [rgb?, htrim]
  simp only [hhex]

/-! ## 2. Names -/

/-- The names of their own stand in order, each in small letters, and every channel is a byte. -/
theorem named_sound :
    (named.map fun e => e.1.toList).IsChain (· < ·) ∧
      ∀ e ∈ named, e.1.toList.all (·.isLower) = true ∧
        e.2.red ≤ 255 ∧ e.2.green ≤ 255 ∧ e.2.blue ≤ 255 := by
  decide +kernel

/-- The names of greys: one of two stems, and the level. -/
def greyStems : List Text := ["gray".toList, "grey".toList]

/-- What stands in the table: the colours with a name of their own, and the greys. -/
theorem mem_table_iff {e : Text × Rgb} :
    e ∈ table ↔ (∃ n ∈ named, e = (n.1.toList, n.2)) ∨
      ∃ level stem, level ≤ 100 ∧ stem ∈ greyStems ∧
        e = (stem ++ Text.ofNat level, ⟨greyValue level, greyValue level, greyValue level⟩) := by
  simp only [table, List.mem_append, List.mem_map, List.mem_flatMap, List.mem_range, greyNames,
    greyStems, List.mem_cons, List.not_mem_nil, or_false]
  constructor
  · rintro (⟨n, hn, rfl⟩ | ⟨level, hl, rfl | rfl⟩)
    · exact .inl ⟨n, hn, rfl⟩
    · exact .inr ⟨level, _, Nat.lt_succ_iff.mp hl, .inl rfl, rfl⟩
    · exact .inr ⟨level, _, Nat.lt_succ_iff.mp hl, .inr rfl, rfl⟩
  · rintro (⟨n, hn, rfl⟩ | ⟨level, stem, hl, rfl | rfl, rfl⟩)
    · exact .inl ⟨n, hn, rfl⟩
    · exact .inr ⟨level, Nat.lt_succ_iff.mpr hl, .inl rfl⟩
    · exact .inr ⟨level, Nat.lt_succ_iff.mpr hl, .inr rfl⟩

theorem isLower_of_mem_named {n : String × Rgb} (hn : n ∈ named) {c : Char}
    (hc : c ∈ n.1.toList) : c.isLower = true :=
  List.all_eq_true.mp (named_sound.2 n hn).1 c hc

theorem isLower_of_mem_greyStems {stem : Text} (h : stem ∈ greyStems) {c : Char} (hc : c ∈ stem) :
    c.isLower = true := by
  have hall : ∀ stem ∈ greyStems, stem.all (·.isLower) = true := by decide +kernel
  exact List.all_eq_true.mp (hall stem h) c hc

/-- A name is written in small letters and digits. -/
theorem isAlphanum_of_mem_table {e : Text × Rgb} (he : e ∈ table) {c : Char} (hc : c ∈ e.1) :
    c.isAlphanum = true := by
  have hlower : c.isLower = true → c.isAlphanum = true := fun h => by
    simp [Char.isAlphanum, Char.isAlpha, h]
  rcases mem_table_iff.mp he with ⟨n, hn, rfl⟩ | ⟨level, stem, -, hstem, rfl⟩
  · exact hlower (isLower_of_mem_named hn hc)
  · rcases List.mem_append.mp hc with hc | hc
    · exact hlower (isLower_of_mem_greyStems hstem hc)
    · simp [Char.isAlphanum, Text.isDigit_of_mem_ofNat hc]

/-- **A name stands in the table once.** -/
theorem eq_of_name_eq {e f : Text × Rgb} (he : e ∈ table) (hf : f ∈ table) (h : e.1 = f.1) :
    e = f := by
  -- A grey ends in a digit, and no other name has one.
  have hgrey : ∀ {n : String × Rgb} {level : Nat} {stem : Text}, n ∈ named →
      n.1.toList ≠ stem ++ Text.ofNat level := by
    intro n level stem hn e
    obtain ⟨d, hd⟩ := List.exists_mem_of_ne_nil (Text.ofNat level) (Nat.toDigits_ne_nil)
    have hlower := isLower_of_mem_named hn (e ▸ List.mem_append_right stem hd)
    have hdigit := Text.isDigit_of_mem_ofNat hd
    simp [Char.isLower, Char.isDigit, UInt32.le_iff_toNat_le] at hlower hdigit
    omega
  rcases mem_table_iff.mp he with ⟨n, hn, rfl⟩ | ⟨level, stem, -, hstem, rfl⟩ <;>
    rcases mem_table_iff.mp hf with ⟨m, hm, rfl⟩ | ⟨level', stem', -, hstem', rfl⟩
  · have hnodup : (named.map fun e => e.1.toList).Nodup :=
      (List.isChain_iff_pairwise.mp named_sound.1).imp fun h => ne_of_lt h
    have hnm : n = m := List.inj_on_of_nodup_map hnodup hn hm h
    rw [hnm]
  · exact absurd h (hgrey hn)
  · exact absurd h.symm (hgrey hm)
  · have hlength : ∀ stem ∈ greyStems, stem.length = 4 := by decide
    obtain ⟨rfl, hlevel⟩ := List.append_inj h ((hlength stem hstem).trans (hlength stem' hstem').symm)
    rw [Text.ofNat_injective hlevel]

theorem find?_name {e : Text × Rgb} (he : e ∈ table) :
    table.find? (fun f => f.1 == e.1) = some e := by
  have hfound : (table.find? fun f => f.1 == e.1).isSome = true :=
    List.find?_isSome.mpr ⟨e, he, beq_self_eq_true e.1⟩
  obtain ⟨f, hf⟩ := Option.isSome_iff_exists.mp hfound
  have hname : f.1 = e.1 := eq_of_beq (List.find?_some (p := fun f : Text × Rgb => f.1 == e.1) hf)
  rw [hf, eq_of_name_eq (List.mem_of_find?_eq_some hf) he hname]

/-- **A name of the table is its colour**, whatever the case of its letters. -/
theorem rgb?_name {e : Text × Rgb} (he : e ∈ table) {s color : Text}
    (hs : s.map Char.toLower = e.1) (h : Padded s color) : rgb? color = some e.2 := by
  have halnum : ∀ c ∈ s, c.isAlphanum = true := by
    intro c hc
    by_cases hupper : c.isUpper = true
    · simp [Char.isAlphanum, Char.isAlpha, hupper]
    · have hmem : c.toLower ∈ e.1 := hs ▸ List.mem_map_of_mem hc
      rw [Char.toLower_eq_of_not_isUpper hupper] at hmem
      exact isAlphanum_of_mem_table he hmem
  have hlower : Text.toLower s = e.1 := by
    rw [← hs]
    refine List.map_congr_left fun c hc => if_neg fun hk => ?_
    have hkelvin := halnum c hc
    rw [hk] at hkelvin
    revert hkelvin
    decide
  have hsharp : '#' ∉ s := fun hmem => absurd (halnum '#' hmem) (by decide)
  have htrim : Text.trim color = s :=
    h.trim (fun c hc => Text.isBlank_of_isAlphanum (halnum c (List.mem_of_mem_head? hc)))
      fun c hc => Text.isBlank_of_isAlphanum (halnum c (List.mem_of_mem_getLast? hc))
  rw [rgb?, htrim]
  simp only [ofHex?_eq_none hsharp, hlower, find?_name he]
  rfl

/-! ## 3. The case of letters -/

theorem hexValue?_lowerChar (c : Char) : hexValue? (Text.lowerChar c) = hexValue? c := by
  by_cases hk : c = '\u212a'
  · subst hk
    decide
  · rw [Text.lowerChar, if_neg hk]
    by_cases hc : c.isUpper = true
    · have hrange : 65 ≤ c.toNat ∧ c.toNat ≤ 90 := by
        simpa [Char.isUpper, UInt32.le_iff_toNat_le] using hc
      have hlower : c.toLower.toNat = c.toNat + 32 := by
        rw [Char.toLower_eq_of_isUpper hc]
        refine (Char.toNat_ofNat _).trans (if_pos ?_)
        unfold Nat.isValidChar
        omega
      rw [hexValue?_eq, hexValue?_eq, hlower]
      grind
    · rw [Char.toLower_eq_of_not_isUpper hc]

theorem ofHex?_toLower (s : Text) : ofHex? (Text.toLower s) = ofHex? s := by
  refine Option.ext fun c => ?_
  rw [ofHex?_eq_some_iff, ofHex?_eq_some_iff]
  constructor
  · rintro ⟨_, _, _, _, _, _, v₁, v₂, v₃, v₄, v₅, v₆, hs, h⟩
    simp only [Text.toLower, List.map_eq_cons_iff, List.map_eq_nil_iff] at hs
    obtain ⟨x, _, rfl, hx, x₁, _, rfl, rfl, x₂, _, rfl, rfl, x₃, _, rfl, rfl, x₄, _, rfl, rfl,
      x₅, _, rfl, rfl, x₆, _, rfl, rfl, rfl⟩ := hs
    obtain rfl := Text.eq_of_lowerChar_eq (by decide) hx
    simp only [hexValue?_lowerChar] at h
    exact ⟨x₁, x₂, x₃, x₄, x₅, x₆, v₁, v₂, v₃, v₄, v₅, v₆, rfl, h⟩
  · rintro ⟨x₁, x₂, x₃, x₄, x₅, x₆, v₁, v₂, v₃, v₄, v₅, v₆, rfl, h⟩
    refine ⟨_, _, _, _, _, _, v₁, v₂, v₃, v₄, v₅, v₆, rfl, ?_⟩
    simpa only [hexValue?_lowerChar] using h

/-- **The case of the letters of a colour does not count.** -/
theorem rgb?_toLower (color : Text) : rgb? (Text.toLower color) = rgb? color := by
  simp only [rgb?, Text.trim_toLower, ofHex?_toLower, Text.toLower_toLower]

theorem fontColor_toLower (color : Text) : fontColor (Text.toLower color) = fontColor color := by
  rw [fontColor, fontColor, luma, luma, rgb?_toLower]

/-! ## 4. Brightness -/

/-- The brightness of a colour: the weighted sum of its channels, and a value in the middle for a
    colour that is not known. -/
def brightness (color : Text) : ℚ :=
  match rgb? color with
  | some c => 0.2126 * c.red + 0.7152 * c.green + 0.0722 * c.blue
  | none => 128

/-- **The luma is the brightness in ten-thousandths**, and nothing is rounded. -/
theorem brightness_eq (color : Text) : 10000 * brightness color = luma color := by
  unfold brightness luma
  cases rgb? color with
  | none => norm_num
  | some c =>
    simp only [weigh]
    push_cast
    ring

/-- The channels of a known colour are bytes. -/
theorem le_of_rgb? {color : Text} {c : Rgb} (h : rgb? color = some c) :
    c.red ≤ 255 ∧ c.green ≤ 255 ∧ c.blue ≤ 255 := by
  cases hhex : ofHex? (Text.trim color) with
  | some d =>
    have hd : d = c := by
      rw [rgb?] at h
      simpa only [hhex, Option.some.injEq] using h
    obtain ⟨_, _, _, _, _, _, v₁, v₂, v₃, v₄, v₅, v₆, -, h₁, h₂, h₃, h₄, h₅, h₆, rfl⟩ :=
      ofHex?_eq_some_iff.mp hhex
    subst hd
    have hred := Nat.add_le_add (Nat.mul_le_mul_left 16 (hexValue?_le h₁)) (hexValue?_le h₂)
    have hgreen := Nat.add_le_add (Nat.mul_le_mul_left 16 (hexValue?_le h₃)) (hexValue?_le h₄)
    have hblue := Nat.add_le_add (Nat.mul_le_mul_left 16 (hexValue?_le h₅)) (hexValue?_le h₆)
    exact ⟨hred, hgreen, hblue⟩
  | none =>
    have hname : (table.find? fun e => e.1 == Text.toLower (Text.trim color)).map (·.2) = some c := by
      rw [rgb?] at h
      simpa only [hhex] using h
    obtain ⟨e, he, rfl⟩ := Option.map_eq_some_iff.mp hname
    rcases mem_table_iff.mp (List.mem_of_find?_eq_some he) with ⟨n, hn, rfl⟩ |
      ⟨level, stem, hlevel, -, rfl⟩
    · exact (named_sound.2 n hn).2
    · have hgrey : greyValue level ≤ 255 := by
        unfold greyValue
        omega
      exact ⟨hgrey, hgrey, hgrey⟩

/-- **No colour is brighter than white.** -/
theorem luma_le (color : Text) : luma color ≤ 2550000 := by
  unfold luma
  split
  · rename_i c hc
    obtain ⟨hr, hg, hb⟩ := le_of_rgb? hc
    unfold weigh
    omega
  · omega

/-- A colour with larger channels is brighter. -/
theorem weigh_mono {c d : Rgb} (hr : c.red ≤ d.red) (hg : c.green ≤ d.green)
    (hb : c.blue ≤ d.blue) : weigh c ≤ weigh d := by
  unfold weigh
  omega

theorem contrast_eq_white_iff {n : Nat} : contrast n = some "white".toList ↔ n < darkBelow := by
  unfold contrast
  split
  · simp [*]
  · split <;> simp [*]

theorem contrast_eq_black_iff {n : Nat} : contrast n = some "black".toList ↔ lightAbove < n := by
  unfold contrast
  split
  · rename_i h
    simp [darkBelow, lightAbove] at h ⊢
    omega
  · split <;> simp [*]

/-! ## 5. Luma and contrast -/

/-- **Luma and contrast are exact and monotone.** The luma counts the ten-thousandths of the
    brightness and stays between black and white. It is that of the bytes which a hexadecimal colour
    spells, or of the triple that a name stands for, in any case and with white space around it. A
    colour with no larger channel than another is no brighter, and it gets white text where the other
    one does, and black text only where the other one does. -/
theorem luma_exact_mono :
    (∀ color, 10000 * brightness color = luma color ∧ luma color ≤ 2550000) ∧
    (∀ r g b rs gs bs color, SpellsByte r rs → SpellsByte g gs → SpellsByte b bs →
      Padded ('#' :: (rs ++ gs ++ bs)) color → rgb? color = some ⟨r, g, b⟩) ∧
    (∀ e ∈ table, ∀ s color, s.map Char.toLower = e.1 → Padded s color →
      rgb? color = some e.2) ∧
    ∀ first second c d, rgb? first = some c → rgb? second = some d →
      c.red ≤ d.red → c.green ≤ d.green → c.blue ≤ d.blue →
        luma first ≤ luma second ∧
        (fontColor second = some "white".toList → fontColor first = some "white".toList) ∧
        (fontColor first = some "black".toList → fontColor second = some "black".toList) := by
  refine ⟨fun color => ⟨brightness_eq color, luma_le color⟩,
    fun r g b rs gs bs color hr hg hb h => rgb?_hex hr hg hb h,
    fun e he s color hs h => rgb?_name he hs h, ?_⟩
  intro first second c d hc hd hred hgreen hblue
  have hluma : luma first ≤ luma second := by
    simpa only [luma, hc, hd] using weigh_mono hred hgreen hblue
  refine ⟨hluma, ?_, ?_⟩
  · rw [fontColor, fontColor, contrast_eq_white_iff, contrast_eq_white_iff]
    exact lt_of_le_of_lt hluma
  · rw [fontColor, fontColor, contrast_eq_black_iff, contrast_eq_black_iff]
    intro hlight
    exact lt_of_lt_of_le hlight hluma

/-- A spelling in mixed case between blanks, a name in mixed case, and the second brighter than the
    first: what forces black text on the one forces it on the other. -/
theorem luma_exact_mono_mixed :
    (SpellsByte 255 "fF".toList ∧ SpellsByte 248 "F8".toList ∧ SpellsByte 210 "d2".toList ∧
      rgb? " #fFF8d2\t".toList = some ⟨255, 248, 210⟩) ∧
    (("cornsilk".toList, ⟨255, 248, 220⟩) ∈ table ∧
      rgb? "\u00a0CornSilk\n".toList = some ⟨255, 248, 220⟩) ∧
    luma " #fFF8d2\t".toList ≤ luma "\u00a0CornSilk\n".toList ∧
    fontColor " #fFF8d2\t".toList = some "black".toList ∧
    fontColor "\u00a0CornSilk\n".toList = some "black".toList := by
  obtain ⟨-, hhex, hname, hmono⟩ := luma_exact_mono
  have hred : SpellsByte 255 "fF".toList := ⟨15, 15, 'f', 'F', .inl rfl, .inr rfl, rfl, rfl⟩
  have hgreen : SpellsByte 248 "F8".toList := ⟨15, 8, 'F', '8', .inr rfl, .inl rfl, rfl, rfl⟩
  have hblue : SpellsByte 210 "d2".toList := ⟨13, 2, 'd', '2', .inl rfl, .inl rfl, rfl, rfl⟩
  have hfirst := hhex 255 248 210 _ _ _ " #fFF8d2\t".toList hred hgreen hblue
    ⟨[' '], ['\t'], rfl, List.forall_mem_singleton.mpr (by decide),
      List.forall_mem_singleton.mpr (by decide)⟩
  have hmem : ("cornsilk".toList, ⟨255, 248, 220⟩) ∈ table :=
    mem_table_iff.mpr (.inl ⟨("cornsilk", ⟨255, 248, 220⟩), by simp [named], rfl⟩)
  have hsecond := hname _ hmem "CornSilk".toList "\u00a0CornSilk\n".toList (by decide)
    ⟨['\u00a0'], ['\n'], rfl, List.forall_mem_singleton.mpr (by decide),
      List.forall_mem_singleton.mpr (by decide)⟩
  obtain ⟨hluma, -, hblack⟩ := hmono _ _ _ _ hfirst hsecond (by decide) (by decide) (by decide)
  have hforced : fontColor " #fFF8d2\t".toList = some "black".toList := by
    rw [fontColor, contrast_eq_black_iff, luma, hfirst]
    decide
  exact ⟨⟨hred, hgreen, hblue, hfirst⟩, ⟨hmem, hsecond⟩, hluma, hforced, hblack hforced⟩

end Yuml.Color
