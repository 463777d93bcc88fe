import Mathlib
import Yuml.Proofs.Cutting
import Yuml.Terminal.Layout

/-!
# Readable: text that stands in markup

What a command says about a failure is a text of the user with markup around it. This file says that
the text leaves the markup around it as it is:

* `cut_induction`: a text is taken apart into tags and characters that begin none;
* `isSome_plainOf?_escapeTags`: whatever the text is, the markup behind it can be read exactly if it
  can be read without the text;
* `shown?_of_fits`: a line of plain characters that has room is shown as it is.
-/

namespace Yuml.Terminal

/-! ## 1. Tags in a text -/

/-- What may stand between the brackets of a tag. -/
def IsInside (inside : Text) : Prop :=
  inside.head?.any opensTag = true ∧ ∀ c ∈ inside, c ≠ '[' ∧ c ≠ ']'

/-- A tag with some backslashes in front of it. -/
def tagText (n : Nat) (inside : Text) : Text := List.replicate n '\\' ++ '[' :: (inside ++ [']'])

theorem drop_length_takeWhile (p : Char → Bool) (s : Text) :
    s.drop (s.takeWhile p).length = s.dropWhile p := by
  have hsplit := List.takeWhile_append_dropWhile (p := p) (l := s)
  exact (congrArg (List.drop _) hsplit.symm).trans List.drop_left

theorem tagInside?_eq_some_iff {s inside : Text} :
    tagInside? s = some inside ↔ IsInside inside ∧ ∃ rest, s = '[' :: (inside ++ ']' :: rest) := by
  constructor
  · intro h
    unfold tagInside? at h
    split at h
    · rename_i r
      dsimp only at h
      split at h
      · rename_i hcond
        obtain rfl := Option.some.inj h
        obtain ⟨hopens, hcloses⟩ := Bool.and_eq_true_iff.mp hcond
        refine ⟨⟨hopens, fun c hc => by simpa using List.mem_takeWhile_imp hc⟩, ?_⟩
        rw [drop_length_takeWhile] at hcloses
        obtain ⟨rest, hrest⟩ := List.head?_eq_some_iff.mp (of_decide_eq_true hcloses)
        exact ⟨rest, by rw [← hrest, List.takeWhile_append_dropWhile]⟩
      · cases h
    · cases h
  · rintro ⟨⟨hopens, hinside⟩, rest, rfl⟩
    have hplain : ∀ c ∈ inside, (c != '[' && c != ']') = true := fun c hc => by
      simpa using hinside c hc
    have htake : (inside ++ ']' :: rest).takeWhile (fun c => c != '[' && c != ']') = inside := by
      rw [List.takeWhile_append_of_pos hplain]
      exact List.append_nil inside
    simp only [tagInside?, htake, List.drop_left, hopens, List.head?_cons, Bool.true_and,
      decide_true, if_true]

/-- A text begins with its backslashes. -/
theorem replicate_backslashes_append (s : Text) :
    List.replicate (backslashes s) '\\' ++ s.drop (backslashes s) = s := by
  have htake : s.takeWhile (· == '\\') = List.replicate (backslashes s) '\\' :=
    List.eq_replicate_of_mem fun c hc =>
      eq_of_beq (List.mem_takeWhile_imp (p := fun c => c == '\\') hc)
  have hdrop : s.drop (backslashes s) = s.dropWhile (· == '\\') := drop_length_takeWhile _ s
  rw [hdrop, ← htake, List.takeWhile_append_dropWhile]

theorem backslashes_append (n : Nat) {c : Char} (hc : c ≠ '\\') (r : Text) :
    backslashes (List.replicate n '\\' ++ c :: r) = n := by
  have hslash : ∀ d ∈ List.replicate n '\\', (d == '\\') = true := fun d hd =>
    beq_iff_eq.mpr (List.eq_of_mem_replicate hd)
  have hnone : (c :: r).takeWhile (· == '\\') = [] :=
    List.takeWhile_cons_of_neg fun h => hc (eq_of_beq h)
  rw [backslashes, List.takeWhile_append_of_pos hslash, hnone, List.append_nil,
    List.length_replicate]

theorem tagAt?_eq_some_iff {s inside : Text} {n : Nat} :
    tagAt? s = some (n, inside) ↔ IsInside inside ∧ ∃ rest, s = tagText n inside ++ rest := by
  constructor
  · intro h
    obtain ⟨inside', hinside', heq⟩ := Option.map_eq_some_iff.mp h
    obtain ⟨rfl, rfl⟩ := Prod.mk.inj heq
    obtain ⟨hinside, rest, hrest⟩ := tagInside?_eq_some_iff.mp hinside'
    have hs := replicate_backslashes_append s
    rw [hrest] at hs
    refine ⟨hinside, rest, hs.symm.trans ?_⟩
    rw [tagText, List.append_assoc, List.cons_append, List.append_assoc]
    rfl
  · rintro ⟨hinside, rest, rfl⟩
    have hs : tagText n inside ++ rest =
        List.replicate n '\\' ++ '[' :: (inside ++ ']' :: rest) := by
      rw [tagText, List.append_assoc, List.cons_append, List.append_assoc]
      rfl
    have hn := backslashes_append n (c := '[') (by decide) (inside ++ ']' :: rest)
    have hdrop : (List.replicate n '\\' ++ '[' :: (inside ++ ']' :: rest)).drop n =
        '[' :: (inside ++ ']' :: rest) := List.drop_left' List.length_replicate
    rw [tagAt?, hs, hn, hdrop, tagInside?_eq_some_iff.mpr ⟨hinside, rest, rfl⟩]
    rfl

/-- **Every text is taken apart into tags and characters that begin none.** -/
theorem cut_induction {P : Text → Prop} (nil : P [])
    (plain : ∀ c r, tagAt? (c :: r) = none → P r → P (c :: r))
    (tag : ∀ n inside rest, IsInside inside → P rest → P (tagText n inside ++ rest)) (s : Text) :
    P s := by
  induction hlength : s.length using Nat.strong_induction_on generalizing s with
  | _ n ih =>
    cases s with
    | nil => exact nil
    | cons c r =>
      cases htag : tagAt? (c :: r) with
      | none =>
        have hless : r.length < n := by
          rw [← hlength]
          exact Nat.lt_succ_self r.length
        exact plain c r htag (ih r.length hless r rfl)
      | some x =>
        obtain ⟨k, inside⟩ := x
        obtain ⟨hinside, rest, hsplit⟩ := tagAt?_eq_some_iff.mp htag
        have hless : rest.length < n := by
          rw [← hlength, hsplit, tagText]
          simp only [List.length_append, List.length_cons]
          omega
        rw [hsplit]
        exact tag k inside rest hinside (ih rest.length hless rest rfl)

/-! ## 2. Escaped tags -/

theorem length_tagText (n : Nat) (inside : Text) :
    (tagText n inside).length = n + inside.length + 2 := by
  simp only [tagText, List.length_append, List.length_replicate, List.length_cons,
    List.length_nil]
  omega

theorem exists_tagText_eq_cons (n : Nat) (inside : Text) :
    ∃ c r, tagText n inside = c :: r ∧ r.length = n + inside.length + 1 := by
  have hlength := length_tagText n inside
  cases htag : tagText n inside with
  | nil => rw [htag] at hlength; cases hlength
  | cons c r =>
    rw [htag, List.length_cons] at hlength
    exact ⟨c, r, rfl, by omega⟩

theorem escapeTags_skip (k : Nat) (s : Text) :
    escapeTags k s = s.take k ++ escapeTags 0 (s.drop k) := by
  induction k generalizing s with
  | zero => rfl
  | succ k ih =>
    cases s with
    | nil => rfl
    | cons c r => exact congrArg (c :: ·) (ih r)

theorem piecesFrom_skip (k : Nat) (s : Text) : piecesFrom k s = piecesFrom 0 (s.drop k) := by
  induction k generalizing s with
  | zero => rfl
  | succ k ih =>
    cases s with
    | nil => rfl
    | cons c r => exact ih r

section Tag

variable {inside : Text} (hinside : IsInside inside) (n : Nat) (rest : Text)

include hinside

/-- In front of a tag as many backslashes are written as there are, and one. -/
theorem escapeTags_tagText :
    escapeTags 0 (tagText n inside ++ rest) =
      tagText (2 * n + 1) inside ++ escapeTags 0 rest := by
  obtain ⟨c, r, htag, hlength⟩ := exists_tagText_eq_cons n inside
  have hat : tagAt? (c :: (r ++ rest)) = some (n, inside) := by
    rw [← List.cons_append, ← htag]
    exact tagAt?_eq_some_iff.mpr ⟨hinside, rest, rfl⟩
  have hmore : tagText (2 * n + 1) inside = List.replicate (n + 1) '\\' ++ tagText n inside := by
    rw [tagText, tagText, ← List.append_assoc, List.replicate_append_replicate]
    congr 2
    omega
  rw [hmore, htag, List.cons_append, escapeTags, hat]
  dsimp only
  rw [escapeTags_skip, List.take_left' hlength, List.drop_left' hlength]
  simp only [List.append_assoc, List.cons_append]

theorem piecesFrom_tagText :
    piecesFrom 0 (tagText n inside ++ rest) = piecesOfTag n inside ++ piecesFrom 0 rest := by
  obtain ⟨c, r, htag, hlength⟩ := exists_tagText_eq_cons n inside
  have hat : tagAt? (c :: (r ++ rest)) = some (n, inside) := by
    rw [← List.cons_append, ← htag]
    exact tagAt?_eq_some_iff.mpr ⟨hinside, rest, rfl⟩
  rw [htag, List.cons_append, piecesFrom, hat]
  dsimp only
  rw [piecesFrom_skip, List.drop_left' hlength]

end Tag

theorem escapeTags_plain {c : Char} {r : Text} (h : tagAt? (c :: r) = none) :
    escapeTags 0 (c :: r) = c :: escapeTags 0 r := by
  rw [escapeTags, h]

theorem piecesFrom_plain {c : Char} {r : Text} (h : tagAt? (c :: r) = none) :
    piecesFrom 0 (c :: r) = consToText c (piecesFrom 0 r) := by
  rw [piecesFrom, h]

/-! ## 3. Characters that begin no tag -/

/-- A character that opens or closes the brackets of a tag. -/
def isBracket (c : Char) : Bool := c == '[' || c == ']'

theorem find?_tagText (n : Nat) (inside rest : Text) :
    (tagText n inside ++ rest).find? isBracket = some '[' := by
  refine List.find?_eq_some_iff_append.mpr
    ⟨rfl, List.replicate n '\\', inside ++ [']'] ++ rest, ?_, ?_⟩
  · rw [tagText, List.append_assoc]
    rfl
  · intro c hc
    rw [List.eq_of_mem_replicate hc]
    rfl

/-- A bracket opens a tag if it is closed before another one opens, behind a character that a tag
    begins with. -/
theorem isSome_tagInside?_iff {r : Text} :
    (tagInside? ('[' :: r)).isSome = true ↔
      r.head?.any opensTag = true ∧ r.find? isBracket = some ']' := by
  constructor
  · intro h
    obtain ⟨inside, hi⟩ := Option.isSome_iff_exists.mp h
    obtain ⟨⟨hopens, hplain⟩, rest, hr⟩ := tagInside?_eq_some_iff.mp hi
    obtain rfl := (List.cons.inj hr).2
    refine ⟨?_, List.find?_eq_some_iff_append.mpr ⟨rfl, inside, rest, rfl, fun c hc => ?_⟩⟩
    · cases inside with
      | nil => cases hopens
      | cons c inside => exact hopens
    · simp [isBracket, hplain c hc]
  · rintro ⟨hopens, hfind⟩
    obtain ⟨-, inside, rest, rfl, hplain⟩ := List.find?_eq_some_iff_append.mp hfind
    refine Option.isSome_iff_exists.mpr ⟨inside, tagInside?_eq_some_iff.mpr ⟨⟨?_, fun c hc => ?_⟩,
      rest, rfl⟩⟩
    · cases inside with
      | nil => cases hopens
      | cons c inside => exact hopens
    · simpa [isBracket] using hplain c hc

/-- Escaping moves no bracket. -/
theorem find?_escapeTags (s t : Text) :
    (escapeTags 0 s ++ t).find? isBracket = (s ++ t).find? isBracket := by
  induction s using cut_induction with
  | nil => rfl
  | plain c r h ih =>
    rw [escapeTags_plain h, List.cons_append, List.cons_append, List.find?_cons, List.find?_cons, ih]
  | tag n inside rest hinside ih =>
    rw [escapeTags_tagText hinside, List.append_assoc, List.append_assoc, find?_tagText,
      find?_tagText]

/-- What a text begins with is not changed by escaping, unless a backslash is put in front. -/
theorem any_opensTag_escapeTags {s t : Text}
    (h : (escapeTags 0 s ++ t).head?.any opensTag = true) : (s ++ t).head?.any opensTag = true := by
  cases s using cut_induction with
  | nil => exact h
  | plain c r hc ih =>
    rw [escapeTags_plain hc] at h
    exact h
  | tag n inside rest hinside ih =>
    rw [escapeTags_tagText hinside] at h
    cases h

theorem tagAt?_backslash (r : Text) :
    tagAt? ('\\' :: r) = (tagAt? r).map fun x => (x.1 + 1, x.2) := by
  have hcount : backslashes ('\\' :: r) = backslashes r + 1 := rfl
  rw [tagAt?, tagAt?, hcount, List.drop_succ_cons, Option.map_map]
  rfl

theorem tagAt?_of_ne {c : Char} (h : c ≠ '\\') (r : Text) :
    tagAt? (c :: r) = (tagInside? (c :: r)).map fun inside => (0, inside) := by
  have hcount : backslashes (c :: r) = 0 := backslashes_append 0 h r
  rw [tagAt?, hcount]
  rfl

/-- Only a backslash or an opening bracket begins a tag. -/
theorem tagAt?_eq_none {c : Char} (hslash : c ≠ '\\') (hbracket : c ≠ '[') (r : Text) :
    tagAt? (c :: r) = none := by
  rw [tagAt?_of_ne hslash, Option.map_eq_none_iff]
  refine Option.eq_none_iff_forall_ne_some.mpr fun inside hi => hbracket ?_
  obtain ⟨-, rest, hrest⟩ := tagInside?_eq_some_iff.mp hi
  exact (List.cons.inj hrest).1

/-- **No tag arises where a text is escaped**, also not together with the tag that follows. -/
theorem tagAt?_escapeTags_append {s t : Text} (hne : s ≠ []) (hlast : s.getLast? ≠ some '\\')
    (ht : t.head? = some '[') (h : tagAt? s = none) : tagAt? (escapeTags 0 s ++ t) = none := by
  induction s with
  | nil => exact absurd rfl hne
  | cons c r ih =>
    rw [escapeTags_plain h, List.cons_append]
    by_cases hc : c = '\\'
    · subst hc
      have hr : r ≠ [] := by
        rintro rfl
        exact hlast rfl
      rw [tagAt?_backslash, Option.map_eq_none_iff] at h ⊢
      exact ih hr (by rwa [List.getLast?_cons_of_ne_nil hr] at hlast) h
    · rw [tagAt?_of_ne hc, Option.map_eq_none_iff] at h ⊢
      by_contra hsome
      have hsome := Option.ne_none_iff_isSome.mp hsome
      obtain ⟨inside, hi⟩ := Option.isSome_iff_exists.mp hsome
      obtain ⟨-, rest, hr⟩ := tagInside?_eq_some_iff.mp hi
      obtain ⟨rfl, -⟩ := List.cons.inj hr
      obtain ⟨hopens, hfind⟩ := isSome_tagInside?_iff.mp hsome
      have hopens := any_opensTag_escapeTags hopens
      rw [find?_escapeTags, List.find?_append] at hfind
      -- What follows begins with an opening bracket, so the closing one stands in the text itself.
      obtain ⟨t, rfl⟩ := List.head?_eq_some_iff.mp ht
      cases hown : r.find? isBracket with
      | none =>
        rw [hown] at hfind
        cases hfind
      | some d =>
        rw [hown] at hfind
        obtain rfl : d = ']' := Option.some.inj hfind
        cases r with
        | nil => cases hown
        | cons e r =>
          have htag := (isSome_tagInside?_iff (r := e :: r)).mpr ⟨hopens, hown⟩
          rw [h] at htag
          cases htag

/-! ## 4. Markup around a text -/

theorem isSome_plainOf?_consToText (opened : List Tag) (c : Char) (ps : List Piece) :
    (plainOf? opened (consToText c ps)).isSome = (plainOf? opened ps).isSome := by
  unfold consToText
  split
  · rw [plainOf?, plainOf?, Option.isSome_map, Option.isSome_map]
  · rw [plainOf?, Option.isSome_map]

/-- A tag with an odd number of backslashes in front is text. -/
theorem isSome_plainOf?_piecesOfTag (opened : List Tag) (n : Nat) (inside : Text) (ps : List Piece) :
    (plainOf? opened (piecesOfTag (2 * n + 1) inside ++ ps)).isSome =
      (plainOf? opened ps).isSome := by
  have hodd : (2 * n + 1) % 2 = 1 := by omega
  rw [piecesOfTag, if_pos hodd]
  split
  · rw [List.nil_append, List.singleton_append, plainOf?, Option.isSome_map]
  · rw [List.singleton_append, List.cons_append, List.singleton_append, plainOf?, plainOf?,
      Option.isSome_map, Option.isSome_map]

/-- **Markup behind an escaped text can be read exactly if it can be read without the text.** -/
theorem isSome_plainOf?_escapeTags {s t : Text} (hlast : s.getLast? ≠ some '\\')
    (ht : t.head? = some '[') (opened : List Tag) :
    (plainOf? opened (piecesFrom 0 (escapeTags 0 s ++ t))).isSome =
      (plainOf? opened (piecesFrom 0 t)).isSome := by
  induction s using cut_induction with
  | nil => rfl
  | plain c r h ih =>
    have hplain := tagAt?_escapeTags_append (List.cons_ne_nil c r) hlast ht h
    rw [escapeTags_plain h, List.cons_append] at hplain ⊢
    rw [piecesFrom_plain hplain, isSome_plainOf?_consToText]
    refine ih fun hr => hlast ?_
    rw [List.getLast?_cons, hr]
    rfl
  | tag n inside rest hinside ih =>
    rw [escapeTags_tagText hinside, List.append_assoc, piecesFrom_tagText hinside,
      isSome_plainOf?_piecesOfTag]
    refine ih fun hr => hlast ?_
    rw [List.getLast?_append, hr]
    rfl

theorem getLast?_escapeTags (s : Text) : (escapeTags 0 s).getLast? = s.getLast? := by
  induction s using cut_induction with
  | nil => rfl
  | plain c r h ih => rw [escapeTags_plain h, List.getLast?_cons, List.getLast?_cons, ih]
  | tag n inside rest hinside ih =>
    have htag : ∀ k, (tagText k inside).getLast? = some ']' := fun k => by
      rw [tagText, ← List.cons_append, ← List.append_assoc, List.getLast?_concat]
    rw [escapeTags_tagText hinside, List.getLast?_append, List.getLast?_append, htag, htag, ih]

/-- A text that does not end in a backslash is escaped tag by tag. -/
theorem escape_eq {s : Text} (hlast : s.getLast? ≠ some '\\') : escape s = escapeTags 0 s := by
  have hend : Text.endsWith ['\\'] (escapeTags 0 s) = false := by
    refine Bool.eq_false_iff.mpr fun h => hlast ?_
    obtain ⟨front, hfront⟩ := List.isSuffixOf_iff_suffix.mp h
    rw [← getLast?_escapeTags, ← hfront, List.getLast?_concat]
  rw [escape, hend]
  rfl

/-! ## 5. Lines with room -/

/-- A character that takes one cell and moves nothing. -/
def IsPlain (c : Char) : Prop := 32 ≤ c.toNat ∧ c.toNat ≤ 126

instance : DecidablePred IsPlain := fun c =>
  inferInstanceAs (Decidable (32 ≤ c.toNat ∧ c.toNat ≤ 126))

theorem cells_of_isPlain {c : Char} (h : IsPlain c) : cells c = 1 := by
  have hnone : inRanges noCellRanges c.toNat = false :=
    Text.any_range_eq_false (by decide +kernel) h.1 h.2
  have htwo : inRanges twoCellRanges c.toNat = false :=
    Text.any_range_eq_false (by decide +kernel) h.1 h.2
  rw [cells, hnone, htwo]
  rfl

theorem widthFrom_of_isPlain {s : Text} (h : ∀ c ∈ s, IsPlain c) (last : Option Char) :
    widthFrom last s = s.length := by
  induction s generalizing last with
  | nil => rfl
  | cons c r ih =>
    obtain ⟨hc, hr⟩ := List.forall_mem_cons.mp h
    have hjoiner : c ≠ joiner := by
      rintro rfl
      exact absurd hc.2 (by decide)
    have hselector : c ≠ selector := by
      rintro rfl
      exact absurd hc.2 (by decide)
    have hcells := cells_of_isPlain hc
    rw [widthFrom.eq_def]
    simp only [if_neg hjoiner, if_neg hselector, hcells, one_ne_zero, if_false, List.length_cons,
      ih hr]
    omega

theorem width_of_isPlain {s : Text} (h : ∀ c ∈ s, IsPlain c) : width s = s.length :=
  widthFrom_of_isPlain h none

/-- Words that have room on one line are put on it. -/
theorem place_of_fits (room : Nat) (line : Text) (words : List Text)
    (hplain : ∀ c ∈ line ++ words.flatten, IsPlain c)
    (hroom : (line ++ words.flatten).length ≤ room) :
    place room line words = [line ++ words.flatten] := by
  induction words generalizing line with
  | nil => rw [place, List.flatten_nil, List.append_nil]
  | cons word more ih =>
    rw [List.flatten_cons, ← List.append_assoc] at hplain hroom ⊢
    obtain ⟨hfront, -⟩ := List.forall_mem_append.mp hplain
    obtain ⟨hline, hword⟩ := List.forall_mem_append.mp hfront
    have htrim : Text.trimEnd word <+: word := by
      rw [Text.trimEnd, ← List.reverse_suffix, List.reverse_reverse]
      exact List.dropWhile_suffix _
    have hfits : width line + width (Text.trimEnd word) ≤ room := by
      rw [width_of_isPlain hline, width_of_isPlain fun c hc => hword c (htrim.mem hc)]
      have hlength := htrim.length_le
      rw [List.length_append, List.length_append] at hroom
      omega
    rw [place, if_pos hfits]
    exact ih _ hplain hroom

section Line

variable {s : Text} {room : Nat} (hplain : ∀ c ∈ s, IsPlain c)

include hplain

theorem ne_of_isPlain {c d : Char} (hc : c ∈ s) (hd : d.toNat < 32) : c ≠ d := by
  rintro rfl
  have hlow := (hplain c hc).1
  omega

theorem breakLine_of_fits (hroom : s.length ≤ room) : breakLine room s = [s] := by
  have hplace : place room [] (wordsFrom false false s) = [s] := by
    have hwords := flatten_wordsFrom false false s
    have h := place_of_fits room [] (wordsFrom false false s)
    rw [List.nil_append, hwords] at h
    exact h hplain hroom
  have hexcess : dropExcess room s = s := by
    have hnone : s.length - room = 0 := Nat.sub_eq_zero_of_le hroom
    rw [dropExcess, hnone, Nat.min_zero, Nat.sub_zero, List.take_length]
  rw [breakLine, hplace, ite_self, List.map_singleton, hexcess]

theorem linesOf_of_fits (hroom : s.length ≤ room) : linesOf room s = [s] := by
  have hline : '\n' ∉ s := fun h => ne_of_isPlain hplain h (by decide) rfl
  have htab : '\t' ∉ s := fun h => ne_of_isPlain hplain h (by decide) rfl
  rw [linesOf, Text.splitAt_of_not_mem hline, List.flatMap_singleton, untab,
    Text.splitAt_of_not_mem htab]
  exact breakLine_of_fits hplain hroom

/-- **A line of plain characters that has room is shown as it is.** -/
theorem shown?_of_fits {markup : Text} (hmarkup : plain? markup = some s)
    (hroom : s.length ≤ room) : shown? room markup = some (s ++ ['\n']) := by
  have hcontrol : ∀ d ∈ silenced, d.toNat < 32 := Text.forall_of_all (by decide)
  have hkept : s.filter (fun c => !silenced.contains c) = s := by
    refine List.filter_eq_self.mpr fun c hc => ?_
    rw [Bool.not_eq_true', ← Bool.not_eq_true, List.contains_iff_mem]
    exact fun hmem => ne_of_isPlain hplain hc (hcontrol c hmem) rfl
  have hwide : width s ≤ room := by rwa [width_of_isPlain hplain]
  rw [shown?, hmarkup, Option.map_some, hkept]
  dsimp only
  rw [linesOf_of_fits hplain hroom, List.map_singleton, cutTo, if_pos hwide]
  rfl

end Line

end Yuml.Terminal
