import Yuml.Text.Lines
import Mathlib.Data.List.DropRight
import Mathlib.Data.List.Infix

/-!
# Cutting and trimming: what the pieces of a text are

`Text.splitAt` and `Text.splitOnText` are recursions on the text. This file says what they compute,
without the recursion:

* cutting at a character inverts joining pieces that do not hold it (`splitAt_joinWith`), and no
  piece holds it (`not_mem_of_mem_splitAt`);
* cutting at a separator cuts at its FIRST occurrence and goes on behind it
  (`splitOnText_append`), so two pieces mean exactly one occurrence as it is found from the left
  (`splitOnText_eq_pair_iff`);
* a trimmed text ends in no white space (`getLast?_trim`), so the rule of the last line feed never
  applies to it.
-/

namespace Yuml.Text

/-! ## 1. Trimming -/

theorem getLast?_trimEnd {s : Text} {c : Char} (h : (trimEnd s).getLast? = some c) :
    isBlank c = false := by
  have hne : s.rdropWhile isBlank ≠ [] := by
    intro e
    have e' : trimEnd s = [] := e
    rw [e'] at h
    cases h
  have hlast := List.rdropWhile_last_not isBlank s hne
  have hc : (s.rdropWhile isBlank).getLast hne = c := by
    have h' : (s.rdropWhile isBlank).getLast? = some c := h
    rw [List.getLast?_eq_some_getLast hne] at h'
    exact Option.some.inj h'
  rw [hc] at hlast
  exact Bool.eq_false_iff.mpr hlast

theorem getLast?_trim {s : Text} {c : Char} (h : (trim s).getLast? = some c) :
    isBlank c = false := getLast?_trimEnd h

theorem beforeFinalNewline_eq_self {s : Text} (h : s.getLast? ≠ some '\n') :
    beforeFinalNewline s = s := if_neg h

theorem head?_trimStart {s : Text} {c : Char} (h : (trimStart s).head? = some c) :
    isBlank c = false := by
  have hc := List.head?_dropWhile_not isBlank s
  rw [show s.dropWhile isBlank = trimStart s from rfl, h] at hc
  simpa using hc

theorem head?_trim {s : Text} {c : Char} (h : (trim s).head? = some c) : isBlank c = false := by
  obtain ⟨back, hback⟩ := List.rdropWhile_prefix isBlank (trimStart s)
  have hs : trim s ++ back = trimStart s := hback
  refine head?_trimStart (s := s) ?_
  rw [← hs, List.head?_append, h]
  rfl

theorem trimStart_eq_self {s : Text} (h : ∀ c ∈ s.head?, isBlank c = false) : trimStart s = s := by
  cases s with
  | nil => rfl
  | cons c r => exact List.dropWhile_cons_of_neg (by rw [h c rfl]; exact Bool.false_ne_true)

theorem trimEnd_eq_self {s : Text} (h : ∀ c ∈ s.getLast?, isBlank c = false) : trimEnd s = s := by
  refine List.rdropWhile_eq_self_iff.mpr fun hne => ?_
  rw [h _ (List.getLast?_eq_some_getLast hne)]
  exact Bool.false_ne_true

/-- A text that neither begins nor ends in white space is trimmed. -/
theorem trim_eq_self {s : Text} (hh : ∀ c ∈ s.head?, isBlank c = false)
    (hl : ∀ c ∈ s.getLast?, isBlank c = false) : trim s = s := by
  rw [trim, trimStart_eq_self hh, trimEnd_eq_self hl]

theorem trimEnd_cons {c : Char} (h : isBlank c = false) (s : Text) :
    trimEnd (c :: s) = c :: trimEnd s := by
  unfold trimEnd
  rw [List.reverse_cons, List.dropWhile_append]
  split
  · rename_i he
    rw [List.isEmpty_iff.mp he, List.dropWhile_cons_of_neg (by rw [h]; exact Bool.false_ne_true)]
    rfl
  · rw [List.reverse_append]
    rfl

/-- A text in front of which a character stands that is no white space is trimmed at its end only. -/
theorem trim_cons {c : Char} (h : isBlank c = false) (s : Text) : trim (c :: s) = c :: trimEnd s := by
  have hs : trimStart (c :: s) = c :: s := trimStart_eq_self fun d hd => Option.some.inj hd ▸ h
  rw [trim, hs, trimEnd_cons h]

/-- What trimming has left alone is trimmed at its end. -/
theorem trimEnd_of_trim {s : Text} (h : trim s = s) : trimEnd s = s :=
  trimEnd_eq_self fun c hc => getLast?_trim (s := s) (by rw [h]; exact hc)

/-- A text is trimmed at its end if its last part is. -/
theorem trimEnd_append {b : Text} (h : trimEnd b = b) (hne : b ≠ []) (a : Text) :
    trimEnd (a ++ b) = a ++ b := by
  refine trimEnd_eq_self fun c hc => ?_
  rw [List.getLast?_append_of_ne_nil a hne, ← h] at hc
  exact getLast?_trimEnd hc

/-- What has been trimmed is trimmed. -/
@[simp] theorem trim_trim (s : Text) : trim (trim s) = trim s :=
  trim_eq_self (fun _ hc => head?_trim hc) fun _ hc => getLast?_trim hc

theorem trimStart_append_of_blank {before : Text} (h : ∀ c ∈ before, isBlank c = true) (s : Text) :
    trimStart (before ++ s) = trimStart s := List.dropWhile_append_of_pos h

theorem trimEnd_append_of_blank {after : Text} (h : ∀ c ∈ after, isBlank c = true) (s : Text) :
    trimEnd (s ++ after) = trimEnd s := by
  have hrev : ∀ c ∈ after.reverse, isBlank c = true := fun c hc => h c (List.mem_reverse.mp hc)
  rw [trimEnd, List.reverse_append, List.dropWhile_append_of_pos hrev]
  rfl

/-- **White space around a text does not count.** -/
theorem trim_padded {before after : Text} (hb : ∀ c ∈ before, isBlank c = true)
    (ha : ∀ c ∈ after, isBlank c = true) (s : Text) : trim (before ++ s ++ after) = trim s := by
  rw [List.append_assoc, trim, trimStart_append_of_blank hb, trim]
  by_cases hs : ∀ c ∈ s, isBlank c = true
  · have hall : ∀ c ∈ s ++ after, isBlank c = true := List.forall_mem_append.mpr ⟨hs, ha⟩
    have hnil : ∀ {t : Text}, (∀ c ∈ t, isBlank c = true) → trimStart t = [] :=
      fun ht => List.dropWhile_eq_nil_iff.mpr ht
    rw [hnil hall, hnil hs]
  · have hne : ¬ (s.dropWhile isBlank).isEmpty = true := fun e =>
      hs (List.dropWhile_eq_nil_iff.mp (List.isEmpty_iff.mp e))
    have hkept : trimStart (s ++ after) = trimStart s ++ after := by
      rw [trimStart, List.dropWhile_append, if_neg hne]
      rfl
    rw [hkept, trimEnd_append_of_blank ha]

/-- A text is its white space at the two ends around what trimming leaves of it. -/
theorem exists_trim (s : Text) :
    ∃ before after, s = before ++ trim s ++ after ∧ (∀ c ∈ before, isBlank c = true) ∧
      ∀ c ∈ after, isBlank c = true := by
  have hend : (trimStart s).rdropWhile isBlank ++ (trimStart s).rtakeWhile isBlank = trimStart s :=
    List.rdropWhile_append_rtakeWhile
  refine ⟨s.takeWhile isBlank, (trimStart s).rtakeWhile isBlank, ?_,
    fun c hc => List.mem_takeWhile_imp hc, fun c hc => List.mem_rtakeWhile_imp hc⟩
  rw [List.append_assoc]
  exact (List.takeWhile_append_dropWhile (p := isBlank) (l := s)).symm.trans
    (congrArg (s.takeWhile isBlank ++ ·) hend.symm)

theorem forall_head?_append {p : Char → Prop} {a b : Text} (ha : ∀ c ∈ a.head?, p c)
    (hb : ∀ c ∈ b.head?, p c) : ∀ c ∈ (a ++ b).head?, p c := by
  cases a with
  | nil => exact hb
  | cons => exact ha

theorem forall_getLast?_append {p : Char → Prop} {a b : Text} (ha : ∀ c ∈ a.getLast?, p c)
    (hb : ∀ c ∈ b.getLast?, p c) : ∀ c ∈ (a ++ b).getLast?, p c := by
  cases b with
  | nil =>
    rw [List.append_nil]
    exact ha
  | cons d r =>
    rw [List.getLast?_append_of_ne_nil _ (List.cons_ne_nil d r)]
    exact hb

/-! ## 2. Cutting at a character -/

theorem splitAt_cons_self (sep : Char) (r : Text) :
    splitAt sep (sep :: r) = [] :: splitAt sep r := by
  simp only [splitAt, if_true]

theorem splitAt_cons_of_ne {sep c : Char} (h : c ≠ sep) (r : Text) :
    splitAt sep (c :: r) = consToFirst c (splitAt sep r) := by
  rw [splitAt, if_neg h]
  cases splitAt sep r <;> rfl

theorem splitAt_of_not_mem {sep : Char} {s : Text} (h : sep ∉ s) : splitAt sep s = [s] := by
  induction s with
  | nil => rfl
  | cons c r ih =>
    obtain ⟨hc, hr⟩ := List.ne_and_not_mem_of_not_mem_cons h
    rw [splitAt_cons_of_ne (Ne.symm hc), ih hr]
    rfl

theorem splitAt_append {sep : Char} {l : Text} (h : sep ∉ l) (r : Text) :
    splitAt sep (l ++ sep :: r) = l :: splitAt sep r := by
  induction l with
  | nil => exact splitAt_cons_self sep r
  | cons c l ih =>
    obtain ⟨hc, hl⟩ := List.ne_and_not_mem_of_not_mem_cons h
    rw [List.cons_append, splitAt_cons_of_ne (Ne.symm hc), ih hl]
    rfl

/-- What stands in front of the character tells itself and what stands behind, if it does not hold it. -/
theorem append_cons_inj {sep : Char} {l m s t : Text} (hl : sep ∉ l) (hm : sep ∉ m)
    (h : l ++ sep :: s = m ++ sep :: t) : l = m ∧ s = t := by
  have hcut := congrArg (splitAt sep) h
  rw [splitAt_append hl, splitAt_append hm] at hcut
  obtain rfl := (List.cons.inj hcut).1
  exact ⟨rfl, (List.cons.inj (List.append_cancel_left h)).2⟩

/-- **Cutting inverts joining**, for pieces that do not hold the character. -/
theorem splitAt_joinWith {sep : Char} {ps : List Text} (hne : ps ≠ []) (h : ∀ p ∈ ps, sep ∉ p) :
    splitAt sep (joinWith [sep] ps) = ps := by
  induction ps with
  | nil => exact absurd rfl hne
  | cons p ps ih =>
    obtain ⟨hp, hps⟩ := List.forall_mem_cons.mp h
    cases ps with
    | nil => exact splitAt_of_not_mem hp
    | cons q qs =>
      have e : joinWith [sep] (p :: q :: qs) = p ++ sep :: joinWith [sep] (q :: qs) := by
        simp [joinWith]
      rw [e, splitAt_append hp, ih (List.cons_ne_nil q qs) hps]

/-- Pieces that are not empty and do not hold the character are told by what they are joined to. No
    pieces at all are joined to the empty text, which is one empty piece when it is cut. -/
theorem joinWith_inj {sep : Char} {ps qs : List Text} (hp : ∀ p ∈ ps, p ≠ [] ∧ sep ∉ p)
    (hq : ∀ q ∈ qs, q ≠ [] ∧ sep ∉ q) (h : joinWith [sep] ps = joinWith [sep] qs) : ps = qs := by
  have hcut {ps : List Text} (h : ∀ p ∈ ps, p ≠ [] ∧ sep ∉ p) :
      (splitAt sep (joinWith [sep] ps)).filter (· ≠ []) = ps := by
    cases ps with
    | nil => rfl
    | cons p ps =>
      rw [splitAt_joinWith (List.cons_ne_nil p ps) fun q hq => (h q hq).2]
      exact List.filter_eq_self.mpr fun q hq => decide_eq_true (h q hq).1
  rw [← hcut hp, h, hcut hq]

theorem mem_joinWith {sep : Text} {ps : List Text} {c : Char} (h : c ∈ joinWith sep ps) :
    c ∈ sep ∨ ∃ p ∈ ps, c ∈ p := by
  induction ps with
  | nil => exact absurd h List.not_mem_nil
  | cons p ps ih =>
    cases ps with
    | nil => exact .inr ⟨p, List.mem_cons_self, h⟩
    | cons q qs =>
      rw [joinWith, List.append_assoc, List.mem_append, List.mem_append] at h
      rcases h with h | h | h
      · exact .inr ⟨p, List.mem_cons_self, h⟩
      · exact .inl h
      · rcases ih h with h | ⟨r, hr, hc⟩
        · exact .inl h
        · exact .inr ⟨r, List.mem_cons_of_mem p hr, hc⟩

/-- No piece holds the character at which the text was cut. -/
theorem not_mem_of_mem_splitAt {sep : Char} {s p : Text} (h : p ∈ splitAt sep s) : sep ∉ p := by
  induction s generalizing p with
  | nil => simp_all [splitAt]
  | cons c r ih =>
    by_cases hc : c = sep
    · subst hc
      rw [splitAt_cons_self] at h
      rcases List.mem_cons.mp h with rfl | h
      · exact List.not_mem_nil
      · exact ih h
    · rw [splitAt_cons_of_ne hc] at h
      cases hr : splitAt sep r with
      | nil => exact absurd hr (splitAt_ne_nil sep r)
      | cons q qs =>
        rw [hr] at h ih
        rcases List.mem_cons.mp h with rfl | h
        · exact List.not_mem_cons_of_ne_of_not_mem (Ne.symm hc) (ih List.mem_cons_self)
        · exact ih (List.mem_cons_of_mem q h)

theorem infix_joinWith {sep p : Text} {ps : List Text} (h : p ∈ ps) : p <:+: joinWith sep ps := by
  induction ps with
  | nil => exact absurd h List.not_mem_nil
  | cons q qs ih =>
    cases qs with
    | nil => exact List.mem_singleton.mp h ▸ List.infix_rfl
    | cons r rs =>
      rcases List.mem_cons.mp h with rfl | h
      · rw [joinWith, List.append_assoc]
        exact (List.prefix_append p _).isInfix
      · exact (ih h).trans (List.suffix_append _ _).isInfix

theorem suffix_joinWith (sep : Text) (ps : List Text) (p : Text) :
    p <:+ joinWith sep (ps ++ [p]) := by
  induction ps with
  | nil => exact List.suffix_rfl
  | cons q qs ih =>
    cases qs with
    | nil => exact List.suffix_append _ p
    | cons r rs => exact ih.trans (List.suffix_append _ _)

/-- A piece is a part of the text. -/
theorem infix_of_mem_splitAt {sep : Char} {s p : Text} (h : p ∈ splitAt sep s) : p <:+: s := by
  have hp : p <:+: joinWith [sep] (splitAt sep s) := infix_joinWith h
  rwa [joinWith_splitAt] at hp

/-- Two pieces: the character occurs exactly once. -/
theorem splitAt_eq_pair_iff {sep : Char} {s l r : Text} :
    splitAt sep s = [l, r] ↔ s = l ++ sep :: r ∧ sep ∉ l ∧ sep ∉ r := by
  constructor
  · intro h
    have hs := joinWith_splitAt sep s
    rw [h] at hs
    refine ⟨?_, not_mem_of_mem_splitAt (h ▸ List.mem_cons_self),
      not_mem_of_mem_splitAt (h ▸ List.mem_cons_of_mem l List.mem_cons_self)⟩
    rw [← hs]
    simp [joinWith]
  · rintro ⟨rfl, hl, hr⟩
    rw [splitAt_append hl, splitAt_of_not_mem hr]

/-! ## 3. Cutting at a separator -/

theorem occursIn_iff {part s : Text} : occursIn part s = true ↔ part <:+: s := by
  induction s with
  | nil => simp [occursIn]
  | cons c r ih =>
    rw [occursIn, Bool.or_eq_true, List.isPrefixOf_iff_prefix, ih, List.infix_cons_iff]

theorem splitOnTextFrom_drop (sep : Text) (skip : Nat) (s : Text) :
    splitOnTextFrom sep skip s = splitOnText sep (s.drop skip) := by
  induction s generalizing skip with
  | nil => simp [splitOnText, splitOnTextFrom]
  | cons c r ih =>
    cases skip with
    | zero => rfl
    | succ skip => rw [splitOnTextFrom, ih, List.drop_succ_cons]

theorem splitOnText_self_append {sep : Text} (hne : sep ≠ []) (r : Text) :
    splitOnText sep (sep ++ r) = [] :: splitOnText sep r := by
  cases sep with
  | nil => exact absurd rfl hne
  | cons a as =>
    have hp : (a :: as).isPrefixOf (a :: (as ++ r)) = true :=
      List.isPrefixOf_iff_prefix.mpr (List.prefix_append (a :: as) r)
    rw [splitOnText, List.cons_append, splitOnTextFrom, if_pos hp, splitOnTextFrom_drop]
    simp

theorem splitOnText_cons {sep : Text} {c : Char} {r : Text} (h : ¬ sep <+: c :: r) :
    splitOnText sep (c :: r) = consToFirst c (splitOnText sep r) := by
  have hp : ¬ sep.isPrefixOf (c :: r) = true := fun e => h (List.isPrefixOf_iff_prefix.mp e)
  rw [splitOnText, splitOnTextFrom, if_neg hp, splitOnText]
  cases splitOnTextFrom sep 0 r <;> rfl

theorem splitOnText_of_absent {sep s : Text} (h : ¬ sep <:+: s) : splitOnText sep s = [s] := by
  induction s with
  | nil => rfl
  | cons c r ih =>
    rw [List.infix_cons_iff, not_or] at h
    rw [splitOnText_cons h.1, ih h.2]
    rfl

theorem splitOnText_ne_nil {sep : Text} (hne : sep ≠ []) (s : Text) : splitOnText sep s ≠ [] := by
  cases s with
  | nil => simp [splitOnText, splitOnTextFrom]
  | cons c r =>
    by_cases hp : sep <+: c :: r
    · obtain ⟨t, ht⟩ := hp
      rw [← ht, splitOnText_self_append hne]
      exact List.cons_ne_nil _ _
    · rw [splitOnText_cons hp]
      cases splitOnText sep r <;> exact List.cons_ne_nil _ _

/-- A text up to the last character of a separator in it, and the rest. -/
theorem append_dropLast {sep : Text} (hne : sep ≠ []) (l r : Text) :
    (l ++ sep.dropLast) ++ (sep.getLast hne :: r) = l ++ (sep ++ r) := by
  conv_rhs => rw [← List.dropLast_append_getLast hne]
  simp

/-- A separator in front of `c :: l ++ sep ++ r` ends before the last character of that `sep`. -/
theorem dropLast_of_prefix_cons {sep l r : Text} {c : Char} (hne : sep ≠ [])
    (h : sep <+: c :: (l ++ (sep ++ r))) : sep <+: c :: (l ++ sep.dropLast) := by
  rw [← append_dropLast hne l r, ← List.cons_append] at h
  have hlen : 0 < sep.length := List.length_pos_iff.mpr hne
  refine List.prefix_of_prefix_length_le h (List.prefix_append _ _) ?_
  simp only [List.length_cons, List.length_append, List.length_dropLast]
  omega

/-- **The first cut is at the first occurrence.** -/
theorem splitOnText_append {sep l : Text} (hne : sep ≠ []) (h : ¬ sep <:+: l ++ sep.dropLast)
    (r : Text) : splitOnText sep (l ++ (sep ++ r)) = l :: splitOnText sep r := by
  induction l with
  | nil => exact splitOnText_self_append hne r
  | cons c l ih =>
    rw [List.cons_append, List.infix_cons_iff, not_or] at h
    rw [List.cons_append, splitOnText_cons fun e => h.1 (dropLast_of_prefix_cons hne e), ih h.2]
    rfl

/-- What occurs in a text occurs there for a first time. -/
theorem exists_first_occurrence {sep s : Text} (hne : sep ≠ []) (h : sep <:+: s) :
    ∃ l r, s = l ++ (sep ++ r) ∧ ¬ sep <:+: l ++ sep.dropLast := by
  induction s with
  | nil => exact absurd (List.infix_nil.mp h) hne
  | cons c t ih =>
    by_cases hp : sep <+: c :: t
    · obtain ⟨r, hr⟩ := hp
      refine ⟨[], r, hr.symm, fun hi => ?_⟩
      have hlen := hi.length_le
      have hpos : 0 < sep.length := List.length_pos_iff.mpr hne
      simp only [List.nil_append, List.length_dropLast] at hlen
      omega
    · obtain ⟨l, r, rfl, hl⟩ := ih ((List.infix_cons_iff.mp h).resolve_left hp)
      refine ⟨c :: l, r, rfl, fun hi => ?_⟩
      rcases List.infix_cons_iff.mp hi with hi | hi
      · refine hp (hi.trans ?_)
        rw [← append_dropLast hne l r, ← List.cons_append]
        exact List.prefix_append _ _
      · exact hl hi

/-- **Two pieces: the separator occurs exactly once**, as occurrences are found from the left. -/
theorem splitOnText_eq_pair_iff {sep s l r : Text} (hne : sep ≠ []) :
    splitOnText sep s = [l, r] ↔
      s = l ++ (sep ++ r) ∧ ¬ sep <:+: l ++ sep.dropLast ∧ ¬ sep <:+: r := by
  constructor
  · intro h
    by_cases hs : sep <:+: s
    · obtain ⟨l', r', rfl, hl'⟩ := exists_first_occurrence hne hs
      rw [splitOnText_append hne hl'] at h
      obtain ⟨rfl, hr⟩ := List.cons.inj h
      by_cases hs' : sep <:+: r'
      · obtain ⟨l'', r'', rfl, hl''⟩ := exists_first_occurrence hne hs'
        rw [splitOnText_append hne hl''] at hr
        exact absurd (List.cons.inj hr).2 (splitOnText_ne_nil hne r'')
      · rw [splitOnText_of_absent hs'] at hr
        obtain ⟨rfl, -⟩ := List.cons.inj hr
        exact ⟨rfl, hl', hs'⟩
    · rw [splitOnText_of_absent hs] at h
      exact absurd (List.cons.inj h).2 (List.cons_ne_nil r []).symm
  · rintro ⟨rfl, hl, hr⟩
    rw [splitOnText_append hne hl, splitOnText_of_absent hr]

/-! ## 4. Checking characters one by one -/

section Check

variable {p : Char → Prop} [DecidablePred p]

/-- A property of the characters of a text, checked on these. Deciding the statement as it stands would
    try all characters there are. -/
theorem forall_of_all {s : Text} (h : (s.all fun c => decide (p c)) = true) : ∀ c ∈ s, p c :=
  fun c hc => of_decide_eq_true (List.all_eq_true.mp h c hc)

theorem forall_of_optionAll {o : Option Char} (h : (o.all fun c => decide (p c)) = true) :
    ∀ c ∈ o, p c := by
  rintro c rfl
  exact of_decide_eq_true h

end Check

/-- A code point lies in no range of a table that is checked to keep clear of its surroundings. -/
theorem any_range_eq_false {ranges : List (Nat × Nat)} {low high n : Nat}
    (hranges : ∀ r ∈ ranges, r.2 < low ∨ high < r.1) (hlow : low ≤ n) (hhigh : n ≤ high) :
    (ranges.any fun r => decide (r.1 ≤ n) && decide (n ≤ r.2)) = false := by
  refine List.any_eq_false.mpr fun r hr hin => ?_
  simp only [Bool.and_eq_true, decide_eq_true_eq] at hin
  have hrange := hranges r hr
  omega

end Yuml.Text
