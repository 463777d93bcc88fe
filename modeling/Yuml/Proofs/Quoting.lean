import Yuml.Attributes
import Yuml.Proofs.Cutting
import Mathlib.Data.List.Forall2

/-!
# Quoting: where the drawing program finds the end of a text value

The drawing program reads a quoted text from behind its opening quote: a backslash is passed over
together with the character behind it, and the first quote met otherwise closes (`readQuoted`). The
writer looks at ONE character: it puts a backslash in front of every quote that has none
(`quoteValue`). The two agree on a value if and only if it is `Sealed`: each of its quotes stands
behind no backslash or an odd number of them, and it ends in an even number
(`readQuoted_quoteValue_iff`).

How a label is prepared for writing does not matter: neither the escape of braces nor the breaking
of fields changes whether it is sealed (`sealed_escape_iff`, `sealed_format_iff`).
-/

namespace Yuml

/-! ## 1. Reading and sealing -/

/-- Read a quoted text from behind its opening quote: what stands before the quote that closes it,
    and what stands behind. `skip` says that this character is passed over. -/
def readQuoted : Bool → Text → Option (Text × Text)
  | _, [] => none
  | skip, c :: r =>
    if c = '"' && !skip then some ([], r)
    else (readQuoted (c == '\\' && !skip) r).map fun p => (c :: p.1, p.2)

/-- How many backslashes a text ends in. -/
def tailRun (s : Text) : Nat := (s.reverse.takeWhile (· == '\\')).length

/-- A value that can be read back: a quote in it stands behind no backslash or an odd number of
    them, and it ends in an even number. -/
structure Sealed (value : Text) : Prop where
  quotes : ∀ l r, value = l ++ '"' :: r → tailRun l = 0 ∨ tailRun l % 2 = 1
  ending : tailRun value % 2 = 0

/-- Whether a value is sealed behind a run of backslashes. -/
def sealedFrom : Nat → Text → Bool
  | run, [] => run % 2 == 0
  | run, c :: r =>
    if c = '"' then (run == 0 || run % 2 == 1) && sealedFrom 0 r
    else sealedFrom (if c = '\\' then run + 1 else 0) r

theorem tailRun_append_singleton (s : Text) (c : Char) :
    tailRun (s ++ [c]) = if c = '\\' then tailRun s + 1 else 0 := by
  unfold tailRun
  rw [List.reverse_append, List.reverse_singleton, List.singleton_append, List.takeWhile_cons]
  by_cases hc : c = '\\'
  · simp [hc]
  · simp [hc]

/-- The quotes of a text with one more character in front. -/
theorem quotes_cons_iff {p : Text → Prop} {c : Char} {value : Text} :
    (∀ l r, c :: value = l ++ '"' :: r → p l) ↔
      (c = '"' → p []) ∧ ∀ l r, value = l ++ '"' :: r → p (c :: l) := by
  constructor
  · intro h
    refine ⟨fun hc => h [] value (by rw [hc]; rfl), fun l r hl => h (c :: l) r ?_⟩
    rw [hl]
    rfl
  · rintro ⟨h₁, h₂⟩ l r hl
    cases l with
    | nil => exact h₁ (List.cons.inj hl).1
    | cons a l =>
      obtain ⟨rfl, ht⟩ := List.cons.inj hl
      exact h₂ l r ht

/-- What the run of backslashes is behind a text that starts behind some others. -/
theorem sealedFrom_iff (front value : Text) :
    sealedFrom (tailRun front) value = true ↔
      (∀ l r, value = l ++ '"' :: r → tailRun (front ++ l) = 0 ∨ tailRun (front ++ l) % 2 = 1) ∧
        tailRun (front ++ value) % 2 = 0 := by
  induction value generalizing front with
  | nil => simp [sealedFrom]
  | cons c value ih =>
    have hfront : ∀ l, front ++ c :: l = front ++ [c] ++ l := fun l => by
      rw [List.append_assoc, List.singleton_append]
    have hih := ih (front ++ [c])
    rw [tailRun_append_singleton] at hih
    simp only [← hfront] at hih
    rw [quotes_cons_iff, List.append_nil, and_assoc, ← hih, sealedFrom]
    by_cases hc : c = '"'
    · subst hc
      simp
    · simp [hc]

theorem sealed_iff {value : Text} : Sealed value ↔ sealedFrom 0 value = true := by
  have h := sealedFrom_iff [] value
  simp only [List.nil_append] at h
  have h₀ : tailRun [] = 0 := rfl
  rw [h₀] at h
  exact ⟨fun hs => h.mpr ⟨hs.quotes, hs.ending⟩, fun hs => ⟨(h.mp hs).1, (h.mp hs).2⟩⟩

instance (value : Text) : Decidable (Sealed value) := decidable_of_iff _ sealed_iff.symm

/-! ## 2. The two agree -/

theorem map_cons_eq_some_iff {x : Option (Text × Text)} {c : Char} {front rest : Text} :
    (x.map fun p => (c :: p.1, p.2)) = some (c :: front, rest) ↔ x = some (front, rest) := by
  cases x with
  | none => simp
  | some p => simp [Prod.ext_iff]

theorem readQuoted_skip (c : Char) (r : Text) :
    readQuoted true (c :: r) = (readQuoted false r).map fun p => (c :: p.1, p.2) := by
  simp [readQuoted]

theorem readQuoted_quote (r : Text) : readQuoted false ('"' :: r) = some ([], r) := rfl

theorem readQuoted_of_ne {c : Char} (hc : c ≠ '"') (skip : Bool) (r : Text) :
    readQuoted skip (c :: r) =
      (readQuoted (c == '\\' && !skip) r).map fun p => (c :: p.1, p.2) := by
  rw [readQuoted, if_neg fun h => hc (of_decide_eq_true (Bool.and_eq_true_iff.mp h).1)]

open Attributes (quoteFrom quoteValue)

/-- Whether the reader finds the quote that the writer has put behind a value, when both stand
    behind a run of backslashes: the writer knows whether the run is empty, the reader whether it is
    odd. -/
def ReadsBack (run : Nat) (value rest : Text) : Prop :=
  readQuoted (run % 2 == 1) (quoteFrom (run != 0) value ++ '"' :: rest) =
    some (quoteFrom (run != 0) value, rest)

theorem readsBack_nil (run : Nat) (rest : Text) : ReadsBack run [] rest ↔ run % 2 = 0 := by
  rcases Nat.mod_two_eq_zero_or_one run with h | h
  · simp [ReadsBack, quoteFrom, readQuoted, h]
  · -- the closing quote is passed over, so what is read does not end in front of it
    simp [ReadsBack, quoteFrom, readQuoted, h]

/-- A quote is escaped behind no backslash, and passed over behind an odd number. -/
theorem readsBack_quote (run : Nat) (value rest : Text) :
    ReadsBack run ('"' :: value) rest ↔ (run = 0 ∨ run % 2 = 1) ∧ ReadsBack 0 value rest := by
  unfold ReadsBack
  rcases Nat.eq_zero_or_pos run with rfl | hpos
  · have e : quoteFrom (0 != 0) ('"' :: value) = '\\' :: '"' :: quoteFrom false value := rfl
    rw [e, List.cons_append, readQuoted_of_ne (by decide), map_cons_eq_some_iff]
    show readQuoted true ('"' :: (quoteFrom false value ++ '"' :: rest)) = _ ↔ _
    rw [readQuoted_skip, map_cons_eq_some_iff]
    simp
  · have e : quoteFrom (run != 0) ('"' :: value) = '"' :: quoteFrom false value := by
      simp [quoteFrom, hpos.ne']
    rw [e, List.cons_append]
    rcases Nat.mod_two_eq_zero_or_one run with h | h
    · -- the backslashes pair off, so the quote of the value closes
      have hskip : (run % 2 == 1) = false := by rw [h]; rfl
      rw [hskip, readQuoted_quote]
      simp [hpos.ne', h]
    · have hskip : (run % 2 == 1) = true := by rw [h]; rfl
      rw [hskip, readQuoted_skip, map_cons_eq_some_iff]
      simp [h]

theorem readsBack_of_ne {c : Char} (hq : c ≠ '"') (run : Nat) (value rest : Text) :
    ReadsBack run (c :: value) rest ↔
      ReadsBack (if c = '\\' then run + 1 else 0) value rest := by
  unfold ReadsBack
  by_cases hb : c = '\\'
  · subst hb
    have e : quoteFrom (run != 0) ('\\' :: value) = '\\' :: quoteFrom (run + 1 != 0) value := by
      simp [quoteFrom]
    have hskip : ('\\' == '\\' && !(run % 2 == 1)) = ((run + 1) % 2 == 1) := by
      rcases Nat.mod_two_eq_zero_or_one run with h | h <;> simp [Nat.add_mod, h]
    rw [e, List.cons_append, readQuoted_of_ne hq, hskip, map_cons_eq_some_iff, if_pos rfl]
  · have hb' : (c == '\\') = false := beq_eq_false_iff_ne.mpr hb
    have e : quoteFrom (run != 0) (c :: value) = c :: quoteFrom false value := by
      simp [quoteFrom, hq, hb']
    have hskip : (c == '\\' && !(run % 2 == 1)) = false := by simp [hb]
    rw [e, List.cons_append, readQuoted_of_ne hq, hskip, map_cons_eq_some_iff, if_neg hb]
    rfl

/-- The writer and the reader side by side, character by character. -/
theorem readsBack_iff (run : Nat) (value rest : Text) :
    ReadsBack run value rest ↔ sealedFrom run value = true := by
  induction value generalizing run with
  | nil => simp [readsBack_nil, sealedFrom]
  | cons c value ih =>
    by_cases hq : c = '"'
    · subst hq
      rw [readsBack_quote, ih 0, sealedFrom, if_pos rfl]
      simp
    · rw [readsBack_of_ne hq, ih, sealedFrom, if_neg hq]

/-- **The closing quote is found where the writer has put it if and only if the value is sealed**,
    whatever stands behind it. -/
theorem readQuoted_quoteValue_iff (value rest : Text) :
    readQuoted false (quoteValue value ++ '"' :: rest) = some (quoteValue value, rest) ↔
      Sealed value := by
  rw [sealed_iff]
  exact readsBack_iff 0 value rest

/-! ## 3. Values that are always sealed -/

/-- A value without quotes and backslashes. -/
def Clean (value : Text) : Prop := '"' ∉ value ∧ '\\' ∉ value

instance (value : Text) : Decidable (Clean value) := inferInstanceAs (Decidable (_ ∧ _))

theorem Clean.sealed {value : Text} (h : Clean value) : Sealed value where
  quotes l r e := absurd (e ▸ List.mem_append_right l List.mem_cons_self) h.1
  ending := by
    rcases List.eq_nil_or_concat value with rfl | ⟨l, c, rfl⟩
    · rfl
    · rw [List.concat_eq_append] at h ⊢
      have hc : c ≠ '\\' := fun e => h.2 (e ▸ List.mem_append_right l List.mem_cons_self)
      rw [tailRun_append_singleton, if_neg hc]

theorem quoteFrom_eq_self {value : Text} (h : '"' ∉ value) (guarded : Bool) :
    quoteFrom guarded value = value := by
  induction value generalizing guarded with
  | nil => rfl
  | cons c value ih =>
    obtain ⟨hc, hr⟩ := List.ne_and_not_mem_of_not_mem_cons h
    rw [quoteFrom, if_neg fun e => hc (of_decide_eq_true (Bool.and_eq_true_iff.mp e).1).symm, ih hr]
    rfl

/-- A value without quotes is written as it is. -/
theorem quoteValue_eq_self {value : Text} (h : '"' ∉ value) : quoteValue value = value :=
  quoteFrom_eq_self h false

/-! ## 4. Labels as they are prepared for writing -/

/-- A character that is neither a quote nor a backslash. -/
def Ordinary (c : Char) : Prop := c ≠ '"' ∧ c ≠ '\\'

instance (c : Char) : Decidable (Ordinary c) := inferInstanceAs (Decidable (_ ∧ _))

theorem sealedFrom_of_ordinary {c : Char} (hc : Ordinary c) (run : Nat) (r : Text) :
    sealedFrom run (c :: r) = sealedFrom 0 r := by
  rw [sealedFrom, if_neg hc.1, if_neg hc.2]

theorem ordinary_of_isProtected {c : Char} (h : Label.isProtected c = true) : Ordinary c := by
  unfold Label.isProtected at h
  simp only [Bool.or_eq_true, beq_iff_eq] at h
  rcases h with ((rfl | rfl) | rfl) | rfl <;> exact ⟨by decide, by decide⟩

theorem sealedFrom_escape (run : Nat) (label : Text) :
    sealedFrom run (Label.escape label) = sealedFrom run label := by
  unfold Label.escape
  induction label generalizing run with
  | nil => rfl
  | cons c label ih =>
    rw [List.flatMap_cons, Label.escapeChar]
    by_cases hp : Label.isProtected c = true
    · have hc := ordinary_of_isProtected hp
      -- the backslash in front of the character starts a run that the character ends
      rw [if_pos hp, List.cons_append, List.singleton_append, sealedFrom, if_neg (by decide),
        sealedFrom_of_ordinary hc, sealedFrom_of_ordinary hc, ih]
    · rw [if_neg hp]
      by_cases hs : c = ';'
      · subst hs
        rw [if_pos rfl, List.singleton_append, sealedFrom_of_ordinary (by decide),
          sealedFrom_of_ordinary (by decide), ih]
      · rw [if_neg hs, List.singleton_append, sealedFrom, sealedFrom, ih, ih]

/-- **Escaping a label changes nothing** for the reader. -/
theorem sealed_escape_iff {label : Text} : Sealed (Label.escape label) ↔ Sealed label := by
  rw [sealed_iff, sealed_iff, sealedFrom_escape]

/-- Whether a character is what has become of another one where a line may have been broken. -/
def Broken (c d : Char) : Prop := c = d ∨ c = '\n' ∧ d = ' '

theorem broken_self (s : Text) : List.Forall₂ Broken s s :=
  List.forall₂_same.mpr fun _ _ => .inl rfl

theorem sealedFrom_of_broken {s t : Text} (h : List.Forall₂ Broken s t) (run : Nat) :
    sealedFrom run s = sealedFrom run t := by
  induction h generalizing run with
  | nil => rfl
  | cons hcd _ ih =>
    rcases hcd with rfl | ⟨rfl, rfl⟩
    · rw [sealedFrom, sealedFrom, ih, ih]
    · rw [sealedFrom_of_ordinary (by decide), sealedFrom_of_ordinary (by decide), ih]

theorem splitAtLastSpace_eq_some {line front tail : Text}
    (h : Label.splitAtLastSpace line = some (front, tail)) : line = front ++ ' ' :: tail := by
  unfold Label.splitAtLastSpace at h
  dsimp only at h
  split at h
  · cases h
  · rename_i hne
    have hline : line.reverse.takeWhile (· != ' ') ++ line.reverse.dropWhile (· != ' ') =
        line.reverse := List.takeWhile_append_dropWhile
    have hhead := List.head?_dropWhile_not (· != ' ') line.reverse
    generalize line.reverse.takeWhile (· != ' ') = back at h hne hline
    generalize line.reverse.dropWhile (· != ' ') = rest at hline hhead
    obtain rfl : line = rest.reverse ++ back.reverse := by
      rw [← List.reverse_append, hline, List.reverse_reverse]
    cases rest with
    | nil =>
      refine absurd ?_ hne
      simp
    | cons c rest =>
      have hc : c = ' ' := by simpa using hhead
      obtain ⟨rfl, rfl⟩ := Prod.mk.inj (Option.some.inj h)
      subst hc
      have hline' : (' ' :: rest).reverse ++ back.reverse =
          rest.reverse ++ ' ' :: back.reverse := by simp
      have hlen : (rest.reverse ++ ' ' :: back.reverse).length - back.reverse.length - 1 =
          rest.reverse.length := by
        simp only [List.length_append, List.length_cons, List.length_reverse]
        omega
      rw [hline', hlen, List.take_left]

theorem broken_wrap (width : Nat) (line : Text) :
    List.Forall₂ Broken (Label.wrap width line) line := by
  unfold Label.wrap
  split
  · exact broken_self line
  · split
    · exact broken_self line
    · rename_i front tail h
      rw [splitAtLastSpace_eq_some h]
      exact List.rel_append (broken_self front) (.cons (.inr ⟨rfl, rfl⟩) (broken_self tail))

theorem broken_joinWith (sep : Text) {ps qs : List Text}
    (h : List.Forall₂ (List.Forall₂ Broken) ps qs) :
    List.Forall₂ Broken (Text.joinWith sep ps) (Text.joinWith sep qs) := by
  induction h with
  | nil => exact .nil
  | cons hpq hrest ih =>
    cases hrest with
    | nil => exact hpq
    | cons _ _ => exact List.rel_append (List.rel_append hpq (broken_self sep)) ih

/-- A label with its fields broken is the label with line feeds for some of its spaces. -/
theorem exists_broken (width : Nat) (divided : Bool) (label : Text) :
    ∃ s, Label.format width divided label = Label.escape s ∧ List.Forall₂ Broken s label := by
  unfold Label.format
  dsimp only
  generalize hf : (if divided = true then Text.splitAt '|' label else [label]) = fields
  have hjoin : Text.joinWith ['|'] fields = label := by
    cases divided with
    | false => rw [← hf]; rfl
    | true => rw [← hf]; exact Text.joinWith_splitAt '|' label
  refine ⟨_, rfl, ?_⟩
  conv_rhs => rw [← hjoin]
  refine broken_joinWith ['|'] (List.forall₂_map_left_iff.mpr ?_)
  exact List.forall₂_same.mpr fun line _ => broken_wrap width line

/-- **Breaking the fields of a label changes nothing** for the reader. -/
theorem sealed_format_iff {width : Nat} {divided : Bool} {label : Text} :
    Sealed (Label.format width divided label) ↔ Sealed label := by
  obtain ⟨s, hs, hbroken⟩ := exists_broken width divided label
  rw [hs, sealed_escape_iff, sealed_iff, sealed_iff, sealedFrom_of_broken hbroken]

end Yuml
