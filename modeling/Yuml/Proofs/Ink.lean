import Yuml.Proofs.Scan

/-!
# Ink: what tokens keep of a line

The INK of a text is what is left of it without white space. Trimming a piece takes no ink away
(`ink_trim`), and trimming is all that reading a line does to its pieces. So at every character the
ink of what a scan has found, of the piece that it is reading and of an escape that waits is the ink of
what it has read (`Scan.run_ink`), whatever the escape: a bracket, a blank, or no single character at
all. At the end of a line the tokens have the ink of the line (`tokenize_ink`).
-/

namespace Yuml

/-! ## 1. The ink of a text -/

namespace Text

/-- The characters of a text that are no white space. -/
def ink (s : Text) : Text := s.filter fun c => !isBlank c

@[simp] theorem ink_nil : ink [] = [] := rfl

@[simp] theorem ink_append (a b : Text) : ink (a ++ b) = ink a ++ ink b := List.filter_append a b

theorem ink_of_blank {s : Text} (h : ∀ c ∈ s, isBlank c = true) : ink s = [] :=
  List.filter_eq_nil_iff.mpr fun c hc => by simp [h c hc]

/-- **Trimming takes no ink away.** -/
@[simp] theorem ink_trim (s : Text) : ink (trim s) = ink s := by
  obtain ⟨before, after, hs, hbefore, hafter⟩ := exists_trim s
  conv_rhs => rw [hs]
  rw [ink_append, ink_append, ink_of_blank hbefore, ink_of_blank hafter, List.nil_append,
    List.append_nil]

end Text

/-- The texts of some tokens, one behind the other. -/
def tokensText (tokens : List Token) : Text := tokens.flatMap (·.text)

@[simp] theorem ink_tokensText_append (a b : List Token) :
    Text.ink (tokensText (a ++ b)) = Text.ink (tokensText a) ++ Text.ink (tokensText b) := by
  rw [tokensText, List.flatMap_append, Text.ink_append]
  rfl

/-- The token of a piece has the ink of the piece, and a blank piece has none. -/
@[simp] theorem Token.ink_ofPiece (piece : Text) (kind : TokenKind) :
    Text.ink (tokensText (Token.ofPiece piece kind)) = Text.ink piece := by
  rw [← Text.ink_trim piece, Token.ofPiece]
  split
  · rename_i hblank
    rw [List.isEmpty_iff.mp hblank]
    rfl
  · rw [tokensText, List.flatMap_singleton]

/-! ## 2. The ink of a scan -/

namespace Scan

variable {openers : List Char} {escape : Text} {s s' : Scan}

/-- The ink of all that a scan holds: of the tokens found, of the piece that is being read, and of an
    escape that waits for the character behind it. -/
def ink (escape : Text) (s : Scan) : Text :=
  Text.ink (tokensText s.tokens) ++ Text.ink s.word ++ Text.ink (if s.lifted then escape else [])

/-- **A character that no escape protects adds its own ink**: it is kept, or it opens a bracket behind a
    piece, or it closes the bracket that waits. -/
theorem plain_ink {c : Char} (h : plain openers s c = .ok s') (hs : s.lifted = false) :
    s'.lifted = false ∧ s'.ink escape = s.ink escape ++ Text.ink [c] := by
  have hkept : Scan.ink escape { s with word := s.word ++ [c] } = s.ink escape ++ Text.ink [c] := by
    simp [ink, hs]
  unfold plain at h
  split at h
  · split at h
    · obtain rfl := Except.ok.inj h
      refine ⟨hs, ?_⟩
      simp [ink, hs]
    · obtain rfl := Except.ok.inj h
      exact ⟨hs, hkept⟩
  · split at h
    · cases h
    · split at h
      · obtain rfl := Except.ok.inj h
        refine ⟨hs, ?_⟩
        simp [ink, hs]
      · obtain rfl := Except.ok.inj h
        exact ⟨hs, hkept⟩

/-- **Every character adds its own ink.** -/
theorem step_ink {c : Char} (h : step openers escape s c = .ok s') :
    s'.ink escape = s.ink escape ++ Text.ink [c] := by
  unfold step at h
  split at h
  · rename_i hlifted
    obtain rfl := Except.ok.inj h
    simp [ink, hlifted]
  · rename_i hlifted
    have hs : s.lifted = false := Bool.eq_false_iff.mpr hlifted
    split at h
    · rename_i hescape
      obtain rfl := Except.ok.inj h
      simp [ink, hs, hescape]
    · exact (plain_ink h hs).2

/-- **What a scan holds has the ink of what it has read.** -/
theorem run_ink {line : Text} (h : s.run openers escape line = .ok s') :
    s'.ink escape = s.ink escape ++ Text.ink line :=
  (foldlM_gathers (p := fun _ => True) (m := ink escape)
    (fun _ _ _ _ hstep => ⟨trivial, step_ink hstep⟩) trivial h).2

/-- An escape that the line ends with is read as it stands. -/
theorem settle_ink (h : s.settle openers escape = .ok s') :
    s'.lifted = false ∧ s'.ink escape = s.ink escape := by
  unfold settle at h
  split at h
  · rename_i hlifted
    obtain ⟨hlast, hink⟩ := foldlM_gathers (p := fun s => s.lifted = false) (m := ink escape)
      (fun _ _ _ hs hplain => plain_ink hplain hs) rfl h
    refine ⟨hlast, ?_⟩
    rw [hink]
    show _ ++ Text.ink escape = _
    simp [ink, hlifted]
  · rename_i hlifted
    obtain rfl := Except.ok.inj h
    exact ⟨Bool.eq_false_iff.mpr hlifted, rfl⟩

theorem finish_ink {tokens : List Token} (h : s.finish openers escape = .ok tokens) :
    Text.ink (tokensText tokens) = s.ink escape := by
  obtain ⟨t, ht, rfl⟩ := map_eq_ok_iff.mp h
  obtain ⟨hlifted, hink⟩ := settle_ink ht
  rw [← hink]
  simp [ink, hlifted]

end Scan

/-! ## 3. Lines -/

/-- **Reading a line into tokens loses nothing but white space**, with whatever escape, and every token is
    a trimmed text that is not empty. -/
theorem tokenize_ink {openers : List Char} (ho : Closable openers) (escape line : Text) :
    ∃ tokens, tokenize line openers escape = .ok tokens ∧
      Text.ink (tokensText tokens) = Text.ink line ∧
      ∀ t ∈ tokens, t.text ≠ [] ∧ Text.trim t.text = t.text := by
  obtain ⟨tokens, htokens, htrimmed⟩ := tokenize_sound ho escape line
  refine ⟨tokens, htokens, ?_, fun t ht => ?_⟩
  · obtain ⟨s, hrun, hfinish⟩ := bind_eq_ok_iff.mp htokens
    rw [Scan.finish_ink hfinish, Scan.run_ink hrun]
    rfl
  · obtain ⟨⟨piece, hpiece⟩, hne⟩ := htrimmed t ht
    rw [hpiece, Text.trim_trim]
    exact ⟨hpiece ▸ hne, rfl⟩

/-- The escape is an opener: it protects the bracket behind it and the blank, and it opens one where it
    ends the line. -/
theorem tokenize_ink_bracket :
    Closable "(|".toList ∧ ∃ tokens, tokenize " ((a) | b | ( c(".toList "(|".toList ['('] = .ok tokens ∧
      Text.ink (tokensText tokens) = "((a)|b|(c(".toList ∧
      ∀ t ∈ tokens, t.text ≠ [] ∧ Text.trim t.text = t.text := by
  have ho : Closable "(|".toList := by decide
  exact ⟨ho, tokenize_ink ho ['('] " ((a) | b | ( c(".toList⟩

end Yuml
