import Yuml.Proofs.Bracketing
import Yuml.Proofs.Segments

/-!
# Rereading: a token by itself

A token stands for itself: its text tells its kind, and reading this text again gives the token back.
For the bare tokens this is so on every line. A closed token needs a line that is STEADY
(`Text.Steady`), one in which no backslash stands in front of white space: in `(a\ )` the white space
that the backslash protects is trimmed away, and in `(a\)` the backslash protects the closer.

* A scan of a steady line holds a steady piece (`Scan.run_held`), so trimming pairs no backslash anew
  (`backslash_not_mem_exposed_trimEnd`) and each closed token is shut by its own closer alone
  (`Token.Shut`, kept by every character: `Scan.step_shut`).
* A text whose exposed characters are all kept is read as one bare token, at the end of which a
  backslash may stand alone (`Scan.run_finish_kept`).

`tokenize_rereads` says what the tokens of a line look like, and that each is read back.
-/

namespace Yuml

/-! ## 1. Steady texts -/

namespace Text

/-- A text in which no backslash stands directly in front of white space. -/
def Steady (s : Text) : Prop := s.IsChain fun c d => c = '\\' → isBlank d = false

instance (s : Text) : Decidable s.Steady := inferInstanceAs (Decidable (List.IsChain _ s))

theorem Steady.of_isInfix {s part : Text} (h : s.Steady) (hp : part <:+: s) : part.Steady :=
  List.IsChain.infix h hp

/-- **Trimming a steady text leaves no backslash over.** -/
theorem Steady.backslash_not_mem_exposed_trimEnd {s : Text} (h : s.Steady)
    (hs : '\\' ∉ exposed s) : '\\' ∉ exposed (trimEnd s) := by
  intro hend
  obtain ⟨front, hfront, -⟩ := eq_concat_of_backslash_mem_exposed hend
  have hsplit : trimEnd s ++ s.rtakeWhile isBlank = s := List.rdropWhile_append_rtakeWhile
  cases hback : s.rtakeWhile isBlank with
  | nil =>
    rw [hback, List.append_nil] at hsplit
    exact hs (hsplit ▸ hend)
  | cons c back =>
    -- the backslash stands in front of the white space that is trimmed away
    rw [hback, hfront] at hsplit
    have hpair : ['\\', c] <:+: s := ⟨front, back, by rw [← hsplit]; simp⟩
    have hblank : isBlank c = true := List.mem_rtakeWhile_imp (hback ▸ List.mem_cons_self)
    have hsteady := List.isChain_pair.mp (h.of_isInfix hpair) rfl
    rw [hblank] at hsteady
    cases hsteady

end Text

/-! ## 2. Tokens -/

/-- A token as its text tells it: a closed one begins with its opener, ends with its closer, and no
    closer is exposed between them; in a bare one no opener is exposed. -/
def Token.WellFormed (openers : List Char) (t : Token) : Prop :=
  match t.kind with
  | .closed b => b.opener ∈ openers ∧
      ∃ inner, t.text = b.opener :: (inner ++ [b.closer]) ∧ b.closer ∉ Text.exposed inner
  | .bare => ∀ o ∈ openers, o ∉ Text.exposed t.text

/-- A bare token that begins with an opener and does not close it. -/
def Token.LeftOpen (openers : List Char) (t : Token) : Prop :=
  t.kind = .bare ∧ ∃ b : Bracket, b.opener ∈ openers ∧ b.Opens t.text

/-- A closed token that its last character alone closes, with no white space in front of this. -/
def Token.Shut (t : Token) : Prop :=
  ∀ b, t.kind = .closed b → ∃ inner, t.text = b.opener :: (inner ++ [b.closer]) ∧
    b.closer ∉ Text.exposed inner ∧ '\\' ∉ Text.exposed inner ∧ Text.trimEnd inner = inner

theorem Token.Bracketed.wellFormed {openers : List Char} {t : Token} (h : t.Bracketed openers)
    (hshut : t.Shut) : t.WellFormed openers := by
  obtain ⟨text, kind⟩ := t
  cases kind with
  | bare => exact h
  | closed b =>
    obtain ⟨inner, htext, hcloser, -⟩ := hshut b rfl
    exact ⟨h.1, inner, htext, hcloser⟩

theorem Token.shut_of_mem_ofPiece_bare {piece : Text} {t : Token}
    (h : t ∈ Token.ofPiece piece .bare) : t.Shut := by
  intro b hb
  unfold Token.ofPiece at h
  split at h
  · exact absurd h List.not_mem_nil
  · obtain rfl := List.mem_singleton.mp h
    cases hb

/-- The token of a bracket whose closer has come. -/
theorem Token.shut_of_mem_ofPiece_closed {b : Bracket} {inner : Text} (hsteady : inner.Steady)
    (hcloser : b.closer ∉ Text.exposed inner) (hpaired : '\\' ∉ Text.exposed inner) {t : Token}
    (h : t ∈ Token.ofPiece (Text.trim (b.opener :: inner) ++ [b.closer]) (.closed b)) : t.Shut := by
  rw [Token.ofPiece_closed] at h
  obtain rfl := List.mem_singleton.mp h
  intro b' hb'
  obtain rfl : b = b' := TokenKind.closed.inj hb'
  have htrimmed : Text.trimEnd (Text.trimEnd inner) = Text.trimEnd inner :=
    Text.trimEnd_eq_self fun _ hc => Text.getLast?_trimEnd hc
  exact ⟨Text.trimEnd inner, rfl,
    fun hc => hcloser (Text.mem_exposed_of_mem_exposed_trimEnd hc (b.closer_ne (by decide))),
    hsteady.backslash_not_mem_exposed_trimEnd hpaired, htrimmed⟩

/-! ## 3. The scan of a steady line -/

namespace Scan

variable {openers : List Char} {s s' : Scan}

/-- What a scan holds of the line behind its last token. -/
def held (s : Scan) : Text := s.word ++ if s.lifted then ['\\'] else []

theorem plain_held {c : Char} (h : plain openers s c = .ok s') (hs : s.lifted = false) :
    s'.held = s.held ++ [c] ∨ s'.held = [c] ∨ s'.held = [] := by
  unfold plain at h
  split at h
  · split at h
    · obtain rfl := Except.ok.inj h
      exact .inr (.inl (by simp [held, hs]))
    · obtain rfl := Except.ok.inj h
      exact .inl (by simp [held, hs])
  · split at h
    · cases h
    · split at h
      · obtain rfl := Except.ok.inj h
        exact .inr (.inr (by simp [held, hs]))
      · obtain rfl := Except.ok.inj h
        exact .inl (by simp [held, hs])

/-- One character goes behind what a scan holds, or stands there alone, or ends it. -/
theorem step_held {c : Char} (h : step openers defaultEscape s c = .ok s') :
    s'.held = s.held ++ [c] ∨ s'.held = [c] ∨ s'.held = [] := by
  unfold step at h
  split at h
  · rename_i hlifted
    obtain rfl := Except.ok.inj h
    exact .inl (by simp [held, hlifted, defaultEscape])
  · rename_i hlifted
    have hs : s.lifted = false := Bool.eq_false_iff.mpr hlifted
    split at h
    · rename_i hescape
      obtain rfl := Except.ok.inj h
      obtain rfl : '\\' = c := (List.cons.inj hescape).1
      exact .inl (by simp [held, hs])
    · exact plain_held h hs

/-- **What a scan holds is the end of what it has read.** -/
theorem run_held {line : Text} (h : start.run openers defaultEscape line = .ok s) :
    s.held <:+ line := by
  induction line using List.reverseRecOn generalizing s with
  | nil =>
    obtain rfl := Except.ok.inj h
    exact List.suffix_rfl
  | append_singleton line c ih =>
    obtain ⟨t, ht, hstep⟩ := run_concat_eq_ok h
    rcases step_held hstep with hheld | hheld | hheld
    · rw [hheld]
      exact List.suffix_concat_iff.mpr (.inr ⟨t.held, rfl, ih ht⟩)
    · rw [hheld]
      exact List.suffix_append line [c]
    · rw [hheld]
      exact List.nil_suffix

/-- **Every character keeps closed tokens shut** where the scan holds a steady text. -/
theorem step_shut (hs : s.Bracketed openers) (hsteady : s.held.Steady)
    (hshut : ∀ t ∈ s.tokens, t.Shut) {c : Char} (h : step openers defaultEscape s c = .ok s') :
    ∀ t ∈ s'.tokens, t.Shut := by
  unfold step at h
  split at h
  · obtain rfl := Except.ok.inj h
    exact hshut
  split at h
  · obtain rfl := Except.ok.inj h
    exact hshut
  have hpiece := hs.piece
  have hpaired := hs.paired
  unfold plain at h
  split at h
  · split at h
    · obtain rfl := Except.ok.inj h
      exact List.forall_mem_append.mpr ⟨hshut, fun t ht => Token.shut_of_mem_ofPiece_bare ht⟩
    · obtain rfl := Except.ok.inj h
      exact hshut
  · rename_i o hpending
    rw [hpending] at hpiece
    obtain ⟨tokens, word, pending, lifted⟩ := s
    cases hpiece with
    | inside b word hb hopens =>
      obtain ⟨inner, rfl, hcloser⟩ := hopens
      rw [Bracket.ofOpener?_opener] at h
      dsimp only at h
      split at h
      · rename_i hc
        subst hc
        obtain rfl := Except.ok.inj h
        have hword : Text.Steady (b.opener :: inner) :=
          hsteady.of_isInfix (List.prefix_append _ _).isInfix
        have hinner : '\\' ∉ Text.exposed inner := by
          rw [Text.exposed_cons_of_ne (b.opener_ne (by decide))] at hpaired
          exact fun hc => hpaired (List.mem_cons_of_mem _ hc)
        refine List.forall_mem_append.mpr ⟨hshut, fun t ht => ?_⟩
        exact Token.shut_of_mem_ofPiece_closed
          (hword.of_isInfix (List.suffix_cons b.opener inner).isInfix) hcloser hinner ht
      · obtain rfl := Except.ok.inj h
        exact hshut

theorem run_shut (ho : Closable openers) {line : Text} (hline : line.Steady)
    (h : start.run openers defaultEscape line = .ok s) : ∀ t ∈ s.tokens, t.Shut := by
  induction line using List.reverseRecOn generalizing s with
  | nil =>
    obtain rfl := Except.ok.inj h
    exact fun _ ht => absurd ht List.not_mem_nil
  | append_singleton line c ih =>
    obtain ⟨t, ht, hstep⟩ := run_concat_eq_ok h
    have hfront : Text.Steady line := hline.of_isInfix (List.prefix_append line [c]).isInfix
    obtain ⟨u, hu, hbracketed⟩ := run_bracketed ho line
    obtain rfl := Except.ok.inj (hu.symm.trans ht)
    exact step_shut hbracketed (hfront.of_isInfix (run_held ht).isInfix) (ih hfront ht) hstep

/-! ## 4. One token read again -/

/-- **A text whose exposed characters are kept ends as one bare token**, with a last backslash that
    protects nothing if it has one. -/
theorem run_finish_kept (hs : s.lifted = false) {w : Text}
    (hk : ∀ c ∈ Text.exposed w, Keeps openers s.pending c) :
    (s.run openers defaultEscape w).bind (·.finish openers defaultEscape) =
      .ok (s.tokens ++ Token.ofPiece (s.word ++ w) .bare) := by
  by_cases hw : '\\' ∈ Text.exposed w
  · obtain ⟨front, rfl, hfront⟩ := Text.eq_concat_of_backslash_mem_exposed hw
    have hback : Text.exposed (front ++ ['\\']) = Text.exposed front ++ ['\\'] :=
      Text.exposed_append hfront ['\\']
    rw [hback] at hk
    obtain ⟨hkeptFront, hkeptBack⟩ := List.forall_mem_append.mp hk
    -- the backslash at the end waits for a character that does not come
    rw [run_append, run_kept hs hfront hkeptFront, ← List.append_assoc]
    show (Scan.run openers defaultEscape { s with word := s.word ++ front } ['\\']).bind _ = _
    rw [run_cons (step_backslash (s := { s with word := s.word ++ front }) hs)]
    exact finish_of_lifted (s := { s with word := s.word ++ front, lifted := true }) rfl
      (hkeptBack '\\' List.mem_cons_self)
  · rw [run_kept hs hw hk]
    exact finish_of_not_lifted (s := { s with word := s.word ++ w }) hs

end Scan

section Again

variable {openers : List Char} {w : Text}

/-- A text in which no opener is exposed is one bare token. -/
theorem tokenize_of_no_opener (h : ∀ o ∈ openers, o ∉ Text.exposed w) :
    tokenize w openers defaultEscape = .ok (Token.ofPiece w .bare) :=
  Scan.run_finish_kept (s := Scan.start) rfl fun c hc hmem => h c hmem hc

/-- A text that leaves its bracket open is one bare token. -/
theorem tokenize_of_opens {b : Bracket} (hb : b.opener ∈ openers) (h : b.Opens w) :
    tokenize w openers defaultEscape = .ok (Token.ofPiece w .bare) := by
  obtain ⟨r, rfl, hr⟩ := h
  have hopen : Scan.step openers defaultEscape Scan.start b.opener =
      .ok ⟨[], [b.opener], some b.opener, false⟩ :=
    (Scan.step_plain rfl (b.opener_ne (by decide))).trans (Scan.plain_opener rfl hb)
  rw [tokenize, Scan.run_cons hopen]
  refine Scan.run_finish_kept (s := ⟨[], [b.opener], some b.opener, false⟩) rfl fun c hc => ?_
  refine ⟨b, Bracket.ofOpener?_opener b, ?_⟩
  rintro rfl
  exact hr hc

/-- A text between the delimiters of a bracket that its last character alone closes is one closed
    token. -/
theorem tokenize_of_shut {b : Bracket} {inner : Text} (hb : b.opener ∈ openers)
    (hcloser : b.closer ∉ Text.exposed inner) (hpaired : '\\' ∉ Text.exposed inner)
    (htrimmed : Text.trimEnd inner = inner) :
    tokenize (b.opener :: (inner ++ [b.closer])) openers defaultEscape =
      .ok [⟨b.opener :: (inner ++ [b.closer]), .closed b⟩] := by
  have hlegible : ∀ p ∈ [Segment.enclosed b inner], p.Legible openers :=
    List.forall_mem_singleton.mpr (.enclosed b inner hb hcloser hpaired)
  have hread := tokenize_segments hlegible (List.IsChain.singleton _)
  have htext : [Segment.enclosed b inner].flatMap Segment.text =
      b.opener :: (inner ++ [b.closer]) := List.flatMap_singleton _ _
  rw [htext, List.map_singleton, Segment.token, htrimmed] at hread
  exact hread

/-- The token of a text that is trimmed and not empty. -/
theorem Token.Trimmed.ofPiece_eq {t : Token} (h : t.Trimmed) (hkind : t.kind = .bare) :
    Token.ofPiece t.text .bare = [t] := by
  obtain ⟨text, kind⟩ := t
  obtain ⟨⟨piece, rfl⟩, hne⟩ := h
  obtain rfl : kind = .bare := hkind
  have htrim : Text.trim (Text.trim piece) ≠ [] := by
    rw [Text.trim_trim]
    exact hne
  rw [Token.ofPiece_word htrim, Text.trim_trim]

/-- **A token by itself is read again as it was.** -/
theorem Token.tokenize_text {t : Token} (htrimmed : t.Trimmed) (hshut : t.Shut)
    (h : t.Bracketed openers ∨ t.LeftOpen openers) :
    tokenize t.text openers defaultEscape = .ok [t] := by
  rcases h with h | ⟨hkind, b, hb, hopens⟩
  · cases hkind : t.kind with
    | bare =>
      rw [Token.Bracketed, hkind] at h
      rw [tokenize_of_no_opener h, htrimmed.ofPiece_eq hkind]
    | closed b =>
      rw [Token.Bracketed, hkind] at h
      obtain ⟨inner, htext, hcloser, hpaired, hend⟩ := hshut b hkind
      obtain ⟨text, kind⟩ := t
      obtain rfl : kind = .closed b := hkind
      obtain rfl : text = b.opener :: (inner ++ [b.closer]) := htext
      exact tokenize_of_shut h.1 hcloser hpaired hend
  · rw [tokenize_of_opens hb hopens, htrimmed.ofPiece_eq hkind]

end Again

/-! ## 5. Lines -/

/-- The tokens that the brackets of a line and the words in front of them make, and the rest of the line
    behind these, which is at most one token. -/
theorem tokenize_parts {openers : List Char} (ho : Closable openers) {line : Text}
    (hline : line.Steady) :
    ∃ tokens rest, tokenize line openers defaultEscape = .ok (tokens ++ rest) ∧
      (∀ t ∈ tokens, t.Bracketed openers ∧ t.Shut) ∧
      (∀ t ∈ rest, (t.Bracketed openers ∨ t.LeftOpen openers) ∧ t.Shut) ∧ rest.length ≤ 1 := by
  have hback : '\\' ∉ openers := ho.not_mem (by decide)
  obtain ⟨s, hrun, hs⟩ := Scan.run_bracketed ho line
  obtain ⟨word, hfinish, hpiece⟩ := Scan.finish_bracketed hback hs
  have hshut := Scan.run_shut ho hline hrun
  refine ⟨s.tokens, Token.ofPiece word .bare, ?_, fun t ht => ⟨hs.tokens t ht, hshut t ht⟩,
    fun t ht => ⟨?_, Token.shut_of_mem_ofPiece_bare ht⟩, ?_⟩
  · rw [tokenize, hrun]
    exact hfinish
  -- what is left at the end of the line is outside all brackets, or leaves one open
  · generalize s.pending = p at hpiece
    cases hpiece with
    | outside word h => exact .inl (Scan.bracketed_of_mem_ofPiece (.outside word h) hback t ht)
    | inside b word hb hopens =>
      have hne : Text.trim word ≠ [] := by
        obtain ⟨r, hr, -⟩ := hopens.trim
        rw [hr]
        exact List.cons_ne_nil _ _
      rw [Token.ofPiece_word hne] at ht
      obtain rfl := List.mem_singleton.mp ht
      exact .inr ⟨rfl, b, hb, hopens.trim⟩
  · unfold Token.ofPiece
    split <;> simp

/-- **Tokens are well formed, and each is read again as it was.** Where no backslash stands in front of
    white space, each token of a line has the form of its kind, but for the last, which may begin with
    an opener that it does not close; and each is the only token of its own text. -/
theorem tokenize_rereads {openers : List Char} (ho : Closable openers) {line : Text}
    (hline : line.Steady) :
    ∃ tokens, tokenize line openers defaultEscape = .ok tokens ∧
      (∀ t ∈ tokens.dropLast, t.WellFormed openers) ∧
      (∀ t ∈ tokens.getLast?, t.WellFormed openers ∨ t.LeftOpen openers) ∧
      ∀ t ∈ tokens, tokenize t.text openers defaultEscape = .ok [t] := by
  obtain ⟨tokens, rest, htokens, hfront, hrest, hlength⟩ := tokenize_parts ho hline
  obtain ⟨tokens', htokens', htrimmed⟩ := tokenize_sound ho defaultEscape line
  obtain rfl := Except.ok.inj (htokens.symm.trans htokens')
  have hwhole : ∀ t ∈ tokens, t.WellFormed openers := fun t ht =>
    (hfront t ht).1.wellFormed (hfront t ht).2
  refine ⟨_, htokens, fun t ht => ?_, fun t ht => ?_, fun t ht => ?_⟩
  · match rest, hlength with
    | [], _ => exact hwhole t (List.append_nil tokens ▸ List.mem_of_mem_dropLast ht)
    | [last], _ =>
      rw [List.dropLast_concat] at ht
      exact hwhole t ht
  · match rest, hlength with
    | [], _ =>
      rw [List.append_nil] at ht
      exact .inl (hwhole t (List.mem_of_getLast? ht))
    | [last], _ =>
      rw [List.getLast?_concat] at ht
      obtain rfl := Option.some.inj ht
      obtain ⟨hform, hshut⟩ := hrest last List.mem_cons_self
      exact hform.imp_left fun h => h.wellFormed hshut
  · rcases List.mem_append.mp ht with hmem | hmem
    · exact Token.tokenize_text (htrimmed t ht) (hfront t hmem).2 (.inl (hfront t hmem).1)
    · exact Token.tokenize_text (htrimmed t ht) (hrest t hmem).2 (hrest t hmem).1

/-- Two brackets hold openers and closers of other kinds and closers of their own that a backslash
    protects; the bare token between them begins with a protected opener, and the last one leaves its
    bracket open and ends in a backslash. -/
theorem tokenize_rereads_leftOpen :
    Closable "(|".toList ∧ Text.Steady " ( a|\\) )\\(-> |b)\\|| ->(c\\)\\".toList ∧
      ∃ tokens,
        tokenize " ( a|\\) )\\(-> |b)\\|| ->(c\\)\\".toList "(|".toList defaultEscape = .ok tokens ∧
        (∀ t ∈ tokens.dropLast, t.WellFormed "(|".toList) ∧
        (∀ t ∈ tokens.getLast?, t.WellFormed "(|".toList ∨ t.LeftOpen "(|".toList) ∧
        ∀ t ∈ tokens, tokenize t.text "(|".toList defaultEscape = .ok [t] := by
  have ho : Closable "(|".toList := by decide
  have hline : Text.Steady " ( a|\\) )\\(-> |b)\\|| ->(c\\)\\".toList := by decide
  exact ⟨ho, hline, tokenize_rereads ho hline⟩

end Yuml
