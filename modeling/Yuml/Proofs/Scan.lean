import Yuml.Options
import Yuml.Proofs.Cutting
import Yuml.Proofs.Success

/-!
# Scans: what is true wherever the reading of a line stands

`tokenize` can fail in one place only: where an opener waits that belongs to no pair of delimiters.
The INVARIANT of a scan (`Scan.Sound`) says that this does not happen and that every token found so
far is a trimmed text. It holds at the start of a line, every character keeps it
(`step_sound`), and so every line has tokens (`tokenize_sound`) as long as every opener belongs to a
pair, as the openers of both grammars do (`openers_closable`).

One character is kept in the piece that is being read, or it opens a bracket, or it closes the one that
waits (`plain_of_keeps`, `plain_opener`, `plain_closer`). At the end of a line the piece that is left makes
a bare token (`finish_of_not_lifted`, `finish_of_lifted`).
-/

namespace Yuml

namespace Bracket

theorem opener_injective {a b : Bracket} (h : a.opener = b.opener) : a = b := by
  have ha := ofOpener?_opener a
  rw [h, ofOpener?_opener] at ha
  exact (Option.some.inj ha).symm

theorem mem_brackets_of_opener {g : Grammar} {b : Bracket} (h : b.opener ∈ g.openers) :
    b ∈ g.brackets := by
  obtain ⟨a, ha, hab⟩ := List.mem_map.mp h
  exact opener_injective hab ▸ ha

theorem opener_ne {c : Char} (h : c ∉ "([<|".toList) (b : Bracket) : b.opener ≠ c := by
  rintro rfl
  cases b <;> exact h (by decide)

theorem closer_ne {c : Char} (h : c ∉ ")]>|".toList) (b : Bracket) : b.closer ≠ c := by
  rintro rfl
  cases b <;> exact h (by decide)

theorem isBlank_opener (b : Bracket) : Text.isBlank b.opener = false := by
  cases b <;> decide

theorem isBlank_closer (b : Bracket) : Text.isBlank b.closer = false := by
  cases b <;> decide

end Bracket

/-- A token as readings make it: trimmed and not empty. -/
def Token.Trimmed (t : Token) : Prop := (∃ piece, t.text = Text.trim piece) ∧ t.text ≠ []

theorem Token.trimmed_of_mem_ofPiece {piece : Text} {kind : TokenKind} {t : Token}
    (h : t ∈ Token.ofPiece piece kind) : t.Trimmed := by
  unfold Token.ofPiece at h
  split at h
  · exact absurd h List.not_mem_nil
  · rename_i hne
    rw [List.mem_singleton] at h
    subst h
    exact ⟨⟨piece, rfl⟩, fun e => hne (List.isEmpty_iff.mpr e)⟩

/-- Every one of the openers belongs to a pair of delimiters. -/
def Closable (openers : List Char) : Prop := ∀ c ∈ openers, ∃ b, Bracket.ofOpener? c = some b

theorem closable_iff {openers : List Char} :
    (openers.all fun c => (Bracket.ofOpener? c).isSome) = true ↔ Closable openers := by
  rw [List.all_eq_true]
  exact forall₂_congr fun _ _ => Option.isSome_iff_exists

instance (openers : List Char) : Decidable (Closable openers) := decidable_of_iff _ closable_iff

theorem Closable.not_mem {openers : List Char} (ho : Closable openers) {c : Char}
    (hc : c ∉ "([<|".toList) : c ∉ openers := by
  intro h
  obtain ⟨b, hb⟩ := ho c h
  exact b.opener_ne hc (Bracket.opener_of_ofOpener? hb)

theorem openers_closable (g : Grammar) : Closable g.openers := by
  intro c hc
  obtain ⟨b, -, rfl⟩ := List.mem_map.mp hc
  exact ⟨b, Bracket.ofOpener?_opener b⟩

/-- A piece between the delimiters of a bracket makes a token, trimmed inside its closer only. -/
theorem Token.ofPiece_closed (b : Bracket) (inner : Text) :
    Token.ofPiece (Text.trim (b.opener :: inner) ++ [b.closer]) (.closed b) =
      [⟨b.opener :: (Text.trimEnd inner ++ [b.closer]), .closed b⟩] := by
  have hlast : ∀ c ∈ (b.opener :: (Text.trimEnd inner ++ [b.closer])).getLast?,
      Text.isBlank c = false := by
    rw [← List.cons_append, List.getLast?_concat]
    exact fun c hc => Option.some.inj hc ▸ b.isBlank_closer
  have htrim : Text.trim (b.opener :: (Text.trimEnd inner ++ [b.closer])) =
      b.opener :: (Text.trimEnd inner ++ [b.closer]) :=
    Text.trim_eq_self (fun c hc => Option.some.inj hc ▸ b.isBlank_opener) hlast
  rw [Text.trim_cons b.isBlank_opener, List.cons_append, Token.ofPiece, htrim]
  rfl

namespace Scan

/-! ## 1. One character -/

/-- Whether a character that no escape protects goes into the piece that is being read. -/
def Keeps (openers : List Char) (pending : Option Char) (c : Char) : Prop :=
  match pending with
  | none => c ∉ openers
  | some o => ∃ b, Bracket.ofOpener? o = some b ∧ c ≠ b.closer

section Plain

variable {openers : List Char} {s : Scan} {c : Char}

theorem plain_of_keeps (h : Keeps openers s.pending c) :
    plain openers s c = .ok { s with word := s.word ++ [c] } := by
  unfold plain
  cases hp : s.pending with
  | none =>
    rw [hp] at h
    exact if_neg h
  | some o =>
    rw [hp] at h
    obtain ⟨b, hb, hc⟩ := h
    simp only [hb]
    exact if_neg hc

theorem plain_opener (hp : s.pending = none) (hc : c ∈ openers) :
    plain openers s c = .ok { s with
      tokens := s.tokens ++ Token.ofPiece s.word .bare, word := [c], pending := some c } := by
  unfold plain
  rw [hp]
  exact if_pos hc

theorem plain_closer {b : Bracket} (hp : s.pending = some b.opener) :
    plain openers s b.closer = .ok { s with
      tokens := s.tokens ++ Token.ofPiece (Text.trim s.word ++ [b.closer]) (.closed b),
      word := [], pending := none } := by
  unfold plain
  rw [hp]
  simp only [Bracket.ofOpener?_opener, if_true]

end Plain

/-! ## 2. The last character -/

section Ending

variable {openers : List Char} {escape : Text} {s s' : Scan} {c : Char}

/-- The last character of a stretch is read where the rest of the stretch has led. -/
theorem run_concat_eq_ok {line : Text} (h : s.run openers escape (line ++ [c]) = .ok s') :
    ∃ t, s.run openers escape line = .ok t ∧ step openers escape t c = .ok s' := by
  rw [run_append] at h
  obtain ⟨t, ht, hlast⟩ := bind_eq_ok_iff.mp h
  obtain ⟨t', hstep, hend⟩ := bind_eq_ok_iff.mp hlast
  exact ⟨t, ht, hstep.trans hend⟩

/-- What is left of a line that no escape waits at the end of is a bare token. -/
theorem finish_of_not_lifted (hs : s.lifted = false) :
    s.finish openers escape = .ok (s.tokens ++ Token.ofPiece s.word .bare) := by
  rw [finish, settle, if_neg (by rw [hs]; exact Bool.false_ne_true)]
  rfl

/-- A backslash that ends a line goes into the piece that is left, where it is kept. -/
theorem finish_of_lifted (hs : s.lifted = true) (hk : Keeps openers s.pending '\\') :
    s.finish openers defaultEscape =
      .ok (s.tokens ++ Token.ofPiece (s.word ++ ['\\']) .bare) := by
  have hplain := plain_of_keeps (s := { s with lifted := false }) hk
  rw [finish, settle, if_pos hs, defaultEscape, List.foldlM_cons, hplain]
  rfl

end Ending

/-! ## 3. The invariant -/

/-- The invariant of a scan: what waits can be closed, and what was found is trimmed. -/
structure Sound (s : Scan) : Prop where
  closable : ∀ o, s.pending = some o → ∃ b, Bracket.ofOpener? o = some b
  trimmed : ∀ t ∈ s.tokens, t.Trimmed

theorem start_sound : start.Sound where
  closable _ h := by cases h
  trimmed _ h := absurd h List.not_mem_nil

section Reading

variable {openers : List Char} (escape : Text) {s : Scan}

theorem trimmed_append_ofPiece (hs : s.Sound) (piece : Text) (kind : TokenKind) :
    ∀ t ∈ s.tokens ++ Token.ofPiece piece kind, t.Trimmed := by
  intro t ht
  rcases List.mem_append.mp ht with ht | ht
  · exact hs.trimmed t ht
  · exact Token.trimmed_of_mem_ofPiece ht

theorem plain_sound (ho : Closable openers) (hs : s.Sound) (c : Char) :
    ∃ s', plain openers s c = .ok s' ∧ s'.Sound := by
  unfold plain
  cases hp : s.pending with
  | none =>
    by_cases hc : c ∈ openers
    · rw [if_pos hc]
      refine ⟨_, rfl, fun o h => ?_, trimmed_append_ofPiece hs s.word .bare⟩
      cases h
      exact ho c hc
    · rw [if_neg hc]
      exact ⟨_, rfl, fun o h => hs.closable o (hp.trans h), hs.trimmed⟩
  | some o =>
    obtain ⟨b, hb⟩ := hs.closable o hp
    simp only [hb]
    by_cases hc : c = b.closer
    · rw [if_pos hc]
      refine ⟨_, rfl, fun _ h => ?_,
        trimmed_append_ofPiece hs (Text.trim s.word ++ [c]) (.closed b)⟩
      cases h
    · rw [if_neg hc]
      exact ⟨_, rfl, fun o h => hs.closable o (hp.trans h), hs.trimmed⟩

/-- **Every character keeps the invariant**, and none is refused. -/
theorem step_sound (ho : Closable openers) (hs : s.Sound) (c : Char) :
    ∃ s', step openers escape s c = .ok s' ∧ s'.Sound := by
  unfold step
  split
  · exact ⟨_, rfl, hs.closable, hs.trimmed⟩
  · split
    · exact ⟨_, rfl, hs.closable, hs.trimmed⟩
    · exact plain_sound ho hs c

theorem run_sound (ho : Closable openers) (hs : s.Sound) (line : Text) :
    ∃ s', s.run openers escape line = .ok s' ∧ s'.Sound :=
  foldlM_ok (fun _ hs c _ => step_sound escape ho hs c) hs

theorem settle_sound (ho : Closable openers) (hs : s.Sound) :
    ∃ s', s.settle openers escape = .ok s' ∧ s'.Sound := by
  unfold settle
  split
  · exact foldlM_ok (fun _ hs c _ => plain_sound ho hs c) (p := Sound) ⟨hs.closable, hs.trimmed⟩
  · exact ⟨s, rfl, hs⟩

theorem finish_sound (ho : Closable openers) (hs : s.Sound) :
    ∃ tokens, s.finish openers escape = .ok tokens ∧ ∀ t ∈ tokens, t.Trimmed := by
  obtain ⟨s', hs', hsound⟩ := settle_sound escape ho hs
  unfold finish
  rw [hs']
  exact ⟨_, rfl, trimmed_append_ofPiece hsound s'.word .bare⟩

end Reading

end Scan

/-- **Every line has tokens**, and they are trimmed, where every opener belongs to a pair. -/
theorem tokenize_sound {openers : List Char} (ho : Closable openers) (escape line : Text) :
    ∃ tokens, tokenize line openers escape = .ok tokens ∧ ∀ t ∈ tokens, t.Trimmed := by
  obtain ⟨s, hs, hsound⟩ := Scan.run_sound escape ho Scan.start_sound line
  unfold tokenize
  rw [hs]
  exact Scan.finish_sound escape ho hsound

end Yuml
