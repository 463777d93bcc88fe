import Yuml.Proofs.Body
import Yuml.Proofs.Exposed
import Yuml.Proofs.Reading
import Mathlib.Data.List.Chain

/-!
# Segments: a line as it is written

A line is written segment by segment: what stands between the delimiters of a bracket, and words
outside of them. A segment is LEGIBLE (`Segment.Legible`) where no delimiter is exposed in it that would
end it, and no backslash is left over to take the next character along. `tokenize` reads every row of
legible segments back, one token each (`tokenize_segments`), as long as no two words stand side by side:
these would be one word.

The proof follows the scan from one segment to the next. `Scan.Between` says where it stands there, and
`Scan.found` which tokens there would be if the line ended there.
-/

namespace Yuml

/-! ## 1. Segments -/

/-- A segment of a line. -/
inductive Segment where
  /-- What stands between the delimiters of a bracket, and these. -/
  | enclosed (b : Bracket) (inner : Text)
  /-- What stands outside of all brackets. -/
  | word (w : Text)

namespace Segment

/-- How a segment is written. -/
def text : Segment → Text
  | enclosed b inner => b.opener :: (inner ++ [b.closer])
  | word w => w

/-- The token that a segment is read as. -/
def token : Segment → Token
  | enclosed b inner => ⟨b.opener :: (Text.trimEnd inner ++ [b.closer]), .closed b⟩
  | word w => ⟨Text.trim w, .bare⟩

/-- Whether a segment stands outside of all brackets. -/
def isWord : Segment → Bool
  | enclosed _ _ => false
  | word _ => true

/-- A segment that is read as it is written. -/
inductive Legible (openers : List Char) : Segment → Prop where
  | enclosed (b : Bracket) (inner : Text) (hb : b.opener ∈ openers)
      (hc : b.closer ∉ Text.exposed inner) (he : '\\' ∉ Text.exposed inner) :
      Legible openers (enclosed b inner)
  | word (w : Text) (hw : Text.trim w ≠ []) (ho : ∀ c ∈ Text.exposed w, c ∉ openers)
      (he : '\\' ∉ Text.exposed w) : Legible openers (word w)

/-- Two segments that do not run into one another. -/
def Apart (p q : Segment) : Prop := p.isWord = false ∨ q.isWord = false

end Segment

/-- The token of a word that is not blank. -/
theorem Token.ofPiece_word {w : Text} (h : Text.trim w ≠ []) :
    Token.ofPiece w .bare = [⟨Text.trim w, .bare⟩] :=
  if_neg fun e => h (List.isEmpty_iff.mp e)

/-! ## 2. The scan of a segment -/

namespace Scan

/-- A scan between two segments: no closer is awaited, and no escape waits for a character. -/
structure Between (s : Scan) : Prop where
  pending : s.pending = none
  lifted : s.lifted = false

/-- The tokens of a line that ends where the scan stands. -/
def found (s : Scan) : List Token := s.tokens ++ Token.ofPiece s.word .bare

section Run

variable {openers : List Char} {s : Scan}

/-- A line that ends between two segments has the tokens found by then. -/
theorem Between.finish_eq (hs : s.Between) : s.finish openers defaultEscape = .ok s.found :=
  finish_of_not_lifted hs.lifted

theorem run_cons {s' : Scan} {c : Char} (h : step openers defaultEscape s c = .ok s') (r : Text) :
    s.run openers defaultEscape (c :: r) = s'.run openers defaultEscape r := by
  rw [run, List.foldlM_cons, h]
  rfl

/-- Read a character that is no escape where none waits for it. -/
theorem step_plain (hs : s.lifted = false) {c : Char} (hc : c ≠ '\\') :
    step openers defaultEscape s c = plain openers s c := by
  have hesc : ¬ defaultEscape = [c] := fun e => hc (List.cons.inj e).1.symm
  rw [step, hs, if_neg Bool.false_ne_true, if_neg hesc]

/-- A backslash waits for the character behind it. -/
theorem step_backslash (hs : s.lifted = false) :
    step openers defaultEscape s '\\' = .ok { s with lifted := true } := by
  have hesc : defaultEscape = ['\\'] := rfl
  rw [step, hs, if_neg Bool.false_ne_true, if_pos hesc]

/-- An escape and the character behind it are copied, whatever this is. -/
theorem run_escape (hs : s.lifted = false) (c : Char) (r : Text) :
    s.run openers defaultEscape ('\\' :: c :: r) =
      { s with word := s.word ++ ['\\', c] }.run openers defaultEscape r := by
  have hcopy : step openers defaultEscape { s with lifted := true } c =
      .ok { s with word := s.word ++ ['\\', c] } := by
    rw [step, if_pos rfl, hs, List.append_assoc]
    rfl
  rw [run_cons (step_backslash hs), run_cons hcopy]

/-- **A text in which every exposed character is kept goes into the piece that is being read.** -/
theorem run_kept (hs : s.lifted = false) {w : Text} (hw : '\\' ∉ Text.exposed w)
    (hk : ∀ c ∈ Text.exposed w, Keeps openers s.pending c) :
    s.run openers defaultEscape w = .ok { s with word := s.word ++ w } := by
  fun_induction Text.exposed w generalizing s with
  | case1 =>
    rw [List.append_nil]
    rfl
  | case2 c =>
    have hc : c ≠ '\\' := fun e => hw (e ▸ List.mem_cons_self)
    exact run_cons ((step_plain hs hc).trans (plain_of_keeps (hk c List.mem_cons_self))) []
  | case3 d r ih =>
    rw [run_escape hs, ih (s := { s with word := s.word ++ ['\\', d] }) hs hw hk, List.append_assoc]
    rfl
  | case4 c d r hc ih =>
    have hstep := (step_plain hs hc).trans (plain_of_keeps (hk c List.mem_cons_self))
    rw [run_cons hstep, ih (s := { s with word := s.word ++ [c] }) hs
      (fun h => hw (List.mem_cons_of_mem c h)) fun a ha => hk a (List.mem_cons_of_mem c ha),
      List.append_assoc]
    rfl

/-- A scan reads what stands between the delimiters of a bracket as one token. -/
theorem run_enclosed (hs : s.Between) {b : Bracket} {inner : Text} (hb : b.opener ∈ openers)
    (hc : b.closer ∉ Text.exposed inner) (he : '\\' ∉ Text.exposed inner) :
    s.run openers defaultEscape (Segment.enclosed b inner).text =
      .ok ⟨s.found ++ [(Segment.enclosed b inner).token], [], none, false⟩ := by
  have hopen : step openers defaultEscape s b.opener =
      .ok ⟨s.found, [b.opener], some b.opener, s.lifted⟩ :=
    (step_plain hs.lifted (b.opener_ne (by decide))).trans (plain_opener hs.pending hb)
  have hinner : Scan.run openers defaultEscape ⟨s.found, [b.opener], some b.opener, s.lifted⟩ inner =
      .ok ⟨s.found, b.opener :: inner, some b.opener, s.lifted⟩ := by
    refine run_kept (s := ⟨_, _, some b.opener, s.lifted⟩) hs.lifted he fun c hmem => ?_
    refine ⟨b, Bracket.ofOpener?_opener b, ?_⟩
    rintro rfl
    exact hc hmem
  have hclose : step openers defaultEscape
      ⟨s.found, b.opener :: inner, some b.opener, s.lifted⟩ b.closer =
        .ok ⟨s.found ++ Token.ofPiece (Text.trim (b.opener :: inner) ++ [b.closer]) (.closed b), [],
          none, s.lifted⟩ := by
    refine (step_plain ?_ (b.closer_ne (by decide))).trans (plain_closer rfl)
    exact hs.lifted
  show s.run openers defaultEscape (b.opener :: (inner ++ [b.closer])) = _
  rw [run_cons hopen, run_append, hinner]
  show Scan.run openers defaultEscape _ [b.closer] = _
  rw [run_cons hclose, Token.ofPiece_closed, hs.lifted]
  rfl

/-- **From one segment to the next**: the scan has found one more token, and it has nothing left over
    unless the segment was a word. -/
theorem run_segment (hs : s.Between) {p : Segment} (hp : p.Legible openers)
    (hw : p.isWord = true → s.word = []) :
    ∃ s', s.run openers defaultEscape p.text = .ok s' ∧ s'.Between ∧
      s'.found = s.found ++ [p.token] ∧ (p.isWord = false → s'.word = []) := by
  cases hp with
  | enclosed b inner hb hc he =>
    exact ⟨_, run_enclosed hs hb hc he, ⟨rfl, rfl⟩, List.append_nil _, fun _ => rfl⟩
  | word w hne ho he =>
    have hrun : s.run openers defaultEscape w = .ok { s with word := s.word ++ w } := by
      refine run_kept hs.lifted he fun c hc => ?_
      rw [hs.pending]
      exact ho c hc
    refine ⟨_, hrun, ⟨hs.pending, hs.lifted⟩, ?_, fun h => by cases h⟩
    have hempty : s.word = [] := hw rfl
    show s.tokens ++ Token.ofPiece (s.word ++ w) .bare =
      s.tokens ++ Token.ofPiece s.word .bare ++ [⟨Text.trim w, .bare⟩]
    rw [hempty, List.nil_append, Token.ofPiece_word hne]
    exact congrArg (· ++ _) (List.append_nil _).symm

/-- **A row of segments is read one by one.** -/
theorem run_segments {ps : List Segment} (hps : ∀ p ∈ ps, p.Legible openers)
    (hchain : ps.IsChain Segment.Apart) (hs : s.Between)
    (hw : ∀ p ∈ ps.head?, p.isWord = true → s.word = []) :
    ∃ s', s.run openers defaultEscape (ps.flatMap Segment.text) = .ok s' ∧ s'.Between ∧
      s'.found = s.found ++ ps.map Segment.token := by
  induction ps generalizing s with
  | nil => exact ⟨s, rfl, hs, (List.append_nil _).symm⟩
  | cons p ps ih =>
    obtain ⟨hp, hps⟩ := List.forall_mem_cons.mp hps
    obtain ⟨hapart, hchain⟩ := List.isChain_cons.mp hchain
    obtain ⟨s₁, hrun₁, hs₁, hfound₁, hword₁⟩ := run_segment hs hp (hw p rfl)
    have hnext : ∀ q ∈ ps.head?, q.isWord = true → s₁.word = [] := fun q hq hqw => by
      refine hword₁ ((hapart q hq).resolve_right fun e => ?_)
      rw [hqw] at e
      cases e
    obtain ⟨s₂, hrun₂, hs₂, hfound₂⟩ := ih hps hchain hs₁ hnext
    refine ⟨s₂, ?_, hs₂, ?_⟩
    · rw [List.flatMap_cons, run_append, hrun₁]
      exact hrun₂
    · rw [hfound₂, hfound₁, List.append_assoc]
      rfl

end Run

end Scan

/-! ## 3. Lines -/

/-- **A line that is written in legible segments has one token for each.** -/
theorem tokenize_segments {openers : List Char} {ps : List Segment}
    (hps : ∀ p ∈ ps, p.Legible openers) (hchain : ps.IsChain Segment.Apart) :
    tokenize (ps.flatMap Segment.text) openers defaultEscape = .ok (ps.map Segment.token) := by
  obtain ⟨s, hrun, hs, hfound⟩ := Scan.run_segments hps hchain (s := Scan.start) ⟨rfl, rfl⟩
    fun _ _ _ => rfl
  rw [tokenize, hrun]
  exact hs.finish_eq.trans (congrArg Except.ok hfound)

/-- No element is written as a comma. -/
theorem ne_separator_of_ofText {g : Grammar} {d : Direction} {t : Text} {e : Element}
    (h : Element.ofText g d t = .ok e) : (t != separator) = true := by
  refine bne_iff_ne.mpr fun ht => ?_
  subst ht
  cases g <;> cases h

/-- **A line that is written segment by segment is read element by element.** -/
theorem ofLine_segments {g : Grammar} {d : Direction} {ps : List Segment} {es : List Element}
    (hps : ∀ p ∈ ps, p.Legible g.openers) (hchain : ps.IsChain Segment.Apart)
    (hread : List.Forall₂ (fun p e => Element.ofText g d p.token.text = .ok e) ps es) :
    Element.ofLine (ps.flatMap Segment.text) g d = .ok es := by
  have hkept : (ps.map Segment.token).filter (fun t => t.text != separator) =
      ps.map Segment.token := by
    refine List.filter_eq_self.mpr fun t ht => ?_
    obtain ⟨p, hp, rfl⟩ := List.mem_map.mp ht
    obtain ⟨k, hk⟩ := List.mem_iff_getElem?.mp hp
    obtain ⟨e, -, he⟩ := exists_getElem?_of_forall₂ hread hk
    exact ne_separator_of_ofText he
  rw [Element.ofLine, lineTokens, tokenize_segments hps hchain]
  show ((ps.map Segment.token).filter _).mapM _ = _
  rw [hkept, List.mapM_map]
  exact mapM_eq_ok_iff.mpr hread

/-! ## 4. Spelled elements -/

/-- A segment that spells an element: it is read as the element, and is a word if the element is an
    edge. -/
structure Segment.Spells (g : Grammar) (d : Direction) (p : Segment) (e : Element) : Prop where
  legible : p.Legible g.openers
  read : Element.ofText g d p.token.text = .ok e
  isWord : p.isWord = e.isEdge

section Spells

variable {g : Grammar} {d : Direction}

/-- What stands between the delimiters of a bracket spells the node that it stands for. -/
theorem Segment.spells_enclosed {b : Bracket} (hb : b ∈ g.brackets) {inner : Text}
    (h : (Segment.enclosed b inner).Legible g.openers) {n : Node}
    (hn : b.node (Text.trimEnd inner) = n) : (Segment.enclosed b inner).Spells g d (.node n) where
  legible := h
  read := by
    subst hn
    exact ofText_enclosed hb d (Text.trimEnd inner)
  isWord := rfl

/-- A trimmed word without opener and escape spells the edge that it is read as. -/
theorem Segment.spells_word {w : Text} (ht : Text.trim w = w) (hne : w ≠ [])
    (ho : ∀ c ∈ w, c ∉ g.openers) (he : '\\' ∉ w) {e : Edge} {r : Option Relation}
    (hread : Element.ofText g d w = .ok (.edge e r)) :
    (Segment.word w).Spells g d (.edge e r) where
  legible := by
    refine .word w ?_ (fun c hc => ho c (Text.mem_of_mem_exposed hc)) fun hc => ?_
    · rw [ht]
      exact hne
    · exact he (Text.mem_of_mem_exposed hc)
  read := by
    show Element.ofText g d (Text.trim w) = _
    rw [ht]
    exact hread
  isWord := rfl

end Spells

/-- Two elements that are no edges side by side. -/
def Element.Apart (a b : Element) : Prop := a.isEdge = false ∨ b.isEdge = false

instance : DecidableRel Element.Apart := fun a b =>
  inferInstanceAs (Decidable (a.isEdge = false ∨ b.isEdge = false))

theorem exists_segments {g : Grammar} {d : Direction} {es : List Element} {texts : List Text}
    (h : List.Forall₂ (fun e t => ∃ p : Segment, p.text = t ∧ p.Spells g d e) es texts) :
    ∃ ps : List Segment, ps.map Segment.text = texts ∧
      List.Forall₂ (fun e p => p.Spells g d e) es ps := by
  induction h with
  | nil => exact ⟨[], rfl, .nil⟩
  | cons hp _ ih =>
    obtain ⟨p, rfl, hspells⟩ := hp
    obtain ⟨ps, rfl, hrest⟩ := ih
    exact ⟨p :: ps, rfl, .cons hspells hrest⟩

/-- **Reading undoes spelling**: elements that are written one after the other, each as a segment that
    spells it, are read as these elements, if no two edges stand side by side. -/
theorem ofLine_spelled {g : Grammar} {d : Direction} {es : List Element} {texts : List Text}
    (h : List.Forall₂ (fun e t => ∃ p : Segment, p.text = t ∧ p.Spells g d e) es texts)
    (hchain : es.IsChain Element.Apart) : Element.ofLine texts.flatten g d = .ok es := by
  obtain ⟨ps, rfl, hps⟩ := exists_segments h
  have hlegible : ∀ p ∈ ps, p.Legible g.openers :=
    forall_of_forall₂ hps fun _ _ _ hp => hp.legible
  have hwords : es.map Element.isEdge = ps.map Segment.isWord :=
    map_eq_map_of_forall₂ hps fun _ _ hp => hp.isWord.symm
  have hapart : (ps.map Segment.isWord).IsChain fun a b => a = false ∨ b = false := by
    rw [← hwords]
    exact (List.isChain_map Element.isEdge).mpr hchain
  have hread : List.Forall₂ (fun p e => Element.ofText g d p.token.text = .ok e) ps es :=
    hps.flip.imp fun _ _ hp => hp.read
  rw [← List.flatMap_def]
  exact ofLine_segments hlegible ((List.isChain_map Segment.isWord).mp hapart) hread

end Yuml
