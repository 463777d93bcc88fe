import Yuml.Proofs.Production

/-!
# Readings: which element the text of a token stands for

`Production` says which texts a grammar reads. This file says what they are read as:

* between the delimiters of a bracket stands a node of this bracket (`Bracket.node`), and such a
  text is always read as that node (`ofText_enclosed`);
* outside of all brackets stand arrows (`ofText_flow`) and connections, which are cut at their line
  (`ofText_connection`);
* `Element.Reads g d t e` gives every text with its element by the shape of the text alone, and
  whatever a grammar reads it reads so (`reads_of_ofText`).

A node knows the bracket that it is written in (`Node.bracket`).
-/

namespace Yuml

/-! ## 1. Brackets and their nodes -/

/-- The node that the text between a pair of delimiters stands for. -/
def Bracket.node : Bracket → Text → Node
  | .paren, inner => Node.ofRound inner
  | .square, inner => Node.ofSquare inner
  | .angle, inner => .decision (Text.trim inner)
  | .pipe, inner => .bar (Text.trim inner) 0

/-- The pair of delimiters that a node is written in. Notes are written in those of the boxes. -/
def Node.bracket : Grammar → Node → Bracket
  | _, .start _ | _, .stop _ | _, .activity _ _ => .paren
  | _, .decision _ => .angle
  | _, .bar _ _ => .pipe
  | _, .classBox _ _ => .square
  | .activity, .note _ _ => .paren
  | .classes, .note _ _ => .square

theorem bracket_ofRound (inner : Text) : (Node.ofRound inner).bracket .activity = .paren := by
  unfold Node.ofRound
  dsimp only
  split
  · rfl
  · split
    · rfl
    · split <;> rfl

theorem bracket_ofSquare (inner : Text) : (Node.ofSquare inner).bracket .classes = .square := by
  unfold Node.ofSquare
  dsimp only
  split <;> rfl

/-- **The node of a bracket is written in this bracket.** -/
theorem bracket_node {g : Grammar} {b : Bracket} (h : b ∈ g.brackets) (inner : Text) :
    (b.node inner).bracket g = b := by
  cases g with
  | activity =>
    cases b with
    | paren => exact bracket_ofRound inner
    | angle => rfl
    | pipe => rfl
    | square => exact absurd h (by decide)
  | classes =>
    obtain rfl := List.mem_singleton.mp h
    exact bracket_ofSquare inner

/-! ## 2. Texts between delimiters -/

namespace Text

theorem isEnclosed_self (o : Char) {c : Char} (inner : Text) :
    isEnclosed o c (o :: (inner ++ [c])) = true := by
  simp [isEnclosed]

theorem isEnclosed_of_head?_ne {o : Char} (c : Char) {s : Text} (h : s.head? ≠ some o) :
    isEnclosed o c s = false := by
  cases s with
  | nil => rfl
  | cons d r =>
    have hd : (d == o) = false := beq_eq_false_iff_ne.mpr fun e => h (e ▸ rfl)
    rw [isEnclosed, hd, Bool.false_and]

theorem inside_self (o c : Char) (inner : Text) : inside (o :: (inner ++ [c])) = inner := by
  simp [inside]

end Text

/-- **A text between the delimiters of a bracket is read as a node of the bracket.** -/
theorem ofText_enclosed {g : Grammar} {b : Bracket} (h : b ∈ g.brackets) (d : Direction)
    (inner : Text) :
    Element.ofText g d (b.opener :: (inner ++ [b.closer])) = .ok (.node (b.node inner)) := by
  have hself := Text.isEnclosed_self b.opener (c := b.closer) inner
  have hinner := Text.inside_self b.opener b.closer inner
  have hne : ∀ {o c}, b.opener ≠ o →
      ¬ Text.isEnclosed o c (b.opener :: (inner ++ [b.closer])) = true := fun {o c} ho => by
    rw [Text.isEnclosed_of_head?_ne c fun e => ho (Option.some.inj (List.head?_cons.symm.trans e))]
    exact Bool.false_ne_true
  cases g with
  | activity =>
    show Element.ofActivityText _ d = _
    unfold Element.ofActivityText
    cases b with
    | paren =>
      refine (if_pos hself).trans ?_
      rw [hinner]
      rfl
    | angle =>
      refine (if_neg (hne (by decide))).trans ((if_pos hself).trans ?_)
      rw [hinner]
      rfl
    | pipe =>
      refine (if_neg (hne (by decide))).trans ((if_neg (hne (by decide))).trans ?_)
      refine (if_pos hself).trans ?_
      rw [hinner]
      rfl
    | square => exact absurd h (by decide)
  | classes =>
    obtain rfl := List.mem_singleton.mp h
    refine (if_pos hself).trans ?_
    rw [hinner]
    rfl

/-! ## 3. Texts outside of all brackets -/

/-- **A text that ends in an arrow mark is read as an arrow**, unless it begins with an opener. -/
theorem ofText_flow (label : Text) (h : ∀ c ∈ label.head?, c ∉ Grammar.activity.openers)
    (d : Direction) :
    Element.ofText .activity d (label ++ arrowMark) =
      .ok (.edge (.arrow (someIfNonempty (Text.trim label)) true d) none) := by
  have hhead : ∀ c ∈ (label ++ arrowMark).head?, c ∉ Grammar.activity.openers :=
    Text.forall_head?_append h (Text.forall_of_optionAll (by decide))
  have hopen : ∀ {o : Char} (c : Char), o ∈ Grammar.activity.openers →
      ¬ Text.isEnclosed o c (label ++ arrowMark) = true := fun {o} c ho => by
    rw [Text.isEnclosed_of_head?_ne c fun e => hhead o e ho]
    exact Bool.false_ne_true
  have harrow : beforeArrow? (label ++ arrowMark) = some label := beforeArrow?_append label
  show Element.ofActivityText _ d = _
  rw [Element.ofActivityText, if_neg (hopen ')' (by decide)), if_neg (hopen '>' (by decide)),
    if_neg (hopen '|' (by decide)), harrow]

/-- The line of a connection between its two sides. -/
def connectionLine (dashed : Bool) : Text := if dashed then dashedLine else ['-']

/-- A connection is cut at its line, if no side holds a `-`. -/
theorem sides_eq {left right : Text} (hl : '-' ∉ left) (hr : '-' ∉ right) (dashed : Bool) :
    Text.occursIn dashedLine (left ++ (connectionLine dashed ++ right)) = dashed ∧
      (if dashed then Text.splitOnText dashedLine (left ++ (connectionLine dashed ++ right))
        else Text.splitAt '-' (left ++ (connectionLine dashed ++ right))) = [left, right] := by
  cases dashed with
  | true =>
    refine ⟨Text.occursIn_iff.mpr ⟨left, right, List.append_assoc _ _ _⟩, ?_⟩
    refine (Text.splitOnText_eq_pair_iff (by decide)).mpr ⟨rfl, ?_, fun h => ?_⟩
    · have hdot : '-' ∉ ['.'] := by decide
      exact dashedLine_absent hl hdot
    · exact hr (h.subset (by decide))
  | false =>
    refine ⟨Bool.eq_false_iff.mpr fun h => ?_, Text.splitAt_eq_pair_iff.mpr ⟨rfl, hl, hr⟩⟩
    exact dashedLine_absent hl hr (Text.occursIn_iff.mp h)

/-- **Two sides with a line between them are read as a connection**, unless an opener stands first. -/
theorem ofText_connection {left right : Text} (hl : '-' ∉ left) (hr : '-' ∉ right)
    (hopen : left.head? ≠ some '[') (dashed : Bool) (d : Direction) :
    Element.ofText .classes d (left ++ (connectionLine dashed ++ right)) =
      .ok (.edge (.connection (Connector.ofFront left) (Connector.ofBack right) dashed) none) := by
  obtain ⟨hdashed, hsides⟩ := sides_eq hl hr dashed
  have hline : '-' ∈ connectionLine dashed := by
    cases dashed <;> decide
  have hmem : '-' ∈ left ++ (connectionLine dashed ++ right) :=
    List.mem_append_right _ (List.mem_append_left _ hline)
  have hhead : ∀ c ∈ (left ++ (connectionLine dashed ++ right)).head?, c ≠ '[' := by
    refine Text.forall_head?_append (fun c hc e => hopen (e ▸ hc)) ?_
    cases dashed <;> exact fun c hc e => by cases hc; cases e
  have hbox : ¬ Text.isEnclosed '[' ']' (left ++ (connectionLine dashed ++ right)) = true := by
    rw [Text.isEnclosed_of_head?_ne ']' fun e => hhead '[' e rfl]
    exact Bool.false_ne_true
  have hmark : ¬ left ++ (connectionLine dashed ++ right) = ['^'] := fun e => by
    rw [e] at hmem
    revert hmem
    decide
  show Element.ofClassText _ = _
  rw [Element.ofClassText, if_neg hbox, if_neg hmark, if_pos hmem]
  simp only [hdashed, hsides]

/-! ## 4. Every text with its element -/

/-- The texts that a grammar reads, each with its element. The sides of a connection are those that
    its line cuts, and its line occurs once, as occurrences are found from the left. -/
inductive Element.Reads : Grammar → Direction → Text → Element → Prop where
  | enclosed (g : Grammar) (d : Direction) (b : Bracket) (h : b ∈ g.brackets) (inner : Text) :
      Reads g d (b.opener :: (inner ++ [b.closer])) (.node (b.node inner))
  | flow (d : Direction) (label : Text) :
      Reads .activity d (label ++ arrowMark)
        (.edge (.arrow (someIfNonempty (Text.trim label)) true d) none)
  | line (d : Direction) : Reads .activity d ['-'] (.edge (.arrow none false d) none)
  | inheritance (d : Direction) : Reads .classes d ['^'] (.edge (.inheritance []) none)
  | dashed (d : Direction) (left right : Text) (hl : ¬ dashedLine <:+: left ++ "-.".toList)
      (hr : ¬ dashedLine <:+: right) :
      Reads .classes d (left ++ (dashedLine ++ right))
        (.edge (.connection (Connector.ofFront left) (Connector.ofBack right) true) none)
  | solid (d : Direction) (left right : Text) (hl : '-' ∉ left) (hr : '-' ∉ right) :
      Reads .classes d (left ++ '-' :: right)
        (.edge (.connection (Connector.ofFront left) (Connector.ofBack right) false) none)

theorem reads_of_ofActivityText {t : Text} (ht : t.getLast? ≠ some '\n') {d : Direction}
    {e : Element} (h : Element.ofActivityText t d = .ok e) : e.Reads .activity d t := by
  unfold Element.ofActivityText at h
  split at h
  · rename_i hp
    obtain ⟨inner, rfl⟩ := (Text.isEnclosed_iff ht).mp hp
    cases h
    rw [Text.inside_self]
    exact .enclosed .activity d .paren (by decide) inner
  · split at h
    · rename_i hp
      obtain ⟨inner, rfl⟩ := (Text.isEnclosed_iff ht).mp hp
      cases h
      rw [Text.inside_self]
      exact .enclosed .activity d .angle (by decide) inner
    · split at h
      · rename_i hp
        obtain ⟨inner, rfl⟩ := (Text.isEnclosed_iff ht).mp hp
        cases h
        rw [Text.inside_self]
        exact .enclosed .activity d .pipe (by decide) inner
      · split at h
        · rename_i label hlabel
          obtain rfl := beforeArrow?_eq_some ht hlabel
          cases h
          exact .flow d label
        · split at h
          · rename_i hline
            subst hline
            cases h
            exact .line d
          · cases h

theorem reads_of_ofClassText {t : Text} (ht : t.getLast? ≠ some '\n') (d : Direction)
    {e : Element} (h : Element.ofClassText t = .ok e) : e.Reads .classes d t := by
  unfold Element.ofClassText at h
  split at h
  · rename_i hp
    obtain ⟨inner, rfl⟩ := (Text.isEnclosed_iff ht).mp hp
    cases h
    rw [Text.inside_self]
    exact .enclosed .classes d .square (by decide) inner
  · split at h
    · rename_i hmark
      subst hmark
      cases h
      exact .inheritance d
    · split at h
      · dsimp only at h
        split at h
        · rename_i left right hsides
          cases h
          cases hd : Text.occursIn dashedLine t with
          | true =>
            rw [hd, if_pos rfl] at hsides
            obtain ⟨rfl, hl, hr⟩ := (Text.splitOnText_eq_pair_iff (by decide)).mp hsides
            exact .dashed d left right hl hr
          | false =>
            rw [hd, if_neg Bool.false_ne_true] at hsides
            obtain ⟨rfl, hl, hr⟩ := Text.splitAt_eq_pair_iff.mp hsides
            exact .solid d left right hl hr
        · cases h
      · cases h

/-- **Whatever a grammar reads from a trimmed text, the shape of the text gives.** -/
theorem reads_of_ofText {g : Grammar} {d : Direction} {t : Text} (ht : t.getLast? ≠ some '\n')
    {e : Element} (h : Element.ofText g d t = .ok e) : e.Reads g d t := by
  cases g with
  | activity => exact reads_of_ofActivityText ht h
  | classes => exact reads_of_ofClassText ht d h

end Yuml
