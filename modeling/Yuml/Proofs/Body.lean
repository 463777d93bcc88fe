import Yuml.Proofs.Production

/-!
# Bodies: the tokens of all lines as one row

A body is read line by line and a line token by token. This file joins the two: the texts of the
tokens of all lines form ONE row (`bodyTexts`), and reading the lines is reading this row
(`ofLines_eq`). So the first fault of a body is that of the first text in the row that the grammar
has no production for (`ofLines_refused`), and where every text has one the body is read
(`ofLines_accepted`).
-/

namespace Yuml

theorem lineTokens_sound (line : Text) (g : Grammar) :
    ∃ tokens, lineTokens line g = .ok tokens ∧ ∀ t ∈ tokens, t.Trimmed := by
  obtain ⟨tokens, htokens, htrimmed⟩ :=
    tokenize_sound (openers_closable g) defaultEscape line
  unfold lineTokens
  rw [htokens]
  exact ⟨_, rfl, fun t ht => htrimmed t (List.mem_of_mem_filter ht)⟩

/-- The texts of the tokens of a line, without the commas between expressions. -/
def lineTexts (g : Grammar) (line : Text) : List Text :=
  match lineTokens line g with
  | .ok tokens => tokens.map (·.text)
  | .error _ => []

/-- The texts of the tokens of some lines, in order. -/
def bodyTexts (g : Grammar) (lines : List Text) : List Text := lines.flatMap (lineTexts g)

theorem getLast?_ne_of_mem_lineTexts {g : Grammar} {line t : Text} (h : t ∈ lineTexts g line) :
    t.getLast? ≠ some '\n' := by
  obtain ⟨tokens, htokens, htrimmed⟩ := lineTokens_sound line g
  rw [lineTexts, htokens] at h
  obtain ⟨token, htoken, rfl⟩ := List.mem_map.mp h
  exact (htrimmed token htoken).getLast?_ne

theorem getLast?_ne_of_mem_bodyTexts {g : Grammar} {lines : List Text} {t : Text}
    (h : t ∈ bodyTexts g lines) : t.getLast? ≠ some '\n' := by
  obtain ⟨line, -, ht⟩ := List.mem_flatMap.mp h
  exact getLast?_ne_of_mem_lineTexts ht

theorem ofLine_eq (line : Text) (g : Grammar) (d : Direction) :
    Element.ofLine line g d = (lineTexts g line).mapM (Element.ofText g d) := by
  obtain ⟨tokens, htokens, -⟩ := lineTokens_sound line g
  rw [Element.ofLine, lineTexts, htokens, List.mapM_map]
  rfl

theorem ofLines_cons (line : Text) (lines : List Text) (g : Grammar) (d : Direction) :
    Element.ofLines (line :: lines) g d =
      Element.ofLine line g d >>= fun es =>
        Element.ofLines lines g d >>= fun fs => pure (es ++ fs) := by
  unfold Element.ofLines
  rw [List.mapM_cons]
  cases Element.ofLine line g d with
  | error e => rfl
  | ok es => cases lines.mapM fun line => Element.ofLine line g d <;> rfl

/-- **Reading lines is reading the row of their tokens.** -/
theorem ofLines_eq (lines : List Text) (g : Grammar) (d : Direction) :
    Element.ofLines lines g d = (bodyTexts g lines).mapM (Element.ofText g d) := by
  induction lines with
  | nil => rfl
  | cons line lines ih =>
    have hrow : bodyTexts g (line :: lines) = lineTexts g line ++ bodyTexts g lines :=
      List.flatMap_cons
    rw [ofLines_cons, ih, ofLine_eq, hrow, List.mapM_append]

/-- **A body is refused at its first text without a production.** -/
theorem ofLines_refused {g : Grammar} {lines front back : List Text} {t : Text}
    (hsplit : bodyTexts g lines = front ++ t :: back) (hfront : ∀ p ∈ front, Production g p)
    (ht : ¬ Production g t) (d : Direction) :
    Element.ofLines lines g d = .error (.expression t (complaint g t)) := by
  have hlast : ∀ p ∈ front ++ t :: back, p.getLast? ≠ some '\n' :=
    fun p hp => getLast?_ne_of_mem_bodyTexts (hsplit ▸ hp)
  rw [ofLines_eq, hsplit]
  refine mapM_eq_error (fun p hp => ?_) ?_
  · rcases ofText_cases (hlast p (List.mem_append_left _ hp)) g d with ⟨-, h⟩ | ⟨h, -⟩
    · exact h
    · exact absurd (hfront p hp) h
  · rcases ofText_cases (hlast t (List.mem_append_right _ List.mem_cons_self)) g d with
      ⟨h, -⟩ | ⟨-, h⟩
    · exact absurd h ht
    · exact h

/-- **A body is read where every text has a production.** -/
theorem ofLines_accepted {g : Grammar} {lines : List Text}
    (h : ∀ t ∈ bodyTexts g lines, Production g t) (d : Direction) :
    ∃ elements, Element.ofLines lines g d = .ok elements := by
  rw [ofLines_eq]
  refine mapM_ok fun t ht => ?_
  rcases ofText_cases (getLast?_ne_of_mem_bodyTexts ht) g d with ⟨-, he⟩ | ⟨hn, -⟩
  · exact he
  · exact absurd (h t ht) hn

end Yuml
