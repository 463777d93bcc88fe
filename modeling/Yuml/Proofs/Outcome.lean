import Yuml.Proofs.Body
import Yuml.Proofs.Chart
import Yuml.Proofs.Header

/-!
# Outcomes: how compiling a document can end

There are six ways, and which of them it is can be told from the document alone (`Outcome.Applies`):

* a directive is refused, the first that is not accepted, whatever the rest of the document is;
* there is no body;
* no directive names a type of chart;
* the last that does names one without a grammar: the body is not looked at;
* a token of the body has no production, the first such token;
* a chart is drawn.

Exactly one of them applies, and it describes what compiling gives (`Outcome.Describes`). The stages
behind the reading of the body do not fail (`exists_chart`).
-/

namespace Yuml

/-! ## 1. First failures -/

section First

variable {α : Type} {p : α → Prop} {l : List α} {a b : α}

/-- The first member of a list that does not have a property. -/
def FirstWithout (p : α → Prop) (l : List α) (a : α) : Prop :=
  ∃ front back, l = front ++ a :: back ∧ (∀ x ∈ front, p x) ∧ ¬ p a

theorem FirstWithout.cons (h : FirstWithout p l a) (hb : p b) : FirstWithout p (b :: l) a := by
  obtain ⟨front, back, rfl, hfront, ha⟩ := h
  exact ⟨b :: front, back, rfl, List.forall_mem_cons.mpr ⟨hb, hfront⟩, ha⟩

theorem FirstWithout.not_forall (h : FirstWithout p l a) : ¬ ∀ x ∈ l, p x := by
  obtain ⟨front, back, rfl, -, ha⟩ := h
  exact fun hall => ha (hall a (List.mem_append_right _ List.mem_cons_self))

/-- Either all members have a property or there is a first without it. -/
theorem forall_or_firstWithout (p : α → Prop) (l : List α) :
    (∀ x ∈ l, p x) ∨ ∃ a, FirstWithout p l a := by
  induction l with
  | nil => exact .inl fun _ h => absurd h List.not_mem_nil
  | cons b l ih =>
    by_cases hb : p b
    · rcases ih with hall | ⟨a, ha⟩
      · exact .inl (List.forall_mem_cons.mpr ⟨hb, hall⟩)
      · exact .inr ⟨a, ha.cons hb⟩
    · exact .inr ⟨b, [], l, rfl, fun _ h => absurd h List.not_mem_nil, hb⟩

theorem FirstWithout.unique (ha : FirstWithout p l a) (hb : FirstWithout p l b) : a = b := by
  obtain ⟨front, back, rfl, hfront, hna⟩ := ha
  obtain ⟨front', back', he, hfront', hnb⟩ := hb
  induction front generalizing front' with
  | nil =>
    cases front' with
    | nil => exact (List.cons.inj he).1
    | cons x xs =>
      obtain ⟨rfl, -⟩ := List.cons.inj he
      exact absurd (hfront' a List.mem_cons_self) hna
  | cons x xs ih =>
    cases front' with
    | nil =>
      obtain ⟨rfl, -⟩ := List.cons.inj he
      exact absurd (hfront x List.mem_cons_self) hnb
    | cons y ys =>
      exact ih (fun z hz => hfront z (List.mem_cons_of_mem x hz)) ys (List.cons.inj he).2
        fun z hz => hfront' z (List.mem_cons_of_mem y hz)

end First

/-! ## 2. Outcomes -/

/-- The directives in the header of a document, in order. -/
def headerOf (text : Text) : List Directive := Directive.ofLines (documentLines text)

/-- The ways in which compiling a document can end. -/
inductive Outcome where
  /-- A directive is refused. -/
  | refused (d : Directive)
  /-- There is no body. -/
  | blank
  /-- There is no type of chart. -/
  | untyped
  /-- The type of chart has no grammar. -/
  | undrawn (t : ChartType)
  /-- A token of the body cannot be read. -/
  | unread (g : Grammar) (token : Text)
  /-- A chart is drawn. -/
  | drawn (g : Grammar)

namespace Outcome

/-- Whether a document ends in an outcome, told from its lines: each way but the first presupposes
    that those before it do not apply. -/
def Applies (text : Text) : Outcome → Prop
  | .refused d => FirstWithout Directive.Accepted (headerOf text) d
  | .blank => (∀ d ∈ headerOf text, d.Accepted) ∧ bodyLines text = []
  | .untyped =>
    (∀ d ∈ headerOf text, d.Accepted) ∧ bodyLines text ≠ [] ∧
      ∀ d ∈ headerOf text, d.key ≠ "type".toList
  | .undrawn t =>
    (∀ d ∈ headerOf text, d.Accepted) ∧ bodyLines text ≠ [] ∧
      Directive.LastType (headerOf text) t ∧ t.grammar? = none
  | .unread g token =>
    (∀ d ∈ headerOf text, d.Accepted) ∧ bodyLines text ≠ [] ∧
      (∃ t, Directive.LastType (headerOf text) t ∧ t.grammar? = some g) ∧
      FirstWithout (Production g) (bodyTexts g (bodyLines text)) token
  | .drawn g =>
    (∀ d ∈ headerOf text, d.Accepted) ∧ bodyLines text ≠ [] ∧
      (∃ t, Directive.LastType (headerOf text) t ∧ t.grammar? = some g) ∧
      ∀ token ∈ bodyTexts g (bodyLines text), Production g token

/-- What compiling gives in an outcome. -/
def Describes : Outcome → Except Fault Text → Prop
  | .refused d, r => r = .error (.directive d.key d.value)
  | .blank, r => r = .ok []
  | .untyped, r => r = .error .missingType
  | .undrawn _, r => r = .ok []
  | .unread g token, r => r = .error (.expression token (complaint g token))
  | .drawn _, r => ∃ middle, r = .ok ("digraph G \x7b".toList ++ middle ++ "\x7d\n".toList)

/-! ## 3. One applies -/

theorem exists_applies (text : Text) : ∃ o, Applies text o := by
  rcases forall_or_firstWithout Directive.Accepted (headerOf text) with hall | ⟨d, hd⟩
  · by_cases hbody : bodyLines text = []
    · exact ⟨.blank, hall, hbody⟩
    rcases Directive.no_type_or_lastType hall with hno | ⟨t, ht⟩
    · exact ⟨.untyped, hall, hbody, hno⟩
    cases hg : t.grammar? with
    | none => exact ⟨.undrawn t, hall, hbody, ht, hg⟩
    | some g =>
      rcases forall_or_firstWithout (Production g) (bodyTexts g (bodyLines text)) with
        hprod | ⟨token, htoken⟩
      · exact ⟨.drawn g, hall, hbody, ⟨t, ht, hg⟩, hprod⟩
      · exact ⟨.unread g token, hall, hbody, ⟨t, ht, hg⟩, htoken⟩
  · exact ⟨.refused d, hd⟩

/-- A header of accepted directives has one last type of chart at most: that of the options. -/
theorem lastType_unique {ds : List Directive} (h : ∀ d ∈ ds, d.Accepted) {t u : ChartType}
    (ht : Directive.LastType ds t) (hu : Directive.LastType ds u) : t = u := by
  obtain ⟨o, ho⟩ := Directive.foldlM_apply_accepted h (Options.default false)
  have h₁ := Directive.chartType_of_lastType h ht ho
  have h₂ := Directive.chartType_of_lastType h hu ho
  exact Option.some.inj (h₁.symm.trans h₂)

theorem grammar_unique {ds : List Directive} (h : ∀ d ∈ ds, d.Accepted) {f g : Grammar}
    (hf : ∃ t, Directive.LastType ds t ∧ ChartType.grammar? t = some f)
    (hg : ∃ t, Directive.LastType ds t ∧ ChartType.grammar? t = some g) : f = g := by
  obtain ⟨t, ht, hf⟩ := hf
  obtain ⟨u, hu, hg⟩ := hg
  obtain rfl := lastType_unique h ht hu
  exact Option.some.inj (hf.symm.trans hg)

/-! ## 4. It describes the result -/

theorem documentOptions_refused {text : Text} {d : Directive}
    (h : FirstWithout Directive.Accepted (headerOf text) d) (dark : Bool) :
    documentOptions text dark = .error (.directive d.key d.value) := by
  obtain ⟨front, back, hsplit, hfront, hd⟩ := h
  have heq : Directive.ofLines (documentLines text) = front ++ d :: back := hsplit
  rw [documentOptions, Options.ofLines, heq]
  exact Directive.foldlM_apply_refused hfront hd _

/-- The options of a document are read from its header. -/
theorem documentOptions_congr {text text' : Text} (h : headerOf text' = headerOf text)
    (dark : Bool) : documentOptions text' dark = documentOptions text dark :=
  congrArg (List.foldlM (fun o d => Directive.apply d o) (Options.default dark)) h

/-- A header that is not refused is one of accepted directives. -/
theorem accepted_of_options {text : Text} {dark : Bool} {o : Options}
    (ho : documentOptions text dark = .ok o) : ∀ d ∈ headerOf text, d.Accepted := by
  rcases forall_or_firstWithout Directive.Accepted (headerOf text) with hall | ⟨d, hd⟩
  · exact hall
  · rw [documentOptions_refused hd] at ho
    cases ho

/-- The type of chart in the options is the last that the header names. -/
theorem lastType_of_options {text : Text} {dark : Bool} {o : Options}
    (ho : documentOptions text dark = .ok o) {t : ChartType} (ht : o.chartType = some t) :
    Directive.LastType (headerOf text) t := by
  have hall := accepted_of_options ho
  rcases Directive.no_type_or_lastType hall with hno | ⟨u, hu⟩
  · have hnone : o.chartType = none := Directive.chartType_of_no_type hall hno ho
    rw [hnone] at ht
    cases ht
  · have hsome := Directive.chartType_of_lastType hall hu ho
    obtain rfl := Option.some.inj (hsome.symm.trans ht)
    exact hu

/-- Compiling with the options of a header. -/
theorem compile_of_options {text : Text} {dark : Bool} {o : Options}
    (ho : documentOptions text dark = .ok o) (hbody : bodyLines text ≠ []) :
    Diagram.compile text dark =
      match o.chartType with
      | none => .error .missingType
      | some type =>
        match type.grammar? with
        | none => .ok ⟨o, none⟩
        | some g =>
          Element.ofLines (bodyLines text) g o.direction >>= fun elements =>
            Chart.ofElements g o.direction elements >>= fun c => .ok ⟨o, some c⟩ := by
  have hempty : ¬ (bodyLines text).isEmpty = true := fun e => hbody (List.isEmpty_iff.mp e)
  unfold Diagram.compile
  rw [ho]
  show (if (bodyLines text).isEmpty = true then _ else _) = _
  rw [if_neg hempty]
  rfl

theorem compile_of_lastType {text : Text} (dark : Bool)
    (hall : ∀ d ∈ headerOf text, d.Accepted) (hbody : bodyLines text ≠ []) {t : ChartType}
    (ht : Directive.LastType (headerOf text) t) :
    ∃ o, Diagram.compile text dark =
      match t.grammar? with
      | none => .ok ⟨o, none⟩
      | some g =>
        Element.ofLines (bodyLines text) g o.direction >>= fun elements =>
          Chart.ofElements g o.direction elements >>= fun c => .ok ⟨o, some c⟩ := by
  obtain ⟨o, ho⟩ := Directive.foldlM_apply_accepted hall (Options.default dark)
  refine ⟨o, ?_⟩
  rw [compile_of_options ho hbody, Directive.chartType_of_lastType hall ht ho]

/-- Lines with another one at either end begin with the one and end with the other. -/
theorem exists_joinWith (sep first last : Text) (lines : List Text) :
    ∃ middle, Text.joinWith sep (first :: (lines ++ [last])) = first ++ middle ++ last := by
  induction lines generalizing first with
  | nil => exact ⟨sep, rfl⟩
  | cons line lines ih =>
    obtain ⟨middle, h⟩ := ih line
    refine ⟨sep ++ line ++ middle, ?_⟩
    rw [List.cons_append, Text.joinWith, h]
    simp only [List.append_assoc]

theorem renderChart_ends (g : Grammar) (d : Direction) (statements : List Statement)
    (dark : Bool) :
    ∃ middle, renderChart g d statements dark =
      "digraph G \x7b".toList ++ middle ++ "\x7d\n".toList := by
  obtain ⟨middle, h⟩ := exists_joinWith ['\n'] "digraph G \x7b".toList "\x7d".toList
    ((headerLines g d dark).tail ++ statements.map Statement.render)
  refine ⟨middle, ?_⟩
  have hhead : headerLines g d dark =
      "digraph G \x7b".toList :: (headerLines g d dark).tail := rfl
  rw [renderChart, hhead, List.cons_append, List.cons_append, h]
  simp only [List.append_assoc]
  rfl

/-- **An outcome that applies describes what compiling gives.** -/
theorem Applies.describes {text : Text} {o : Outcome} (h : Applies text o) (dark : Bool) :
    o.Describes (compileText text dark) := by
  unfold compileText
  cases o with
  | refused d =>
    show (Diagram.compile text dark).map _ = _
    rw [Diagram.compile, documentOptions_refused h]
    rfl
  | blank =>
    obtain ⟨hall, hbody⟩ := h
    obtain ⟨o, ho⟩ := Directive.foldlM_apply_accepted hall (Options.default dark)
    have ho' : documentOptions text dark = .ok o := ho
    show (Diagram.compile text dark).map _ = _
    rw [Diagram.compile, ho', hbody]
    rfl
  | untyped =>
    obtain ⟨hall, hbody, hno⟩ := h
    obtain ⟨o, ho⟩ := Directive.foldlM_apply_accepted hall (Options.default dark)
    have htype : o.chartType = none := Directive.chartType_of_no_type hall hno ho
    show (Diagram.compile text dark).map _ = _
    rw [compile_of_options ho hbody, htype]
    rfl
  | undrawn t =>
    obtain ⟨hall, hbody, ht, hg⟩ := h
    obtain ⟨o, ho⟩ := compile_of_lastType dark hall hbody ht
    show (Diagram.compile text dark).map _ = _
    rw [ho, hg]
    rfl
  | unread g token =>
    obtain ⟨hall, hbody, ⟨t, ht, hg⟩, front, back, hsplit, hfront, htoken⟩ := h
    obtain ⟨o, ho⟩ := compile_of_lastType dark hall hbody ht
    show (Diagram.compile text dark).map _ = _
    rw [ho, hg]
    dsimp only
    rw [ofLines_refused hsplit hfront htoken]
    rfl
  | drawn g =>
    obtain ⟨hall, hbody, ⟨t, ht, hg⟩, hprod⟩ := h
    obtain ⟨o, ho⟩ := compile_of_lastType dark hall hbody ht
    obtain ⟨elements, hel⟩ := ofLines_accepted hprod o.direction
    obtain ⟨c, hc⟩ := exists_chart (ofLines_fresh hel)
    obtain ⟨middle, hm⟩ := renderChart_ends c.grammar o.direction c.statements o.dark
    refine ⟨middle, ?_⟩
    rw [ho, hg]
    dsimp only
    rw [hel, ← hm]
    show (Chart.ofElements g o.direction elements >>= _).map _ = _
    rw [hc]
    rfl

/-! ## 5. No other one applies -/

/-- The place of an outcome in the order in which they are decided. -/
def stage : Outcome → Nat
  | .refused _ => 0
  | .blank => 1
  | .untyped => 2
  | .undrawn _ => 3
  | .unread _ _ => 4
  | .drawn _ => 5

section Order

variable {text : Text} {o o' : Outcome}

theorem Applies.accepted (h : Applies text o) (hs : 0 < o.stage) :
    ∀ d ∈ headerOf text, d.Accepted := by
  cases o with
  | refused d => exact absurd hs (Nat.lt_irrefl 0)
  | _ => exact h.1

theorem Applies.body_ne_nil (h : Applies text o) (hs : 1 < o.stage) : bodyLines text ≠ [] := by
  cases o with
  | refused d => exact absurd hs (Nat.not_lt_zero 1)
  | blank => exact absurd hs (Nat.lt_irrefl 1)
  | _ => exact h.2.1

theorem Applies.exists_lastType (h : Applies text o) (hs : 3 ≤ o.stage) :
    ∃ t, Directive.LastType (headerOf text) t := by
  cases o with
  | refused | blank | untyped => simp [stage] at hs
  | undrawn t => exact ⟨t, h.2.2.1⟩
  | unread | drawn => exact h.2.2.1.imp fun _ ht => ht.1

theorem Applies.exists_grammar (h : Applies text o) (hs : 4 ≤ o.stage) :
    ∃ t g, Directive.LastType (headerOf text) t ∧ ChartType.grammar? t = some g := by
  cases o with
  | refused | blank | untyped | undrawn => simp [stage] at hs
  | unread g | drawn g => exact h.2.2.1.imp fun _ ht => ⟨g, ht⟩

/-- **An outcome rules out all that are decided after it.** -/
theorem Applies.not_lt (h : Applies text o) (h' : Applies text o') : ¬ o.stage < o'.stage := by
  intro hs
  cases o with
  | refused d => exact FirstWithout.not_forall h (h'.accepted hs)
  | blank => exact h'.body_ne_nil hs h.2
  | untyped =>
    obtain ⟨t, ht⟩ := h'.exists_lastType hs
    exact ht.not_forall_ne h.2.2
  | undrawn t =>
    obtain ⟨hall, -, ht, hg⟩ := h
    obtain ⟨u, g, hu, hg'⟩ := h'.exists_grammar hs
    obtain rfl := lastType_unique hall ht hu
    rw [hg] at hg'
    cases hg'
  | unread g token =>
    obtain ⟨hall, -, hg, htoken⟩ := h
    cases o' with
    | drawn g' =>
      obtain ⟨-, -, hg', hprod⟩ := h'
      obtain rfl := grammar_unique hall hg hg'
      exact htoken.not_forall hprod
    | _ => simp [stage] at hs
  | drawn g => cases o' <;> simp [stage] at hs

theorem Applies.unique (h : Applies text o) (h' : Applies text o') : o' = o := by
  have hs : o.stage = o'.stage :=
    Nat.le_antisymm (Nat.le_of_not_lt (h'.not_lt h)) (Nat.le_of_not_lt (h.not_lt h'))
  cases o <;> cases o' <;> first | rfl | cases hs
  case refused.refused d d' => exact congrArg refused (FirstWithout.unique h' h)
  case undrawn.undrawn t t' => exact congrArg undrawn (lastType_unique h.1 h'.2.2.1 h.2.2.1)
  case unread.unread g token g' token' =>
    obtain ⟨hall, -, hg, htoken⟩ := h
    obtain ⟨-, -, hg', htoken'⟩ := h'
    obtain rfl := grammar_unique hall hg hg'
    exact congrArg (unread g) (htoken'.unique htoken)
  case drawn.drawn g g' => exact congrArg drawn (grammar_unique h.1 h'.2.2.1 h.2.2.1)

end Order

end Outcome

/-- **How compiling ends**: exactly one outcome applies to a document, and compiling gives what it
    says. So there is no failure beside the three kinds that the outcomes name. -/
theorem compileText_outcome (text : Text) (dark : Bool) :
    ∃ o, Outcome.Applies text o ∧ o.Describes (compileText text dark) ∧
      ∀ o', Outcome.Applies text o' → o' = o := by
  obtain ⟨o, h⟩ := Outcome.exists_applies text
  exact ⟨o, h, h.describes dark, fun o' h' => h.unique h'⟩

end Yuml
