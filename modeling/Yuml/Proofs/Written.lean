import Mathlib
import Yuml.Proofs.Background
import Yuml.Proofs.Parts
import Yuml.Proofs.Ports
import Yuml.Proofs.SmallLetters

/-!
# Drawings as they are written: which quoted values are read back

For a document that has compiled, every value but a label is clean: shapes, margins, styles, arrow
heads, and colours as labels spell them (`Paint.Spelled.clean`). A label is written as it is, or
escaped, or with its fields broken; none of this decides whether it is sealed (`Shows`). A record of
several fields shows its label in a table, without quotes.

So all quoted values of a drawing are read back if and only if the labels that it writes between
quotes are sealed. Not every label is: a quote in it may stand behind two backslashes, and then the
value ends there.
-/

namespace Yuml

/-! ## 1. Colours -/

theorem clean_of_isColorText {color : Text} (h : LabelParts.isColorText color = true) :
    Clean (Text.toLower color) where
  left := Text.not_mem_toLower (by decide) (LabelParts.not_mem_of_isColorText h (by decide))
  right := Text.not_mem_toLower (by decide) (LabelParts.not_mem_of_isColorText h (by decide))

/-- A background forces white or black on the text, if anything. -/
theorem eq_of_mem_fontColor {background c : Text} (h : c ∈ Color.fontColor background) :
    c = "white".toList ∨ c = "black".toList := by
  unfold Color.fontColor Color.contrast at h
  split at h
  · exact .inl (Option.some.inj h).symm
  · split at h
    · exact .inr (Option.some.inj h).symm
    · cases h

theorem clean_fontColor (background : Text) : ∀ c ∈ Color.fontColor background, Clean c := by
  intro c hc
  rcases eq_of_mem_fontColor hc with rfl | rfl <;> decide

theorem clean_none : ∀ v ∈ (none : Option Text), Clean v :=
  fun v h => absurd h (Option.not_mem_none v)

/-- The colours that a label spells are clean. -/
theorem Paint.Spelled.clean {p : Paint} (h : p.Spelled) :
    (∀ c ∈ p.background, Clean c) ∧ ∀ c ∈ p.fontColor, Clean c := by
  cases h with
  | none => exact ⟨clean_none, clean_none⟩
  | background color h =>
    refine ⟨fun c hc => ?_, clean_fontColor _⟩
    cases hc
    exact clean_of_isColorText h

namespace Attributes

/-- The colours that a list has when it is painted are its own or those of the paint. -/
theorem painted_colors {a : Attributes} {p : Paint} {P : Text → Prop}
    (ha : (∀ c ∈ a.fillcolor, P c) ∧ ∀ c ∈ a.fontcolor, P c)
    (hp : (∀ c ∈ p.background, P c) ∧ ∀ c ∈ p.fontColor, P c) :
    (∀ c ∈ (a.painted p).fillcolor, P c) ∧ ∀ c ∈ (a.painted p).fontcolor, P c := by
  obtain ⟨back, font⟩ := p
  rcases back with _ | _ | ⟨c, back⟩ <;> rcases font with _ | _ | ⟨d, font⟩
  all_goals first
    | exact ha
    | exact ⟨ha.1, hp.2⟩
    | exact ⟨hp.1, ha.2⟩
    | exact hp

theorem Tidy.painted {a : Attributes} (h : a.Tidy) {p : Paint} (hp : p.Spelled) :
    (a.painted p).Tidy := by
  obtain ⟨hfill, hfont⟩ := painted_colors ⟨h.fillcolor, h.fontcolor⟩ hp.clean
  refine ⟨?_, hfill, hfont, ?_⟩
  · rw [painted_margin]
    exact h.margin
  · rw [painted_dir]
    exact h.dir

end Attributes

/-! ## 2. Records -/

/-- A label that begins with no angle bracket is not made of ports. -/
theorem isPortLabel_of_head? {label : Text} (h : label.head? ≠ some '<') :
    Attributes.isPortLabel label = false := by
  have hfront : (Text.beforeFinalNewline label).head? ≠ some '<' := by
    unfold Text.beforeFinalNewline
    split
    · cases label with
      | nil => exact h
      | cons c r => cases r with
        | nil =>
          intro e
          cases e
        | cons d r => exact h
    · exact h
  unfold Attributes.isPortLabel
  generalize Text.beforeFinalNewline label = front at hfront
  cases front with
  | nil => rfl
  | cons c r =>
    by_cases hc : c = '|'
    · subst hc
      rw [Text.splitAt_cons_self]
      rfl
    · have hne : c ≠ '<' := fun e => hfront (congrArg some e)
      have hfield (t : Text) : Attributes.isPortField (c :: t) = false := by
        unfold Attributes.isPortField
        split
        · rename_i he
          exact absurd (List.cons.inj he).1 hne
        · rfl
      rw [Text.splitAt_cons_of_ne hc]
      cases Text.splitAt '|' r with
      | nil => simp [Text.consToFirst, hfield]
      | cons p ps => simp [Text.consToFirst, hfield]

/-- No escaped text begins with a character that is escaped. -/
theorem isProtected_of_head?_escape {s : Text} {d : Char} (h : (Label.escape s).head? = some d) :
    Label.isProtected d = false := by
  cases s with
  | nil => cases h
  | cons c s =>
    rw [Label.escape, List.flatMap_cons, Label.escapeChar] at h
    split at h
    · cases h
      rfl
    · rename_i hc
      split at h
      · cases h
        rfl
      · cases h
        exact Bool.eq_false_iff.mpr hc

theorem head?_escape_ne (label : Text) : (Label.escape label).head? ≠ some '<' := fun h =>
  absurd (isProtected_of_head?_escape h) (by decide)

theorem bar_mem_escape_iff {label : Text} : '|' ∈ Label.escape label ↔ '|' ∈ label := by
  have hchar (c : Char) : '|' ∈ Label.escapeChar c ↔ c = '|' := by
    unfold Label.escapeChar
    split
    · rename_i hp
      have hne : c ≠ '|' := fun e => by rw [e] at hp; cases hp
      simp [hne, Ne.symm hne]
    · split
      · rename_i hs
        subst hs
        decide
      · rw [List.mem_singleton]
        exact eq_comm
  rw [Label.escape, List.mem_flatMap]
  constructor
  · rintro ⟨c, hc, h⟩
    exact (hchar c).mp h ▸ hc
  · exact fun h => ⟨'|', h, (hchar '|').mpr rfl⟩

theorem bar_mem_iff_of_broken {s t : Text} (h : List.Forall₂ Broken s t) : '|' ∈ s ↔ '|' ∈ t := by
  induction h with
  | nil => exact Iff.rfl
  | cons hcd _ ih =>
    rw [List.mem_cons, List.mem_cons, ih]
    rcases hcd with rfl | ⟨rfl, rfl⟩
    · exact Iff.rfl
    · simp

theorem bar_mem_wrap_iff {width : Nat} {line : Text} : '|' ∈ Label.wrap width line ↔ '|' ∈ line :=
  bar_mem_iff_of_broken (broken_wrap width line)

/-- What a text that shows a label has in common with it: whether it has several fields and whether
    it is sealed. It is no row of ports. -/
structure Shows (text label : Text) : Prop where
  head : text.head? ≠ some '<'
  bar : '|' ∈ text ↔ '|' ∈ label
  sealed : Sealed text ↔ Sealed label

theorem shows_escape (label : Text) : Shows (Label.escape label) label where
  head := head?_escape_ne label
  bar := bar_mem_escape_iff
  sealed := sealed_escape_iff

theorem shows_format (width : Nat) (divided : Bool) (label : Text) :
    Shows (Label.format width divided label) label := by
  obtain ⟨s, hs, hbroken⟩ := exists_broken width divided label
  refine ⟨?_, ?_, sealed_format_iff⟩
  · rw [hs]
    exact head?_escape_ne s
  · rw [hs, bar_mem_escape_iff, bar_mem_iff_of_broken hbroken]

/-- The labels of an element that are written between quotes; a record of several fields is written
    as a table. -/
def Element.quotedLabels : Element → List Text
  | .node (.activity label _) | .node (.classBox label _) => if '|' ∈ label then [] else [label]
  | .node (.note label _) => [label]
  | .edge (.arrow label _ _) _ => label.toList
  | .edge (.connection left right _) _ => [left.label, right.label]
  | _ => []

namespace Attributes

theorem shownLabels_painted (a : Attributes) (p : Paint) :
    (a.painted p).shownLabels = a.shownLabels := by
  unfold painted
  split <;> split <;> rfl

theorem shownLabels_of_ne_record {a : Attributes} (h : a.shape ≠ .record) :
    a.shownLabels = a.labelText :: (a.taillabel.toList ++ a.headlabel.toList) := by
  have hshape : (a.shape == .record) = false := beq_eq_false_iff_ne.mpr h
  have htable : a.isTable = false := by rw [isTable, hshape]; rfl
  rw [shownLabels, htable]
  rfl

/-- A record that shows a label quotes it unless the label has several fields. -/
theorem shownLabels_record {a : Attributes} {text label : Text} (hs : a.shape = .record)
    (hl : a.label = some text) (ht : a.taillabel = none) (hh : a.headlabel = none)
    (h : Shows text label) : a.shownLabels = if '|' ∈ label then [] else [text] := by
  have htext : a.labelText = text := by rw [labelText, hl]; rfl
  have htable : a.isTable = true ↔ '|' ∈ label := by
    rw [isTable, hs, htext, isPortLabel_of_head? h.head, ← h.bar]
    simp
  rw [shownLabels, htext, ht, hh]
  by_cases hbar : '|' ∈ label
  · rw [if_pos (htable.mpr hbar), if_pos hbar]
  · rw [if_neg (fun e => hbar (htable.mp e)), if_neg hbar]
    rfl

end Attributes

/-! ## 3. Elements -/

/-- Whether attributes draw an element so that its quoted labels decide what is read back. -/
structure Attributes.Draws (a : Attributes) (e : Element) : Prop where
  tidy : a.Tidy
  sealed : (∀ v ∈ a.shownLabels, Sealed v) ↔ ∀ label ∈ e.quotedLabels, Sealed label

theorem tidy_of_plain {a : Attributes} (hm : ∀ v ∈ a.margin, Clean v) (hf : a.fillcolor = none)
    (hc : a.fontcolor = none) (hd : ∀ v ∈ a.dir, Clean v) : a.Tidy := by
  refine ⟨hm, ?_, ?_, hd⟩
  · rw [hf]
    exact clean_none
  · rw [hc]
    exact clean_none

theorem sealed_nil : Sealed [] := by decide

theorem draws_bare {a : Attributes} {e : Element} (ht : a.Tidy) (hs : a.shape ≠ .record)
    (hl : a.label = none) (htail : a.taillabel = none) (hhead : a.headlabel = none)
    (he : e.quotedLabels = []) : a.Draws e := by
  refine ⟨ht, ?_⟩
  rw [Attributes.shownLabels_of_ne_record hs, Attributes.labelText, hl, htail, hhead, he]
  exact ⟨fun _ _ h => absurd h List.not_mem_nil, fun _ => List.forall_mem_singleton.mpr sealed_nil⟩

section Boxes

variable {a : Attributes} {p : Paint} {text label : Text}

theorem draws_record {e : Element} (ht : a.Tidy) (hp : p.Spelled) (hs : a.shape = .record)
    (hl : a.label = some text) (htail : a.taillabel = none) (hhead : a.headlabel = none)
    (h : Shows text label) (he : e.quotedLabels = if '|' ∈ label then [] else [label]) :
    (a.painted p).Draws e := by
  refine ⟨ht.painted hp, ?_⟩
  rw [Attributes.shownLabels_painted, Attributes.shownLabels_record hs hl htail hhead h, he]
  split
  · exact Iff.rfl
  · rw [List.forall_mem_singleton, List.forall_mem_singleton, h.sealed]

theorem draws_note {e : Element} (ht : a.Tidy) (hp : p.Spelled) (hs : a.shape = .note)
    (hl : a.label = some text) (htail : a.taillabel = none) (hhead : a.headlabel = none)
    (h : Shows text label) (he : e.quotedLabels = [label]) : (a.painted p).Draws e := by
  refine ⟨ht.painted hp, ?_⟩
  rw [Attributes.shownLabels_painted, Attributes.shownLabels_of_ne_record (by rw [hs]; decide),
    Attributes.labelText, hl, htail, hhead, he]
  show (∀ v ∈ [text], Sealed v) ↔ _
  rw [List.forall_mem_singleton, List.forall_mem_singleton, h.sealed]

end Boxes

/-- A bar shows its ports, which are clean. -/
theorem draws_bar (n : Nat) (d : Direction) (label : Text) (fanin : Int) :
    (barAttributes n d).Draws (.node (.bar label fanin)) := by
  have hclean : Clean (portLabel n) :=
    ⟨not_mem_portLabel (by decide) (by decide) n, not_mem_portLabel (by decide) (by decide) n⟩
  have htable : (barAttributes n d).isTable = false := by
    have hport : Attributes.isPortLabel (barAttributes n d).labelText = (n != 0) :=
      isPortLabel_portLabel n
    rw [Attributes.isTable, hport]
    cases n <;> rfl
  refine ⟨tidy_of_plain ?_ rfl rfl clean_none, fun _ _ h => absurd h List.not_mem_nil, fun _ => ?_⟩
  · intro v hv
    cases hv
    decide
  · rw [Attributes.shownLabels, htable]
    exact List.forall_mem_singleton.mpr hclean.sealed

theorem clean_boxMargin : Clean boxMargin := by decide

theorem clean_tightMargin : Clean tightMargin := by decide

/-- **The attributes of a node** are tidy, and its label decides what is read back. -/
theorem Element.Fresh.draws_node {g : Grammar} {d : Direction} {p : Placed}
    (h : p.element.Fresh g d) {l : Ledger} {a : Attributes}
    (ha : (l.current p).nodeAttributes g d = .ok a) : a.Draws p.element := by
  have hbox : ∀ v ∈ some boxMargin, Clean v := fun v hv => by cases hv; exact clean_boxMargin
  have htight : ∀ v ∈ some tightMargin, Clean v := fun v hv => by cases hv; exact clean_tightMargin
  obtain ⟨place, e⟩ := p
  cases h with
  | start | stop | decision =>
    cases ha
    exact draws_bare (tidy_of_plain htight rfl rfl clean_none) (by decide) rfl rfl rfl rfl
  | activity _ label paint hp =>
    cases ha
    exact draws_record (tidy_of_plain hbox rfl rfl clean_none) hp rfl rfl rfl rfl
      (shows_escape label) rfl
  | bar _ label =>
    cases ha
    show (barAttributes (0 + (l.portsAt place : Int)) d).Draws _
    rw [Int.zero_add]
    exact draws_bar (l.portsAt place) d label 0
  | note _ _ label paint hp =>
    cases g with
    | activity =>
      cases ha
      exact draws_note (tidy_of_plain hbox rfl rfl clean_none) hp rfl rfl rfl rfl
        (shows_escape label) rfl
    | classes =>
      cases ha
      exact draws_note (tidy_of_plain hbox rfl rfl clean_none) hp rfl rfl rfl rfl
        (shows_format _ _ label) rfl
  | classBox _ label paint hp =>
    cases ha
    exact draws_record (tidy_of_plain hbox rfl rfl clean_none) hp rfl rfl rfl rfl
      (shows_format _ _ label) rfl
  | arrow | connection | inheritance => cases ha

/-- **The attributes of an edge** are tidy, and its labels decide what is read back. -/
theorem Element.Fresh.draws_edge {g : Grammar} {d : Direction} {e : Element} (h : e.Fresh g d)
    {r : Relation} {a : Attributes} (ha : e.edgeAttributes r = .ok a) : a.Draws e := by
  have hboth : ∀ v ∈ some "both".toList, Clean v := fun v hv => by cases hv; decide
  have hshape : a.shape ≠ .record := by
    intro e
    cases h <;> cases ha <;> cases e
  cases h with
  | arrow _ label directed =>
    cases ha
    refine ⟨tidy_of_plain clean_none rfl rfl hboth, ?_⟩
    rw [Attributes.shownLabels_of_ne_record hshape]
    show (∀ v ∈ [label.getD []], Sealed v) ↔ ∀ v ∈ label.toList, Sealed v
    cases label with
    | none => exact ⟨fun _ _ h => absurd h List.not_mem_nil,
        fun _ => List.forall_mem_singleton.mpr sealed_nil⟩
    | some label => exact Iff.rfl
  | connection _ left right dashed =>
    cases ha
    refine ⟨tidy_of_plain clean_none rfl rfl hboth, ?_⟩
    rw [Attributes.shownLabels_of_ne_record hshape]
    show (∀ v ∈ [[], left.label, right.label], Sealed v) ↔ ∀ v ∈ [left.label, right.label], Sealed v
    rw [List.forall_mem_cons]
    exact and_iff_right sealed_nil
  | inheritance =>
    cases ha
    exact draws_bare (tidy_of_plain clean_none rfl rfl hboth) hshape rfl rfl rfl rfl
  | _ => cases ha

/-! ## 4. Documents -/

/-- The parts of a statement. -/
def Statement.parts (s : Statement) : List Part :=
  match s.target with
  | none => .plain ("    ".toList ++ s.uid ++ [' ']) :: s.attributes.parts
  | some target =>
    let edge := s.uid ++ " -> ".toList ++ target ++ [' ']
    if s.sameRank then
      .plain ("    \x7b rank=same; ".toList ++ edge) ::
        (s.attributes.parts ++ [.plain ";\x7d".toList])
    else .plain ("    ".toList ++ edge) :: s.attributes.parts

/-- The parts of a chart: its header, its statements and its last line. -/
def chartParts (g : Grammar) (d : Direction) (statements : List Statement) (dark : Bool) :
    List Part :=
  (headerLines g d dark).map (fun line => .plain (line ++ ['\n'])) ++
    (statements.flatMap (fun s => s.parts ++ [.plain ['\n']]) ++ [.plain "\x7d\n".toList])

/-- The parts of a drawing. -/
def Diagram.parts (d : Diagram) : List Part :=
  match d.chart with
  | none => []
  | some c => chartParts c.grammar d.options.direction c.statements d.options.dark

theorem written_cons_plain (t : Text) (ps : List Part) :
    written (.plain t :: ps) = t ++ written ps := rfl

theorem Statement.written_parts {s : Statement} (h : s.attributes.Tidy) :
    written s.parts = s.render := by
  obtain ⟨uid, a, target, sameRank⟩ := s
  have ha : written a.parts = a.render := h.written_parts
  cases target with
  | none =>
    rw [Statement.parts, written_cons_plain, ha, Statement.render]
    simp only [List.append_assoc, List.singleton_append]
  | some target =>
    rw [Statement.parts, Statement.render]
    dsimp only
    cases sameRank with
    | false =>
      rw [if_neg Bool.false_ne_true, if_neg Bool.false_ne_true, written_cons_plain, ha]
      simp only [List.append_assoc, List.singleton_append]
    | true =>
      rw [if_pos rfl, if_pos rfl, written_cons_plain, written_append, ha, written_plain]
      simp only [List.append_assoc, List.cons_append, List.nil_append]

theorem Statement.values_parts (s : Statement) : values s.parts = values s.attributes.parts := by
  unfold Statement.parts
  split
  · rfl
  · dsimp only
    split
    · show values (s.attributes.parts ++ [.plain _]) = _
      rw [values_append]
      exact List.append_nil _
    · rfl

/-- Lines joined by line feeds, with one more behind the last. -/
theorem joinWith_newline {lines : List Text} (h : lines ≠ []) :
    Text.joinWith ['\n'] lines ++ ['\n'] = lines.flatMap (· ++ ['\n']) := by
  induction lines with
  | nil => exact absurd rfl h
  | cons line lines ih =>
    cases lines with
    | nil => simp [Text.joinWith]
    | cons next lines =>
      rw [Text.joinWith, List.append_assoc, ih (List.cons_ne_nil next lines)]
      rfl

theorem written_chartParts (g : Grammar) (d : Direction) {statements : List Statement}
    (h : ∀ s ∈ statements, s.attributes.Tidy) (dark : Bool) :
    written (chartParts g d statements dark) = renderChart g d statements dark := by
  have hheader (lines : List Text) :
      written (lines.map fun line => .plain (line ++ ['\n'])) = lines.flatMap (· ++ ['\n']) := by
    induction lines with
    | nil => rfl
    | cons line lines ih => rw [List.map_cons, written_cons_plain, ih, List.flatMap_cons]
  have hbody : written (statements.flatMap fun s => s.parts ++ [.plain ['\n']]) =
      (statements.map Statement.render).flatMap (· ++ ['\n']) := by
    induction statements with
    | nil => rfl
    | cons s statements ih =>
      obtain ⟨hs, hss⟩ := List.forall_mem_cons.mp h
      rw [List.flatMap_cons, written_append, written_append, written_plain,
        Statement.written_parts hs, ih hss, List.map_cons, List.flatMap_cons]
  rw [chartParts, written_append, written_append, written_plain, hheader, hbody, renderChart,
    joinWith_newline (by simp), List.flatMap_append, List.flatMap_append, List.append_assoc]
  rfl

theorem values_chartParts (g : Grammar) (d : Direction) (statements : List Statement)
    (dark : Bool) : values (chartParts g d statements dark) =
      statements.flatMap fun s => values s.attributes.parts := by
  have hheader (lines : List Text) :
      values (lines.map fun line => .plain (line ++ ['\n'])) = [] := by
    induction lines with
    | nil => rfl
    | cons line lines ih => exact ih
  have hbody : values (statements.flatMap fun s => s.parts ++ [.plain ['\n']]) =
      statements.flatMap fun s => values s.attributes.parts := by
    induction statements with
    | nil => rfl
    | cons s statements ih =>
      have hend : values [.plain ['\n']] = [] := rfl
      rw [List.flatMap_cons, values_append, values_append, hend, List.append_nil,
        Statement.values_parts, ih, List.flatMap_cons]
  have hend : values [.plain "\x7d\n".toList] = [] := rfl
  rw [chartParts, values_append, values_append, hheader, hbody, hend, List.append_nil,
    List.nil_append]

/-- The elements that a chart draws: the owners of its nodes and its edges, in the order of their
    statements. -/
def Chart.drawnElements (c : Chart) : List Element :=
  c.table.map (·.owner.element) ++ c.resolution.edges.map (·.1.element)

/-- The labels that a drawing writes between quotes. -/
def Diagram.quotedLabels (d : Diagram) : List Text :=
  match d.chart with
  | none => []
  | some c => c.drawnElements.flatMap Element.quotedLabels

/-- Every statement draws its element. -/
theorem Chart.Of.forall₂_draws {g : Grammar} {d : Direction} {elements : List Element} {c : Chart}
    (h : Chart.Of g d elements c) (hfresh : ∀ e ∈ elements, e.Fresh g d) :
    List.Forall₂ (fun e (s : Statement) => s.attributes.Draws e) c.drawnElements c.statements := by
  obtain ⟨ns, es, hss, hns, hes⟩ := ofChart_eq_ok_iff.mp h.statements
  have hrow := h.fresh hfresh
  have hnodes : ∀ i ∈ c.table, i.owner.element.Fresh g d :=
    fun i hi => hrow _ (h.owner_mem hi).1
  have hedges : ∀ e ∈ c.resolution.edges, e.1.element.Fresh g d := by
    intro e he
    obtain ⟨j, -, l, hj, rfl⟩ := h.join_of_mem he
    exact hrow _ hj.edge_mem
  rw [hss]
  refine List.rel_append (List.forall₂_map_left_iff.mpr ?_) (List.forall₂_map_left_iff.mpr ?_)
  · refine ((List.forall₂_and_left _ _).mpr ⟨hnodes, hns⟩).imp fun i s hs => ?_
    obtain ⟨a, ha, rfl⟩ := ofIdentity_eq_ok hs.2
    exact hs.1.draws_node ha
  · refine ((List.forall₂_and_left _ _).mpr ⟨hedges, hes⟩).imp fun e s hs => ?_
    obtain ⟨a, ha, rfl⟩ := ofEdge_eq_ok hs.2
    exact hs.1.draws_edge ha

/-- **Quoted values are read back exactly where quoted labels are sealed.** The parts of a drawing
    are what is written, and all of their values are closed by their own quotes if and only if every
    label that is written between quotes is sealed. -/
theorem compile_closes_iff {text : Text} {dark : Bool} {d : Diagram}
    (h : Diagram.compile text dark = .ok d) :
    compileText text dark = .ok (written d.parts) ∧
      (Closes d.parts ↔ ∀ label ∈ d.quotedLabels, Sealed label) := by
  obtain ⟨o, chart⟩ := d
  cases chart with
  | none =>
    refine ⟨by rw [compileText, h]; rfl, fun _ _ hm => absurd hm List.not_mem_nil, fun _ => trivial⟩
  | some c =>
    obtain ⟨-, -, -, elements, hel, hof⟩ := compile_eq_some h rfl
    have hdraws := hof.forall₂_draws (ofLines_fresh hel)
    have htidy : ∀ s ∈ c.statements, s.attributes.Tidy :=
      forall_of_forall₂ hdraws fun e _ s hs => hs.tidy
    have hsealed := forall_iff_of_forall₂ hdraws fun e s hs =>
      hs.sealed.symm.trans hs.tidy.sealed_iff.symm
    constructor
    · rw [compileText, h]
      exact congrArg Except.ok (written_chartParts c.grammar o.direction htidy o.dark).symm
    · rw [closes_iff]
      show (∀ v ∈ values (chartParts c.grammar o.direction c.statements o.dark), Sealed v) ↔
        ∀ label ∈ c.drawnElements.flatMap Element.quotedLabels, Sealed label
      rw [values_chartParts, List.forall_mem_flatMap, List.forall_mem_flatMap]
      exact hsealed.symm

/-- A label with a quote behind no backslash and one with a quote behind one. -/
theorem compile_closes_iff_quotes :
    ∃ d, Diagram.compile "// {type:activity}\n(a \"b\")->(c \\\"d)".toList false = .ok d ∧
      compileText "// {type:activity}\n(a \"b\")->(c \\\"d)".toList false = .ok (written d.parts) ∧
      (Closes d.parts ↔ ∀ label ∈ d.quotedLabels, Sealed label) := by
  obtain ⟨d, hd, -⟩ := exists_of_okAnd (p := fun _ => true)
    (x := Diagram.compile "// {type:activity}\n(a \"b\")->(c \\\"d)".toList false)
    (by decide +kernel)
  exact ⟨d, hd, compile_closes_iff hd⟩

/-- A quote behind two backslashes: it is written as it stands, and the value ends there. -/
theorem not_closes_of_two_backslashes :
    ∃ d, Diagram.compile "// {type:activity}\n(a\\\\\"b)->(c)".toList false = .ok d ∧
      compileText "// {type:activity}\n(a\\\\\"b)->(c)".toList false = .ok (written d.parts) ∧
      ¬ Closes d.parts := by
  obtain ⟨d, hd, hp⟩ := exists_of_okAnd
    (p := fun d => compileText "// {type:activity}\n(a\\\\\"b)->(c)".toList false =
      .ok (written d.parts) && !decide (Closes d.parts))
    (x := Diagram.compile "// {type:activity}\n(a\\\\\"b)->(c)".toList false)
    (by decide +kernel)
  obtain ⟨htext, hcloses⟩ := Bool.and_eq_true_iff.mp hp
  exact ⟨d, hd, of_decide_eq_true htext, by simpa using hcloses⟩

end Yuml
