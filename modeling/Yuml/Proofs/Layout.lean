import Yuml.Proofs.Outcome

/-!
# Layout: where the lines of a document stand does not matter

What a document says is two lists: the lines that are directives and the lines of the body. A LAYOUT
of the two (`Layout`) is any text that holds the lines of both in their orders, mixed in any way,
with blank lines and with comments that are no directives wherever one likes, with white space around
each line, and with any line end behind each but the last, which may have none.

* Header and body are read from the lines of a document that are not blank, once they are trimmed
  (`headerOf_eq`, `bodyLines_eq`), so a layout is read as the two lists (`Layout.reads`).
* All layouts of the same lists compile alike, and like the plain one (`compileText_layout`).
* Every text is a layout of two lists (`exists_layout`).
* Reading a document in text mode does not change its lines at all (`splitLines_universalNewlines`).
-/

namespace Yuml

/-! ## 1. Lines -/

namespace Text

/-- White space that ends no line. -/
def Padding (s : Text) : Prop := ∀ c ∈ s, isBlank c = true ∧ isLineEnd c = false

instance (s : Text) : Decidable (Padding s) := List.decidableBAll _ s

/-- A text that no line end cuts. -/
def OneLine (s : Text) : Prop := ∀ c ∈ s, isLineEnd c = false

instance (s : Text) : Decidable (OneLine s) := List.decidableBAll _ s

/-- What ends a line: a carriage return with its line feed, or one character. -/
inductive LineEnd : Text → Prop where
  | pair : LineEnd ['\r', '\n']
  | single {c : Char} (h : isLineEnd c = true) : LineEnd [c]

theorem splitLinesFrom_plain {c : Char} (h : isLineEnd c = false) (r : Text) :
    splitLinesFrom false (c :: r) = consToFirst c (splitLinesFrom false r) := by
  rw [splitLinesFrom, if_neg (by simp), if_neg (by rw [h]; exact Bool.false_ne_true)]

theorem splitLinesFrom_end {c : Char} (h : isLineEnd c = true) (r : Text) :
    splitLinesFrom false (c :: r) = [] :: splitLinesFrom (c == '\r') r := by
  rw [splitLinesFrom, if_neg (by simp), if_pos h]

/-- **A line end closes the line before it.** -/
theorem splitLinesFrom_line {l : Text} (hl : OneLine l) {c : Char} (hc : isLineEnd c = true)
    (r : Text) : splitLinesFrom false (l ++ c :: r) = l :: splitLinesFrom (c == '\r') r := by
  induction l with
  | nil => exact splitLinesFrom_end hc r
  | cons d l ih =>
    obtain ⟨hd, hl⟩ := List.forall_mem_cons.mp hl
    rw [List.cons_append, splitLinesFrom_plain hd, ih hl]
    rfl

/-- The last line may have no line end. -/
theorem splitLinesFrom_last {l : Text} (hl : OneLine l) (hne : l ≠ []) :
    splitLinesFrom false l = [l] := by
  induction l with
  | nil => exact absurd rfl hne
  | cons d l ih =>
    obtain ⟨hd, hl⟩ := List.forall_mem_cons.mp hl
    rw [splitLinesFrom_plain hd]
    cases l with
    | nil => rfl
    | cons e l =>
      rw [ih hl (List.cons_ne_nil e l)]
      rfl

/-- **Text mode keeps the lines**: what it writes for a line end ends a line at the same place. -/
theorem splitLines_newlinesFrom (afterReturn : Bool) (s : Text) :
    splitLinesFrom false (newlinesFrom afterReturn s) = splitLinesFrom afterReturn s := by
  induction s generalizing afterReturn with
  | nil => rfl
  | cons c r ih =>
    rw [newlinesFrom]
    conv_rhs => rw [splitLinesFrom]
    by_cases hpair : (afterReturn && c == '\n') = true
    · rw [if_pos hpair, if_pos hpair, ih]
    rw [if_neg hpair, if_neg hpair]
    by_cases hc : c = '\r'
    · subst hc
      rw [if_pos (beq_self_eq_true _), if_pos (by decide), splitLinesFrom_end (by decide)]
      exact congrArg ([] :: ·) (ih true)
    have hb : (c == '\r') = false := beq_eq_false_iff_ne.mpr hc
    rw [hb, if_neg Bool.false_ne_true]
    cases he : isLineEnd c with
    | true => rw [splitLinesFrom_end he, hb, ih, if_pos rfl]
    | false => rw [splitLinesFrom_plain he, ih, if_neg Bool.false_ne_true]

theorem splitLines_universalNewlines (s : Text) :
    splitLines (universalNewlines s) = splitLines s := splitLines_newlinesFrom false s

/-! ## 2. What is not blank -/

/-- What stands on some lines, trimmed, without those that are blank. -/
def contents (lines : List Text) : List Text := (lines.map trim).filter fun l => !l.isEmpty

theorem contents_cons (l : Text) (lines : List Text) :
    contents (l :: lines) = contents [l] ++ contents lines := by
  rw [contents, List.map_cons, ← List.singleton_append, List.filter_append]
  rfl

/-- A line feed behind a carriage return adds a blank line at most. -/
theorem contents_splitLinesFrom (afterReturn : Bool) (s : Text) :
    contents (splitLinesFrom afterReturn s) = contents (splitLinesFrom false s) := by
  cases afterReturn with
  | false => rfl
  | true =>
    cases s with
    | nil => rfl
    | cons c r =>
      by_cases hc : c = '\n'
      · subst hc
        rw [splitLinesFrom_end (by decide), splitLinesFrom, if_pos (by decide)]
        rfl
      · have hb : (c == '\n') = false := beq_eq_false_iff_ne.mpr hc
        simp only [splitLinesFrom, hb, Bool.and_false, Bool.false_eq_true, if_false]

theorem contents_line {l e : Text} (hl : OneLine l) (he : LineEnd e) (r : Text) :
    contents (splitLines (l ++ e ++ r)) = contents [l] ++ contents (splitLines r) := by
  rw [← contents_cons, splitLines, List.append_assoc]
  cases he with
  | pair =>
    rw [List.cons_append, splitLinesFrom_line hl (by decide)]
    rfl
  | single hc =>
    rw [List.cons_append, splitLinesFrom_line hl hc, contents_cons, contents_splitLinesFrom,
      ← contents_cons]
    rfl

theorem contents_last {l : Text} (hl : OneLine l) : contents (splitLines l) = contents [l] := by
  by_cases hne : l = []
  · subst hne
    rfl
  · rw [splitLines, splitLinesFrom_last hl hne]

theorem contents_padded {before after : Text} (hb : Padding before) (ha : Padding after)
    (s : Text) : contents [before ++ s ++ after] = contents [s] := by
  have htrim : trim (before ++ s ++ after) = trim s :=
    trim_padded (fun c hc => (hb c hc).1) (fun c hc => (ha c hc).1) s
  rw [contents, List.map_singleton, htrim]
  rfl

theorem OneLine.padded {before after s : Text} (hb : Padding before) (ha : Padding after)
    (hs : OneLine s) : OneLine (before ++ s ++ after) :=
  List.forall_mem_append.mpr
    ⟨List.forall_mem_append.mpr ⟨fun c hc => (hb c hc).2, hs⟩, fun c hc => (ha c hc).2⟩

end Text

open Text (Padding OneLine LineEnd contents)

/-! ## 3. Header and body -/

namespace Directive

/-- White space around a directive does not count. -/
theorem ofLine?_trim (s : Text) : ofLine? (Text.trim s) = ofLine? s := by
  unfold ofLine?
  rw [Text.trim_trim]

theorem isComment_of_ofLine? {s : Text} {d : Directive} (h : ofLine? s = some d) :
    isComment (Text.trim s) = true := by
  by_contra hc
  rw [Bool.not_eq_true] at hc
  unfold ofLine? at h
  simp [hc] at h

/-- A comment stays one when it is trimmed. -/
theorem isComment_trim {s : Text} (h : isComment s = true) : isComment (Text.trim s) = true := by
  obtain ⟨r, rfl⟩ := List.isPrefixOf_iff_prefix.mp h
  have htrim : Text.trim ("//".toList ++ r) = "//".toList ++ Text.trimEnd r :=
    (Text.trim_cons (by decide) _).trans (congrArg ('/' :: ·) (Text.trimEnd_cons (by decide) r))
  rw [htrim]
  exact List.isPrefixOf_iff_prefix.mpr ⟨_, rfl⟩

end Directive

/-- The header is read from what is not blank. -/
theorem headerOf_eq (text : Text) :
    headerOf text = (contents (Text.splitLines text)).filterMap Directive.ofLine? := by
  have hcomment : ∀ l : Text, l ∈ documentLines text →
      ∀ d, Directive.ofLine? l = some d → Directive.isComment l = true ∧ l ≠ [] := by
    intro l hl d hd
    obtain ⟨s, -, rfl⟩ := List.mem_map.mp hl
    have hc := Directive.isComment_of_ofLine? hd
    rw [Text.trim_trim] at hc
    exact ⟨hc, fun e => by rw [e] at hc; cases hc⟩
  show ((documentLines text).filter _).filterMap _ = ((documentLines text).filter _).filterMap _
  rw [List.filterMap_filter, List.filterMap_filter]
  refine List.filterMap_congr fun l hl => ?_
  cases hd : Directive.ofLine? l with
  | none => simp
  | some d =>
    obtain ⟨hc, hne⟩ := hcomment l hl d hd
    simp [hc, hne]

/-- The body is read from what is not blank. -/
theorem bodyLines_eq (text : Text) :
    bodyLines text =
      (contents (Text.splitLines text)).filter fun l => !Directive.isComment l := by
  show (documentLines text).filter _ = ((documentLines text).filter _).filter _
  rw [List.filter_filter]
  refine List.filter_congr fun l _ => Bool.and_comm _ _

/-- **A document is its header and its body**: two that agree in both compile alike. -/
theorem compile_congr {text text' : Text} (hheader : headerOf text' = headerOf text)
    (hbody : bodyLines text' = bodyLines text) (dark : Bool) :
    Diagram.compile text' dark = Diagram.compile text dark := by
  unfold Diagram.compile
  rw [Outcome.documentOptions_congr hheader, hbody]

/-- A text compiles as it does when it is read in text mode. -/
theorem compile_universalNewlines (s : Text) (dark : Bool) :
    Diagram.compile (Text.universalNewlines s) dark = Diagram.compile s dark := by
  have hlines : documentLines (Text.universalNewlines s) = documentLines s :=
    congrArg (List.map Text.trim) (Text.splitLines_universalNewlines s)
  have hheader : headerOf (Text.universalNewlines s) = headerOf s :=
    congrArg Directive.ofLines hlines
  have hbody : bodyLines (Text.universalNewlines s) = bodyLines s :=
    congrArg (List.filter _) hlines
  exact compile_congr hheader hbody dark

/-! ## 4. Layouts -/

/-- A line that is a directive. -/
structure DirectiveLine (s : Text) : Prop where
  oneLine : OneLine s
  read : (Directive.ofLine? s).isSome = true

/-- A line of a body. -/
structure BodyLine (s : Text) : Prop where
  trimmed : Text.trim s = s
  ne_nil : s ≠ []
  oneLine : OneLine s
  not_comment : Directive.isComment s = false

/-- What one line holds: of the directives and of the body, a line of one of them or nothing. -/
inductive Holds : (ds bs : List Text) → Text → Prop where
  | blank : Holds [] [] []
  | remark {s : Text} (h : OneLine s) (hc : Directive.isComment s = true)
      (hd : Directive.ofLine? s = none) : Holds [] [] s
  | directive {s : Text} (h : DirectiveLine s) : Holds [s] [] s
  | body {s : Text} (h : BodyLine s) : Holds [] [s] s

/-- A text that lays out directives and a body, line by line. -/
inductive Layout : (ds bs : List Text) → Text → Prop where
  | empty : Layout [] [] []
  | last {ds bs : List Text} {before s after : Text} (h : Holds ds bs s) (hb : Padding before)
      (ha : Padding after) : Layout ds bs (before ++ s ++ after)
  | line {ds bs ds' bs' : List Text} {before s after e rest : Text} (h : Holds ds bs s)
      (hb : Padding before) (ha : Padding after) (he : LineEnd e) (hrest : Layout ds' bs' rest) :
      Layout (ds ++ ds') (bs ++ bs') (before ++ s ++ after ++ e ++ rest)

namespace Holds

variable {ds bs : List Text} {s : Text}

theorem oneLine (h : Holds ds bs s) : OneLine s := by
  cases h with
  | blank => exact fun _ hc => absurd hc List.not_mem_nil
  | remark h => exact h
  | directive h => exact h.oneLine
  | body h => exact h.oneLine

/-- What a line holds is what header and body read from it. -/
theorem reads (h : Holds ds bs s) :
    (contents [s]).filterMap Directive.ofLine? = ds.filterMap Directive.ofLine? ∧
      ((contents [s]).filter fun l => !Directive.isComment l) = bs := by
  have hsingle : ∀ {t : Text}, t ≠ [] → Text.trim s = t → contents [s] = [t] := by
    rintro t hne rfl
    rw [contents, List.map_singleton, List.filter_cons_of_pos (by simpa using hne)]
    rfl
  cases h with
  | blank => exact ⟨rfl, rfl⟩
  | remark _ hc hd =>
    have hc' := Directive.isComment_trim hc
    rw [hsingle (fun e => by rw [e] at hc'; cases hc') rfl]
    exact ⟨by simp [Directive.ofLine?_trim, hd], by simp [hc']⟩
  | directive h =>
    obtain ⟨d, hd⟩ := Option.isSome_iff_exists.mp h.read
    have hc' := Directive.isComment_of_ofLine? hd
    rw [hsingle (fun e => by rw [e] at hc'; cases hc') rfl]
    exact ⟨by simp [Directive.ofLine?_trim, hd], by simp [hc']⟩
  | body h =>
    rw [hsingle h.ne_nil h.trimmed]
    refine ⟨?_, by simp [h.not_comment]⟩
    cases hd : Directive.ofLine? s with
    | none => simp [hd]
    | some d =>
      have hc := Directive.isComment_of_ofLine? hd
      rw [h.trimmed, h.not_comment] at hc
      cases hc

/-- What a line holds is a directive or a line of a body. -/
theorem lines (h : Holds ds bs s) : (∀ t ∈ ds, DirectiveLine t) ∧ ∀ t ∈ bs, BodyLine t := by
  have hnil : ∀ {p : Text → Prop}, ∀ t ∈ ([] : List Text), p t :=
    fun _ ht => absurd ht List.not_mem_nil
  cases h with
  | blank => exact ⟨hnil, hnil⟩
  | remark => exact ⟨hnil, hnil⟩
  | directive h => exact ⟨List.forall_mem_singleton.mpr h, hnil⟩
  | body h => exact ⟨hnil, List.forall_mem_singleton.mpr h⟩

end Holds

namespace Layout

variable {ds bs : List Text} {text : Text}

/-- **A layout is read as the two lists that it lays out.** -/
theorem reads (h : Layout ds bs text) :
    headerOf text = ds.filterMap Directive.ofLine? ∧ bodyLines text = bs := by
  rw [headerOf_eq, bodyLines_eq]
  induction h with
  | empty => exact ⟨rfl, rfl⟩
  | last h hb ha =>
    rw [Text.contents_last (h.oneLine.padded hb ha), Text.contents_padded hb ha]
    exact h.reads
  | line h hb ha he _ ih =>
    rw [Text.contents_line (h.oneLine.padded hb ha) he, Text.contents_padded hb ha]
    simp only [List.filterMap_append, List.filter_append]
    rw [ih.1, ih.2, h.reads.1, h.reads.2]
    exact ⟨rfl, rfl⟩

/-- Two layouts of the same lists compile alike. -/
theorem compile_eq {text' : Text} (h : Layout ds bs text) (h' : Layout ds bs text') (dark : Bool) :
    Diagram.compile text' dark = Diagram.compile text dark :=
  compile_congr (h'.reads.1.trans h.reads.1.symm) (h'.reads.2.trans h.reads.2.symm) dark

/-- A line in front of some that are joined with line feeds. -/
theorem joinWith_cons {ds bs ds' bs' lines : List Text} {s : Text} (h : Holds ds bs s)
    (hrest : Layout ds' bs' (Text.joinWith ['\n'] lines))
    (hnil : lines = [] → ds' = [] ∧ bs' = []) :
    Layout (ds ++ ds') (bs ++ bs') (Text.joinWith ['\n'] (s :: lines)) := by
  have hpad : Padding [] := fun _ hc => absurd hc List.not_mem_nil
  cases lines with
  | nil =>
    obtain ⟨rfl, rfl⟩ := hnil rfl
    have hlast := Layout.last h hpad hpad
    rw [List.nil_append, List.append_nil] at hlast
    rw [List.append_nil, List.append_nil]
    exact hlast
  | cons l lines =>
    have hline := Layout.line h hpad hpad (.single (c := '\n') (by decide)) hrest
    rw [List.nil_append, List.append_nil] at hline
    exact hline

/-- The plain layout: the directives, then the body, with a line feed between each two lines. -/
theorem plain (hd : ∀ s ∈ ds, DirectiveLine s) (hb : ∀ s ∈ bs, BodyLine s) :
    Layout ds bs (Text.joinWith ['\n'] (ds ++ bs)) := by
  induction ds with
  | cons d ds ih =>
    obtain ⟨hd, hds⟩ := List.forall_mem_cons.mp hd
    exact joinWith_cons (.directive hd) (ih hds) List.append_eq_nil_iff.mp
  | nil =>
    induction bs with
    | nil => exact .empty
    | cons b bs ih =>
      obtain ⟨hb, hbs⟩ := List.forall_mem_cons.mp hb
      exact joinWith_cons (.body hb) (ih hbs) fun e => ⟨rfl, e⟩

/-- What is laid out are directives and lines of a body. -/
theorem lines (h : Layout ds bs text) :
    (∀ s ∈ ds, DirectiveLine s) ∧ ∀ s ∈ bs, BodyLine s := by
  induction h with
  | empty => exact ⟨fun _ hs => absurd hs List.not_mem_nil, fun _ hs => absurd hs List.not_mem_nil⟩
  | last h => exact h.lines
  | line h _ _ _ _ ih =>
    exact ⟨List.forall_mem_append.mpr ⟨h.lines.1, ih.1⟩,
      List.forall_mem_append.mpr ⟨h.lines.2, ih.2⟩⟩

end Layout

/-! ## 5. Every text is one -/

/-- One line holds something, with white space around it. -/
theorem exists_holds {l : Text} (hl : OneLine l) :
    ∃ ds bs before s after, l = before ++ s ++ after ∧ Holds ds bs s ∧ Padding before ∧
      Padding after := by
  obtain ⟨before, after, hsplit, hb, ha⟩ := Text.exists_trim l
  have hone := hl
  rw [hsplit] at hone
  obtain ⟨hone, hafter⟩ := List.forall_mem_append.mp hone
  obtain ⟨hbefore, hone⟩ := List.forall_mem_append.mp hone
  have hholds : ∃ ds bs, Holds ds bs (Text.trim l) := by
    by_cases hne : Text.trim l = []
    · rw [hne]
      exact ⟨[], [], .blank⟩
    by_cases hd : (Directive.ofLine? (Text.trim l)).isSome = true
    · exact ⟨_, _, .directive ⟨hone, hd⟩⟩
    cases hc : Directive.isComment (Text.trim l) with
    | true => exact ⟨_, _, .remark hone hc (Option.not_isSome_iff_eq_none.mp hd)⟩
    | false => exact ⟨_, _, .body ⟨Text.trim_trim l, hne, hone, hc⟩⟩
  obtain ⟨ds, bs, h⟩ := hholds
  exact ⟨ds, bs, before, _, after, hsplit, h, fun c hc => ⟨hb c hc, hbefore c hc⟩,
    fun c hc => ⟨ha c hc, hafter c hc⟩⟩

/-- **Every text is a layout** of some directives and some body. -/
theorem exists_layout (text : Text) : ∃ ds bs, Layout ds bs text := by
  induction hn : text.length using Nat.strong_induction_on generalizing text with
  | _ n ih =>
  let l := text.takeWhile fun c => !Text.isLineEnd c
  have hl : OneLine l := fun c hc => by simpa using List.mem_takeWhile_imp hc
  obtain ⟨ds, bs, before, s, after, hsplit, h, hb, ha⟩ := exists_holds hl
  have htext : l ++ (text.dropWhile fun c => !Text.isLineEnd c) = text :=
    List.takeWhile_append_dropWhile
  cases hrest : text.dropWhile fun c => !Text.isLineEnd c with
  | nil =>
    rw [hrest, List.append_nil] at htext
    rw [← htext, hsplit]
    exact ⟨ds, bs, .last h hb ha⟩
  | cons c rest =>
    have hc : Text.isLineEnd c = true := by
      have := List.head?_dropWhile_not (fun c => !Text.isLineEnd c) text
      rw [hrest] at this
      simpa using this
    rw [hrest] at htext
    have hlen : rest.length < n := by
      rw [← hn, ← htext, List.length_append, List.length_cons]
      omega
    obtain ⟨ds', bs', hlayout⟩ := ih rest.length hlen rest rfl
    rw [← htext, hsplit]
    have hline := Layout.line h hb ha (.single hc) hlayout
    rw [List.append_assoc] at hline
    exact ⟨_, _, hline⟩

/-! ## 6. Documents -/

/-- **Layout does not matter**: a document that lays out directives and a body in any way has just these
    in its header and its body, and it compiles to the same text, or fails alike, as the directives
    followed by the body with a line feed between each two lines. So does any document when it is
    read in text mode. -/
theorem compileText_layout {ds bs : List Text} {text : Text} (h : Layout ds bs text)
    (dark : Bool) :
    (headerOf text = ds.filterMap Directive.ofLine? ∧ bodyLines text = bs) ∧
      compileText text dark = compileText (Text.joinWith ['\n'] (ds ++ bs)) dark ∧
      ∀ s, compileText (Text.universalNewlines s) dark = compileText s dark := by
  refine ⟨h.reads, ?_, ?_⟩
  · have hplain := Layout.plain h.lines.1 h.lines.2
    exact congrArg (Except.map Diagram.render) (hplain.compile_eq h dark)
  · exact fun s => congrArg (Except.map Diagram.render) (compile_universalNewlines s dark)

/-- A type of chart behind the line that it governs, a separator that is white space but ends no line,
    a carriage return before a blank line, a comment, four kinds of line ends and a last line
    without one. -/
theorem compileText_layout_mixed :
    let text := "\x1f(start)->(a) \r\n// remark\x85// {type:activity}\r\n\t(a)->(end)".toList
    let ds := ["// {type:activity}".toList]
    let bs := ["(start)->(a)".toList, "(a)->(end)".toList]
    Layout ds bs text ∧
      (headerOf text = ds.filterMap Directive.ofLine? ∧ bodyLines text = bs) ∧
      compileText text false = compileText (Text.joinWith ['\n'] (ds ++ bs)) false ∧
      ∀ s, compileText (Text.universalNewlines s) false = compileText s false := by
  intro text ds bs
  have hnil : Padding [] := by decide
  have hlast : Layout [] ["(a)->(end)".toList] ("\t".toList ++ "(a)->(end)".toList ++ []) :=
    .last (.body ⟨by decide, by decide, by decide, by decide⟩) (by decide) hnil
  have htype : Layout _ _ ([] ++ "// {type:activity}".toList ++ [] ++ ['\r', '\n'] ++ _) :=
    .line (.directive ⟨by decide, by decide +kernel⟩) hnil hnil .pair hlast
  have hremark : Layout _ _ ([] ++ "// remark".toList ++ [] ++ ['\x85'] ++ _) :=
    .line (.remark (by decide) (by decide) (by decide)) hnil hnil (.single (by decide)) htype
  have hblank : Layout _ _ ([] ++ [] ++ [] ++ ['\n'] ++ _) :=
    .line .blank hnil hnil (.single (by decide)) hremark
  have h : Layout ds bs ("\x1f".toList ++ "(start)->(a)".toList ++ " ".toList ++ ['\r'] ++ _) :=
    .line (.body ⟨by decide, by decide, by decide, by decide⟩) (by decide) (by decide)
      (.single (by decide)) hblank
  exact ⟨h, compileText_layout h false⟩

end Yuml
