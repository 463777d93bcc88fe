import Yuml.Diagram
import Mathlib.Data.List.FinRange
import Mathlib.Logic.Function.Basic

/-!
# Repeating: a drawing that is written again and again

Writing an attribute list changes it: a record with a single field is a rectangle from then on. This file
follows the lists of a drawing through any row of writings, each of one list, of one statement, or of the
whole chart:

* a `Sheet` holds the lists as they are and as they have been. Each list has a name, and two statements
  may share a list. A writing changes the sheet while it goes on, list by list (`Sheet.write`);
* `Repeats` says that every writing of the row has the text that the lists at the start have, so that the
  same writing always has the same text, and that no list has changed but once, from a record with a
  single field to a rectangle;
* `writings_repeat` proves it for every sheet, and says what the texts are for the sheet of a diagram.

The proof rests on one invariant of the sheet (`Sheet.From`): a list is what it was, or what it is when it
has been settled. Both are written alike (`render_settled`).
-/

namespace Yuml

/-! ## 1. Settled lists -/

namespace Attributes

/-- Whether a list has become another one by giving up its shape: a record with a single field that is no
    port is a rectangle, and nothing else has changed. -/
structure Flattens (a b : Attributes) : Prop where
  record : a.shape = .record
  single : '|' ∉ a.labelText
  noPorts : isPortLabel a.labelText = false
  rectangle : b = { a with shape := .rectangle }

theorem settled_eq_or (a : Attributes) : a.settled = a ∨ a.Flattens a.settled := by
  by_cases h : a.isLoneRecord = true
  · have hsettled : a.settled = { a with shape := .rectangle } := if_pos h
    simp only [isLoneRecord, Bool.and_eq_true, beq_iff_eq, Bool.not_eq_true',
      List.contains_eq_mem, decide_eq_false_iff_not] at h
    obtain ⟨⟨hshape, hports⟩, hbar⟩ := h
    exact .inr ⟨hshape, hbar, hports, hsettled⟩
  · exact .inl (if_neg h)

/-- A rectangle is settled. -/
theorem settled_of_ne_record {a : Attributes} (h : a.shape ≠ .record) : a.settled = a := by
  have hlone : ¬ a.isLoneRecord = true := by simp [isLoneRecord, h]
  exact if_neg hlone

/-- What has been settled is settled. -/
@[simp] theorem settled_settled (a : Attributes) : a.settled.settled = a.settled := by
  rcases a.settled_eq_or with h | h
  · rw [h]
    exact h
  · have hshape : a.settled.shape = .rectangle := by rw [h.rectangle]
    exact settled_of_ne_record (by rw [hshape]; decide)

/-- **A list is written alike before and after it has been settled**: as the table of its fields if it
    keeps its shape, and as a rectangle if it does not, since this is what is written the first time. -/
@[simp] theorem render_settled (a : Attributes) : a.settled.render = a.render := by
  rcases a.settled_eq_or with h | h
  · rw [h]
  · have hsettled : a.render = a.settled.plain := by
      have hbar : a.labelText.contains '|' = false := by simpa using h.single
      rw [render, hbar, Bool.and_false]
      rfl
    have hshape : a.settled.shape = .rectangle := by rw [h.rectangle]
    rw [hsettled, render, hshape, settled_settled]
    rfl

end Attributes

/-! ## 2. Sheets -/

/-- A statement whose attribute list is kept elsewhere, under a name. -/
structure Line (ι : Type) where
  uid : Text
  list : ι
  target : Option Text
  sameRank : Bool

/-- The attribute lists of a drawing, each under its name: as they are, and as they were before each
    writing. -/
structure Sheet (ι : Type) where
  lists : ι → Attributes
  past : List (ι → Attributes)

/-- What is written of a drawing: one list, one statement, or the chart with some statements in it. A chart
    without a frame draws nothing. -/
inductive Writing (ι : Type) where
  | list (k : ι)
  | line (l : Line ι)
  | chart (frame : Option (Grammar × Direction × Bool)) (lines : List (Line ι))

namespace Line

variable {ι : Type}

/-- The statement with the list that has its name. -/
def statement (l : Line ι) (lists : ι → Attributes) : Statement :=
  ⟨l.uid, lists l.list, l.target, l.sameRank⟩

/-- The line of a statement around what is written of its list. -/
def around (l : Line ι) (attributes : Text) : Text :=
  match l.target with
  | none => "    ".toList ++ l.uid ++ ' ' :: attributes
  | some target =>
    let edge := l.uid ++ " -> ".toList ++ target ++ ' ' :: attributes
    if l.sameRank then "    \x7b rank=same; ".toList ++ edge ++ ";\x7d".toList
    else "    ".toList ++ edge

theorem around_render (l : Line ι) (lists : ι → Attributes) :
    l.around (lists l.list).render = (l.statement lists).render := rfl

end Line

/-- The chart around the lines of its statements. -/
def chartText (frame : Grammar × Direction × Bool) (lines : List Text) : Text :=
  Text.joinWith ['\n'] (headerLines frame.1 frame.2.1 frame.2.2 ++ lines ++ ["\x7d".toList]) ++ ['\n']

theorem chartText_render (frame : Grammar × Direction × Bool) (ss : List Statement) :
    chartText frame (ss.map Statement.render) = renderChart frame.1 frame.2.1 ss frame.2.2 := rfl

namespace Sheet

variable {ι : Type}

/-- A sheet of which nothing has been written. -/
def start (lists : ι → Attributes) : Sheet ι := ⟨lists, []⟩

/-- The lists at all times, up to now. -/
def history (s : Sheet ι) : List (ι → Attributes) := s.past ++ [s.lists]

variable [DecidableEq ι]

/-- Write a list; it is settled by that. -/
def writeList (k : ι) : StateM (Sheet ι) Text := fun s =>
  ((s.lists k).render, ⟨Function.update s.lists k (s.lists k).settled, s.history⟩)

/-- Write a statement: its list first. -/
def writeLine (l : Line ι) : StateM (Sheet ι) Text := l.around <$> writeList l.list

/-- Write anything. The statements of a chart are written in their order. -/
def write : Writing ι → StateM (Sheet ι) Text
  | .list k => writeList k
  | .line l => writeLine l
  | .chart none _ => pure []
  | .chart (some frame) lines => chartText frame <$> lines.mapM writeLine

end Sheet

/-- The text of a writing for lists that do not change. -/
def Writing.text {ι : Type} (lists : ι → Attributes) : Writing ι → Text
  | .list k => (lists k).render
  | .line l => (l.statement lists).render
  | .chart none _ => []
  | .chart (some frame) lines =>
    renderChart frame.1 frame.2.1 (lines.map fun l => l.statement lists) frame.2.2

/-! ## 3. Steps with one answer -/

/-- A row of steps: the first one, and the others on the state that it leaves. -/
theorem run_mapM_cons {σ α β : Type} (f : α → StateM σ β) (a : α) (l : List α) (s : σ) :
    ((a :: l).mapM f).run s =
      (((f a).run s).1 :: ((l.mapM f).run ((f a).run s).2).1,
        ((l.mapM f).run ((f a).run s).2).2) := by
  rw [List.mapM_cons]
  rfl

/-- Whether a step always has the same result while a property of the state holds, and keeps it. -/
def Answers {σ α : Type} (I : σ → Prop) (m : StateM σ α) (a : α) : Prop :=
  ∀ s, I s → (m.run s).1 = a ∧ I (m.run s).2

namespace Answers

variable {σ α β : Type} {I : σ → Prop}

theorem pure (a : α) : Answers I (Pure.pure a) a := fun _ hs => ⟨rfl, hs⟩

theorem map {m : StateM σ α} {a : α} (h : Answers I m a) (f : α → β) :
    Answers I (f <$> m) (f a) := by
  intro s hs
  obtain ⟨ha, hI⟩ := h s hs
  exact ⟨congrArg f ha, hI⟩

/-- **A row of such steps is one**: each of them finds the property that those before have kept. -/
theorem mapM {f : α → StateM σ β} {g : α → β} (h : ∀ a, Answers I (f a) (g a)) (l : List α) :
    Answers I (l.mapM f) (l.map g) := by
  induction l with
  | nil => exact pure []
  | cons a l ih =>
    intro s hs
    obtain ⟨hfirst, hs'⟩ := h a s hs
    obtain ⟨hrest, hs''⟩ := ih ((f a).run s).2 hs'
    rw [run_mapM_cons, hfirst, hrest]
    exact ⟨rfl, hs''⟩

end Answers

/-! ## 4. One change at most -/

/-- Whether a row is some `a` and then some `b`. -/
def ChangesOnce {α : Type} (a b : α) (l : List α) : Prop :=
  ∃ m n, l = List.replicate m a ++ List.replicate n b

theorem ChangesOnce.concat {α : Type} {a b : α} {l : List α} (h : ChangesOnce a b l) :
    ChangesOnce a b (l ++ [b]) := by
  obtain ⟨m, n, rfl⟩ := h
  refine ⟨m, n + 1, ?_⟩
  rw [List.replicate_succ', List.append_assoc]

theorem changesOnce_replicate {α : Type} (a b : α) (m : Nat) :
    ChangesOnce a b (List.replicate m a) := ⟨m, 0, (List.append_nil _).symm⟩

/-- What a list is and what it has been, by what it was at the start: it has not changed, or it has been
    settled. -/
inductive Steps (a : Attributes) : Attributes → List Attributes → Prop
  | kept (m : Nat) : Steps a a (List.replicate m a)
  | settled {past : List Attributes} (h : ChangesOnce a a.settled past) : Steps a a.settled past

namespace Steps

variable {a b : Attributes} {past : List Attributes}

theorem render_eq (h : Steps a b past) : b.render = a.render := by
  cases h with
  | kept => rfl
  | settled => exact a.render_settled

/-- What has been up to now has changed once at most. -/
theorem changesOnce (h : Steps a b past) : ChangesOnce a a.settled (past ++ [b]) := by
  cases h with
  | kept m =>
    rw [← List.replicate_succ']
    exact changesOnce_replicate a a.settled (m + 1)
  | settled h => exact h.concat

/-- Time goes on and the list is not written. -/
theorem wait (h : Steps a b past) : Steps a b (past ++ [b]) := by
  cases h with
  | kept m =>
    rw [← List.replicate_succ']
    exact .kept (m + 1)
  | settled h => exact .settled h.concat

/-- The list is written. -/
theorem write (h : Steps a b past) : Steps a b.settled (past ++ [b]) := by
  have hpast := h.changesOnce
  cases h with
  | kept => exact .settled hpast
  | settled =>
    rw [Attributes.settled_settled]
    exact .settled hpast

end Steps

/-! ## 5. Writing again -/

namespace Sheet

variable {ι : Type} {lists : ι → Attributes}

/-- Whether a sheet has come about by writing from some lists. -/
def From (lists : ι → Attributes) (s : Sheet ι) : Prop :=
  ∀ k, Steps (lists k) (s.lists k) (s.past.map fun old => old k)

theorem from_start (lists : ι → Attributes) : From lists (start lists) := fun _ => .kept 0

variable [DecidableEq ι]

theorem writeList_answers (k : ι) : Answers (From lists) (writeList k) (lists k).render := by
  intro s hs
  refine ⟨(hs k).render_eq, fun j => ?_⟩
  show Steps (lists j) (Function.update s.lists k (s.lists k).settled j)
    ((s.past ++ [s.lists]).map fun old => old j)
  rw [List.map_append, List.map_singleton]
  by_cases hj : j = k
  · subst hj
    rw [Function.update_self]
    exact (hs j).write
  · rw [Function.update_of_ne hj]
    exact (hs j).wait

theorem writeLine_answers (l : Line ι) :
    Answers (From lists) (writeLine l) (l.statement lists).render := by
  rw [← l.around_render]
  exact (writeList_answers l.list).map l.around

/-- Writing some statements settles their lists and no others. -/
theorem lists_writeLines (lines : List (Line ι)) (s : Sheet ι) (k : ι) :
    ((lines.mapM writeLine).run s).2.lists k =
      if k ∈ lines.map Line.list then (s.lists k).settled else s.lists k := by
  induction lines generalizing s with
  | nil => rfl
  | cons l lines ih =>
    have hfirst : ((writeLine l).run s).2.lists =
        Function.update s.lists l.list (s.lists l.list).settled := rfl
    rw [run_mapM_cons, ih, hfirst]
    by_cases hk : k = l.list
    · subst hk
      simp
    · simp [hk]

/-- **Every writing has the text of the lists at the start.** -/
theorem write_answers (w : Writing ι) : Answers (From lists) (write w) (w.text lists) := by
  cases w with
  | list k => exact writeList_answers k
  | line l => exact writeLine_answers l
  | chart frame lines =>
    cases frame with
    | none => exact .pure []
    | some frame =>
      have htext : (Writing.chart (some frame) lines).text lists =
          chartText frame (lines.map fun l => (l.statement lists).render) := by
        rw [Writing.text, ← chartText_render, List.map_map]
        rfl
      rw [htext]
      exact (Answers.mapM writeLine_answers lines).map (chartText frame)

end Sheet

/-- What a row of writings does, whatever they are and however often they come. -/
structure Repeats {ι : Type} [DecidableEq ι] (lists : ι → Attributes) (ws : List (Writing ι)) : Prop where
  /-- Every writing has the text of the lists at the start. -/
  texts : ((ws.mapM Sheet.write).run (Sheet.start lists)).1 = ws.map (Writing.text lists)
  /-- A list changes once at most, and then it gives up its shape and nothing else. -/
  changes : ∀ k, ∃ b, (b = lists k ∨ (lists k).Flattens b) ∧
    ChangesOnce (lists k) b
      (((ws.mapM Sheet.write).run (Sheet.start lists)).2.history.map fun old => old k)

theorem repeats {ι : Type} [DecidableEq ι] (lists : ι → Attributes) (ws : List (Writing ι)) :
    Repeats lists ws := by
  obtain ⟨htexts, hfrom⟩ :=
    Answers.mapM Sheet.write_answers ws (Sheet.start lists) (Sheet.from_start lists)
  refine ⟨htexts, fun k => ⟨(lists k).settled, (lists k).settled_eq_or, ?_⟩⟩
  rw [Sheet.history, List.map_append, List.map_singleton]
  exact (hfrom k).changesOnce

/-! ## 6. Diagrams -/

namespace Diagram

variable (d : Diagram)

/-- The lists of a diagram: every statement has one of its own. -/
def lists (k : Fin d.statements.length) : Attributes := d.statements[k].attributes

/-- A statement of a diagram, with the name of its list. -/
def line (k : Fin d.statements.length) : Line (Fin d.statements.length) :=
  ⟨d.statements[k].uid, k, d.statements[k].target, d.statements[k].sameRank⟩

/-- The chart of a diagram. -/
def whole : Writing (Fin d.statements.length) :=
  .chart (d.chart.map fun c => (c.grammar, d.options.direction, d.options.dark))
    ((List.finRange d.statements.length).map d.line)

theorem text_line (k : Fin d.statements.length) :
    (Writing.line (d.line k)).text d.lists = d.statements[k].render := rfl

theorem map_statement_line :
    ((List.finRange d.statements.length).map d.line).map (fun l => l.statement d.lists) =
      d.statements := by
  rw [List.map_map]
  exact List.map_getElem_finRange d.statements

theorem text_whole : d.whole.text d.lists = d.render := by
  have hall := d.map_statement_line
  unfold whole render
  cases hc : d.chart with
  | none => rfl
  | some c =>
    have hstatements : d.statements = c.statements := by rw [statements, hc]; rfl
    show renderChart c.grammar d.options.direction
      (((List.finRange d.statements.length).map d.line).map fun l => l.statement d.lists)
      d.options.dark = renderChart c.grammar d.options.direction c.statements d.options.dark
    rw [hall, hstatements]

/-- The lists as writing the chart leaves them. -/
def listsBehind : Fin d.statements.length → Attributes :=
  ((Sheet.write d.whole).run (Sheet.start d.lists)).2.lists

theorem listsBehind_eq (k : Fin d.statements.length) : d.listsBehind k = (d.lists k).settled := by
  unfold listsBehind whole
  cases hc : d.chart with
  | none =>
    have hnone : d.statements = [] := by rw [statements, hc]; rfl
    exact absurd k.isLt (by simp [hnone])
  | some c =>
    have hlist : ((List.finRange d.statements.length).map d.line).map Line.list =
        List.finRange d.statements.length := by
      rw [List.map_map]
      exact List.map_id _
    have hlists := Sheet.lists_writeLines ((List.finRange d.statements.length).map d.line)
      (Sheet.start d.lists) k
    rw [hlist, if_pos (List.mem_finRange k)] at hlists
    exact hlists

/-- **A diagram that has been rendered** has the statements that writing its chart leaves. -/
theorem statements_settled :
    d.settled.statements =
      (List.finRange d.statements.length).map fun k => (d.line k).statement d.listsBehind := by
  have hmap : d.settled.statements = d.statements.map Statement.settled := by
    unfold settled statements
    cases d.chart <;> rfl
  have hline (k : Fin d.statements.length) :
      (d.line k).statement d.listsBehind = d.statements[k].settled := by
    have hlist : (d.line k).statement d.listsBehind =
      ⟨d.statements[k].uid, d.listsBehind k, d.statements[k].target, d.statements[k].sameRank⟩ := rfl
    rw [hlist, d.listsBehind_eq]
    rfl
  rw [hmap, List.map_congr_left fun k _ => hline k]
  conv_lhs => rw [← List.map_getElem_finRange d.statements, List.map_map]
  rfl

end Diagram

/-- **Writing is repeatable although it changes what is written.** Whatever is written of some lists, in
    whatever order and however often, every writing has the same text each time, and a list changes once
    at most, from a record with a single field to a rectangle. Of a diagram, the chart always has the text
    of the diagram and a statement its own, and what is left of it is the settled diagram. -/
theorem writings_repeat :
    (∀ (ι : Type) [DecidableEq ι] (lists : ι → Attributes) (ws : List (Writing ι)), Repeats lists ws) ∧
    ∀ d : Diagram, d.whole.text d.lists = d.render ∧
      (∀ k, (Writing.line (d.line k)).text d.lists = d.statements[k].render) ∧
      d.settled.statements =
        (List.finRange d.statements.length).map fun k => (d.line k).statement d.listsBehind :=
  ⟨fun _ _ lists ws => repeats lists ws,
    fun d => ⟨d.text_whole, d.text_line, d.statements_settled⟩⟩

/-- A record that two statements share is flattened by the first of them, and the second is written as it
    would have been before. -/
example :
    let shared : Attributes := { shape := .record, label := some "x".toList }
    let first : Line Unit := ⟨"A1".toList, (), none, false⟩
    let second : Line Unit := ⟨"A2".toList, (), none, false⟩
    let run := ([.line first, .line second, .line first].mapM Sheet.write).run (Sheet.start fun _ => shared)
    run.2.history.map (fun old => (old ()).shape) = [.record, .rectangle, .rectangle, .rectangle] ∧
      run.1[1]? = some (second.statement fun _ => shared).render ∧ run.1[2]? = run.1[0]? := by
  decide

end Yuml
