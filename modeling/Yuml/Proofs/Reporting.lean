import Mathlib
import Yuml.Command
import Yuml.Proofs.Hints
import Yuml.Proofs.Readable

/-!
# Reporting: what the commands show of a bad expression

A command that cannot compile its document shows the message of the fault and a line with the hint,
and ends with code 1. The message holds a token of the document, so this file also says that no
token breaks what is shown:

* `isSome_plain?_message`: the line with the message can be read, whatever the token is;
* `plain?_hints` and `shown?_hint`: the line with the hint can be read, and where it has room it is
  shown as it is;
* `hint_unless_imitated`: which hint a bad expression gets, and that every command shows it.
-/

namespace Yuml.Command

/-! ## 1. The line with the message -/

/-- The markup of a message. -/
def messageMarkup (message : Text) : Text :=
  "[red]✗ ".toList ++ Terminal.escape message ++ "[/red]".toList

/-- The markup of a hint. -/
def hintMarkup (hint : Text) : Text :=
  "[dim]Suggestion: ".toList ++ Terminal.escape hint ++ "[/dim]".toList

/-- **A message that does not end in a backslash can be read**, whatever it holds. -/
theorem isSome_plain?_message {message : Text} (hlast : message.getLast? ≠ some '\\') :
    (Terminal.plain? (messageMarkup message)).isSome = true := by
  have hsplit : messageMarkup message = Terminal.tagText 0 "red".toList ++
      '✗' :: ' ' :: (Terminal.escapeTags 0 message ++ "[/red]".toList) :=
    calc messageMarkup message
      _ = "[red]✗ ".toList ++ (Terminal.escape message ++ "[/red]".toList) := List.append_assoc _ _ _
      _ = "[red]✗ ".toList ++ (Terminal.escapeTags 0 message ++ "[/red]".toList) :=
        congrArg (fun s => "[red]✗ ".toList ++ (s ++ "[/red]".toList)) (Terminal.escape_eq hlast)
      _ = _ := rfl
  have hinside : Terminal.IsInside "red".toList := ⟨by decide, by simp⟩
  have hpieces : Terminal.piecesOfTag 0 "red".toList = [.tag ⟨"red".toList, none⟩] := rfl
  have hopened : Terminal.follow? [] ⟨"red".toList, none⟩ = some [⟨"red".toList, none⟩] := by
    decide +kernel
  have hclosed : (Terminal.plainOf? [⟨"red".toList, none⟩]
      (Terminal.piecesFrom 0 "[/red]".toList)).isSome = true := by decide +kernel
  have hcross := Terminal.tagAt?_eq_none (c := '✗') (by decide) (by decide)
  have hspace := Terminal.tagAt?_eq_none (c := ' ') (by decide) (by decide)
  have hinner := Terminal.isSome_plainOf?_escapeTags (t := "[/red]".toList) hlast rfl
  rw [Terminal.plain?, hsplit, Terminal.piecesFrom_tagText hinside, hpieces,
    List.singleton_append, Terminal.plainOf?, hopened, Option.bind_some,
    Terminal.piecesFrom_plain (hcross _), Terminal.isSome_plainOf?_consToText,
    Terminal.piecesFrom_plain (hspace _), Terminal.isSome_plainOf?_consToText, hinner]
  exact hclosed

theorem getLast?_message (token reason : Text) :
    (Fault.expression token reason).message.getLast? ≠ some '\\' := by
  have hlast : (Fault.expression token reason).message.getLast? = some (Text.quoteFor token) := by
    have hmessage : (Fault.expression token reason).message = reason ++ ": ".toList ++
        (Text.quoteFor token :: token.flatMap (Text.quoteChar (Text.quoteFor token))) ++
        [Text.quoteFor token] := List.append_assoc _ (_ :: _) _ |>.symm
    rw [hmessage, List.getLast?_concat]
  rw [hlast]
  intro h
  have hmem := quoteFor_mem token
  rw [Option.some.inj h] at hmem
  revert hmem
  decide

/-! ## 2. The line with the hint -/

/-- The hints are lines of plain characters without markup. -/
theorem plain?_hints : ∀ h ∈ hints,
    Terminal.plain? (hintMarkup h.2) = some ("Suggestion: ".toList ++ h.2) ∧
      (h.2.all fun c => decide (Terminal.IsPlain c)) = true := by
  decide +kernel

theorem expressionHint_mem (token : Text) : ∃ h ∈ hints, expressionHint token = h.2 := by
  have hbrackets : ∃ h ∈ hints, checkBrackets = h.2 := by
    rw [hints_eq]
    exact ⟨_, List.mem_append_right _ List.mem_cons_self, rfl⟩
  unfold expressionHint
  split
  · exact hbrackets
  · cases hfind : headerHints.find? fun h => Text.occursIn h.1 (Text.toLower token) with
    | none => exact hbrackets
    | some h => exact ⟨h, List.mem_of_mem_take (List.mem_of_find?_eq_some hfind), rfl⟩

/-- **The line with the hint can be read**, and it is shown as it is where it has room. -/
theorem shown?_hint (token : Text) (columns : Nat) :
    ∃ line, Terminal.shown? columns (hintMarkup (expressionHint token)) = some line ∧
      (12 + (expressionHint token).length ≤ columns →
        line = "Suggestion: ".toList ++ expressionHint token ++ ['\n']) := by
  obtain ⟨h, hh, heq⟩ := expressionHint_mem token
  obtain ⟨hmarkup, hplain⟩ := plain?_hints h hh
  rw [← heq] at hmarkup hplain
  have hshown : (Terminal.shown? columns (hintMarkup (expressionHint token))).isSome = true := by
    rw [Terminal.shown?, hmarkup]
    rfl
  obtain ⟨line, hline⟩ := Option.isSome_iff_exists.mp hshown
  refine ⟨line, hline, fun hroom => ?_⟩
  have hfront : ∀ c ∈ "Suggestion: ".toList, Terminal.IsPlain c :=
    Text.forall_of_all (by decide)
  have hall : ∀ c ∈ "Suggestion: ".toList ++ expressionHint token, Terminal.IsPlain c :=
    List.forall_mem_append.mpr ⟨hfront, Text.forall_of_all hplain⟩
  have hlength : ("Suggestion: ".toList ++ expressionHint token).length ≤ columns := by
    rw [List.length_append]
    exact hroom
  exact Option.some.inj (hline.symm.trans (Terminal.shown?_of_fits hall hmarkup hlength))

/-! ## 3. Requests -/

/-- The document that a request compiles, and whether in dark colours. -/
def Request.document? (s : Settings) : Request → Option (Text × Bool)
  | .compile source _ dark | .render source _ _ dark => some (source, dark || s.darkMode)
  | .check source => some (source, s.darkMode)
  | _ => none

/-- **A request whose document does not compile says so**, and does nothing else. -/
theorem perform_of_error {w : World} {s : Settings} {config : Option Text} {request : Request}
    {source : Text} {dark : Bool} {f : Fault} (hdocument : request.document? s = some (source, dark))
    (hfail : sourceDiagram w.files source dark = .error f) :
    perform w s config request = (Reply.ofFault w.files [] f).outcome w.columns := by
  cases request with
  | compile source' output dark' =>
    obtain ⟨rfl, rfl⟩ := Prod.mk.inj (Option.some.inj hdocument)
    rw [perform, compile, Reply.ofWork, hfail]
    rfl
  | render source' output format dark' =>
    obtain ⟨rfl, rfl⟩ := Prod.mk.inj (Option.some.inj hdocument)
    have hchart : sourceChart w.files source' (dark' || s.darkMode) = .error f := by
      rw [sourceChart, hfail]
      rfl
    rw [perform, render, Reply.ofWork, hchart]
    rfl
  | check source' =>
    obtain ⟨rfl, rfl⟩ := Prod.mk.inj (Option.some.inj hdocument)
    rw [perform, check, hfail]
  | _ => cases hdocument

/-- **What is shown of a bad expression**: the message and then the hint, as errors. -/
theorem outcome_expression (files : Files) (columns : Nat) {token reason : Text}
    (hreason : reason ∈ reasons) :
    ∃ front line,
      (Reply.ofFault files [] (.expression token reason)).outcome columns =
        ⟨1, [], front ++ line, [], files⟩ ∧
      Terminal.shown? columns (messageMarkup (Fault.expression token reason).message) =
        some front ∧
      Terminal.shown? columns (hintMarkup (expressionHint token)) = some line ∧
      (12 + (expressionHint token).length ≤ columns →
        line = "Suggestion: ".toList ++ expressionHint token ++ ['\n']) := by
  have hmessage := isSome_plain?_message (getLast?_message token reason)
  obtain ⟨shown, hshown⟩ := Option.isSome_iff_exists.mp hmessage
  obtain ⟨front, hfront⟩ : ∃ front, Terminal.shown? columns
      (messageMarkup (Fault.expression token reason).message) = some front := by
    rw [Terminal.shown?, hshown]
    exact ⟨_, rfl⟩
  obtain ⟨line, hline, hroom⟩ := shown?_hint token columns
  refine ⟨front, line, ?_, hfront, hline, hroom⟩
  have hitems : faultItems (.expression token reason) =
      [.failure (messageMarkup (Fault.expression token reason).message),
        .failure (hintMarkup (expressionHint token))] := by
    rw [faultItems, hint_expression hreason]
    rfl
  rw [Reply.ofFault, Reply.outcome, hitems]
  simp only [showItems, Item.shown?, hfront, hline, Option.map_some, List.append_nil,
    ite_self]

/-- **A bad expression gets the hint about brackets unless its token imitates a fault of the header.**
    The hint is that of the first pattern of the header that the token holds, in any case of letters,
    where the token holds no double quote. Every command that compiles a document shows this hint for
    it behind the message, writes nothing else and ends with code 1. -/
theorem hint_unless_imitated (token reason : Text) :
    (reason ∈ reasons →
      (Fault.expression token reason).category = .expression ∧
      (Fault.expression token reason).hint = some (expressionHint token) ∧
      ((Fault.expression token reason).hint = some checkBrackets ↔ ¬ Imitates token)) ∧
    ∀ (w : World) (s : Settings) (config : Option Text) (request : Request)
      (source text : Text) (dark : Bool),
      request.document? s = some (source, dark) → sourceText w.files source = .ok text →
      Diagram.compile text dark = .error (.expression token reason) →
        reason ∈ reasons ∧ ∃ front line,
          perform w s config request = ⟨1, [], front ++ line, [], w.files⟩ ∧
          Terminal.shown? w.columns (messageMarkup (Fault.expression token reason).message) =
            some front ∧
          Terminal.shown? w.columns (hintMarkup (expressionHint token)) = some line ∧
          (12 + (expressionHint token).length ≤ w.columns →
            line = "Suggestion: ".toList ++ expressionHint token ++ ['\n']) := by
  refine ⟨fun hreason => ⟨rfl, hint_expression hreason, ?_⟩, ?_⟩
  · rw [hint_expression hreason, Option.some_inj, expressionHint_eq_checkBrackets_iff]
  · intro w s config request source text dark hdocument htext hcompile
    have hreason := reason_mem_of_compile hcompile
    have hfail : sourceDiagram w.files source dark = .error (.expression token reason) := by
      rw [sourceDiagram, htext]
      exact hcompile
    rw [perform_of_error hdocument hfail]
    exact ⟨hreason, outcome_expression w.files w.columns hreason⟩

/-- A world with one file, of a document that ends in an open bracket. -/
def openBracketWorld (token : Text) : World where
  files := [(["d.yuml".toList], .file (Utf8.encode ("// \x7btype:activity\x7d\n".toList ++ token)))]
  home := []
  homeText := []
  outcome := .missing
  onPath := false
  version := []
  missing := []
  columns := 80

/-- A bad expression that imitates nothing, and one that does, in a document that is checked. -/
theorem hint_unless_imitated_open :
    (Fault.expression "(start".toList invalidExpression).hint = some checkBrackets ∧
    ∃ front, (perform (openBracketWorld "(invalid value for 'generate'".toList) .default none
      (.check "d.yuml".toList)).stderr = front ++ "Suggestion: Use true or false\n".toList := by
  obtain ⟨htoken, -⟩ := hint_unless_imitated "(start".toList invalidExpression
  obtain ⟨-, hrequest⟩ :=
    hint_unless_imitated "(invalid value for 'generate'".toList invalidExpression
  have hquiet : ¬ Imitates "(start".toList :=
    expressionHint_eq_checkBrackets_iff.mp (by decide +kernel)
  have hbrackets := (htoken (by decide)).2.2.mpr hquiet
  have htext : sourceText (openBracketWorld "(invalid value for 'generate'".toList).files
      "d.yuml".toList = .ok "// \x7btype:activity\x7d\n(invalid value for 'generate'".toList := by
    decide +kernel
  have hcompile : Diagram.compile
      "// \x7btype:activity\x7d\n(invalid value for 'generate'".toList false =
      .error (.expression "(invalid value for 'generate'".toList invalidExpression) := by
    decide +kernel
  obtain ⟨-, front, line, hperform, -, -, hroom⟩ := hrequest
    (openBracketWorld "(invalid value for 'generate'".toList) .default none
    (.check "d.yuml".toList) _ _ _ rfl htext hcompile
  have hhint : expressionHint "(invalid value for 'generate'".toList = "Use true or false".toList := by
    decide +kernel
  rw [hhint] at hroom
  refine ⟨hbrackets, front, ?_⟩
  rw [hperform, hroom (by decide)]
  rfl

/-- **A token can change the hint**: this one asks for a header line that is there. -/
theorem hint_of_imitation :
    compileText "// \x7btype:activity\x7d\n(missing mandatory 'type'".toList false =
        .error (.expression "(missing mandatory 'type'".toList invalidExpression) ∧
      ¬ ∀ token, ∀ reason ∈ reasons, (Fault.expression token reason).hint = some checkBrackets := by
  refine ⟨by decide +kernel, fun hall => ?_⟩
  have hbrackets := hall "(missing mandatory 'type'".toList invalidExpression (by decide)
  revert hbrackets
  decide +kernel

end Yuml.Command
