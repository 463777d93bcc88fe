import Mathlib
import Yuml.Command
import Yuml.Proofs.Encoding
import Yuml.Proofs.Layout
import Yuml.Proofs.Trees

/-!
# Rendering: all or nothing

Rendering reads a document, compiles it, has another program draw it and stores what that program has
written. It goes one of five ways (`Course`), which can be told from the world beforehand:

* no chart: the document cannot be read, does not compile or draws nothing (`Draws`);
* a chart, but a format that cannot be drawn: the program is not started;
* a chart, but no picture: the program is not there, does not end in time, or ends with another code
  than 0;
* a picture that cannot be stored where it belongs (`Files.Storable`);
* a picture that is stored.

So the program is started once at most, and no file is made or changed unless there is a picture; the
first three leave the files exactly as they were (`AllOrNothing`). A command line that asks for a
picture comes to the same, with the files as they are once the log has its file
(`render_allOrNothing`).
-/

namespace Yuml

/-! ## 1. Work in the world -/

namespace Work

variable {α : Type} {x : Files.Work α} {d : Deeds} {files : Files}

theorem run_onFiles_ok {a : α} (h : x.run d.files = .ok a files) :
    (onFiles x).run d = .ok a { d with files } := by
  simp only [EStateM.run, onFiles] at h ⊢
  rw [h]

theorem run_onFiles_error {f : Fault} (h : x.run d.files = .error f files) :
    (onFiles x).run d = .error f { d with files } := by
  simp only [EStateM.run, onFiles] at h ⊢
  rw [h]

end Work

/-! ## 2. Pictures -/

namespace PictureOrder

variable {o : PictureOrder} {outcome : ProgramOutcome} {bytes : List UInt8} {f : Fault}

theorem isSupported_iff : o.isSupported = true ↔ o.format ∈ pictureFormats :=
  List.contains_iff_mem

theorem calls_of_mem (h : o.format ∈ pictureFormats) : o.calls = [o.call] :=
  if_pos (isSupported_iff.mpr h)

theorem calls_of_not_mem (h : o.format ∉ pictureFormats) : o.calls = [] :=
  if_neg (mt isSupported_iff.mp h)

/-- **There is a picture exactly if the format can be drawn and the program ends with code 0**, and
    the picture is what the program has written. -/
theorem picture_eq_ok_iff :
    o.picture outcome = .ok bytes ↔
      o.format ∈ pictureFormats ∧ ∃ stderr, outcome = .exited 0 bytes stderr := by
  unfold picture
  rw [← isSupported_iff]
  cases o.isSupported with
  | false => simp
  | true =>
    rcases outcome with _ | _ | ⟨code, stdout, stderr⟩
    · simp
    · simp
    · by_cases hcode : code = 0 <;> simp [hcode]

/-- Drawing starts the programs of the order and changes no file, with or without a picture. -/
theorem run_draw (o : PictureOrder) (outcome : ProgramOutcome) (d : Deeds) :
    (o.draw outcome).run d =
      match o.picture outcome with
      | .ok bytes => .ok bytes { d with calls := d.calls ++ o.calls }
      | .error f => .error f { d with calls := d.calls ++ o.calls } := by
  unfold draw calls
  cases o.isSupported with
  | true => cases o.picture outcome <;> rfl
  | false =>
    rw [if_neg Bool.false_ne_true, if_neg Bool.false_ne_true, List.append_nil]
    cases o.picture outcome <;> rfl

theorem run_store_error (target : Path) (d : Deeds) (h : o.picture outcome = .error f) :
    (o.store outcome target).run d = .error f { d with calls := d.calls ++ o.calls } := by
  rw [store, EStateM.run_bind, run_draw, h]

/-- A picture is stored behind its drawing. -/
theorem run_store_ok (target : Path) (d : Deeds) (h : o.picture outcome = .ok bytes) :
    (o.store outcome target).run d =
      (Work.onFiles (Files.Work.store target target.text bytes)).run
        { d with calls := d.calls ++ o.calls } := by
  rw [store, EStateM.run_bind, run_draw, h]

end PictureOrder

namespace Command

/-! ## 3. What a document draws -/

/-- A document draws a chart: its file holds the bytes of a text, in UTF-8, that compiles to the
    chart, and the chart is not empty. -/
def Draws (fs : Files) (source : Text) (dark : Bool) (chart : Text) : Prop :=
  ∃ text, fs.read (Path.ofText source) (Path.ofText source).text =
      .ok (String.ofList text).toUTF8.data.toList ∧
    compileText text dark = .ok chart ∧ chart ≠ []

/-- The text of a document is read from the bytes of its file. -/
theorem sourceText_eq_ok_iff {fs : Files} {source text : Text} :
    sourceText fs source = .ok text ↔
      ∃ written, fs.read (Path.ofText source) (Path.ofText source).text =
        .ok (Utf8.encode written) ∧ text = Text.universalNewlines written := by
  unfold sourceText
  simp only [bind_eq_ok_iff]
  constructor
  · rintro ⟨bytes, hread, h⟩
    cases hdecode : Utf8.decode bytes with
    | error cause => rw [hdecode] at h; cases h
    | ok written =>
      rw [hdecode] at h
      rw [Utf8.decode_eq_ok_iff.mp hdecode] at hread
      exact ⟨written, hread, (Except.ok.inj h).symm⟩
  · rintro ⟨written, hread, rfl⟩
    refine ⟨Utf8.encode written, hread, ?_⟩
    rw [Utf8.decode_eq_ok_iff.mpr rfl]
    rfl

/-- **Which chart a document has**: that which its text compiles to, if it is not empty. -/
theorem sourceChart_eq_ok_iff {fs : Files} {source chart : Text} {dark : Bool} :
    sourceChart fs source dark = .ok chart ↔ Draws fs source dark chart := by
  unfold sourceChart sourceDiagram Draws
  simp only [bind_eq_ok_iff]
  constructor
  · rintro ⟨diagram, ⟨text, htext, hcompile⟩, hchart⟩
    obtain ⟨written, hread, rfl⟩ := sourceText_eq_ok_iff.mp htext
    rw [compile_universalNewlines] at hcompile
    split at hchart
    · cases hchart
    · next hempty =>
      obtain rfl := Except.ok.inj hchart
      refine ⟨written, Utf8.encode_eq_toUTF8 written ▸ hread, ?_, fun hnil => hempty ?_⟩
      · rw [compileText, hcompile]
        rfl
      · rw [hnil]
        rfl
  · rintro ⟨written, hread, hcompile, hne⟩
    obtain ⟨diagram, hdiagram, rfl⟩ := map_eq_ok_iff.mp hcompile
    rw [← Utf8.encode_eq_toUTF8] at hread
    refine ⟨diagram, ⟨_, sourceText_eq_ok_iff.mpr ⟨written, hread, rfl⟩, ?_⟩, ?_⟩
    · rw [compile_universalNewlines, hdiagram]
    · rw [if_neg fun hempty => hne (List.isEmpty_iff.mp hempty)]
      rfl

/-- A document draws one chart at most. -/
theorem Draws.unique {fs : Files} {source chart chart' : Text} {dark : Bool}
    (h : Draws fs source dark chart) (h' : Draws fs source dark chart') : chart' = chart :=
  Except.ok.inj ((sourceChart_eq_ok_iff.mpr h').symm.trans (sourceChart_eq_ok_iff.mpr h))

/-! ## 4. The ways of rendering -/

section Ways

variable (w : World) (s : Settings) (source output : Text) (format : Option Text) (dark : Bool)

/-- A document has a picture: it draws a chart, the format is one that can be drawn, and the program
    ends with code 0, having written the picture. -/
structure Pictured (chart : Text) (bytes : List UInt8) : Prop where
  draws : Draws w.files source (dark || s.darkMode) chart
  supported : (pictureOrder s chart (Path.ofText output) format).format ∈ pictureFormats
  ends : ∃ stderr, w.outcome = .exited 0 bytes stderr

/-- The ways in which rendering can go, and what it comes to. -/
inductive Course : Reply → Prop where
  | noChart (f : Fault) (hchart : ∀ chart, ¬ Draws w.files source (dark || s.darkMode) chart) :
    Course (.ofFault w.files [] f)
  | refused (chart : Text) (f : Fault)
    (hformat : (pictureOrder s chart (Path.ofText output) format).format ∉ pictureFormats) :
    Course (.ofFault w.files [] f)
  | noPicture (chart : Text) (f : Fault)
    (hchart : Draws w.files source (dark || s.darkMode) chart)
    (hoffered : ∀ bytes stderr, w.outcome ≠ .exited 0 bytes stderr) :
    Course (.ofFault w.files [(pictureOrder s chart (Path.ofText output) format).call] f)
  | unstored (chart : Text) (bytes : List UInt8) (f : Fault) (files : Files)
    (hpicture : Pictured w s source output format dark chart bytes)
    (hstorable : ¬ w.files.Storable (Path.ofText output))
    (hgrows : Files.GrowsTo (Path.ofText output).parent w.files files) :
    Course (.ofFault files [(pictureOrder s chart (Path.ofText output) format).call] f)
  | stored (chart : Text) (bytes : List UInt8) (files : Files)
    (hpicture : Pictured w s source output format dark chart bytes)
    (hstorable : w.files.Storable (Path.ofText output))
    (hholds : Files.Holds (Path.ofText output) bytes w.files files) :
    Course
      ⟨renderedItems (Path.ofText output) (pictureOrder s chart (Path.ofText output) format).format, 0,
        [(pictureOrder s chart (Path.ofText output) format).call], files⟩

variable {w s source format dark} in
theorem render_of_store_ok {chart : Text} {target : Path} {u : Unit} {d : Deeds}
    (hchart : sourceChart w.files source (dark || s.darkMode) = .ok chart)
    (hstore : ((pictureOrder s chart target format).store w.outcome target).run ⟨[], w.files⟩ =
      .ok u d) :
    render w s source target format dark =
      ⟨renderedItems target (pictureOrder s chart target format).format, 0, d.calls, d.files⟩ := by
  rw [render, Reply.ofWork, hchart]
  simp only [ofExcept, pure_bind, EStateM.run_bind, hstore]
  rfl

variable {w s source format dark} in
theorem render_of_store_error {chart : Text} {target : Path} {f : Fault} {d : Deeds}
    (hchart : sourceChart w.files source (dark || s.darkMode) = .ok chart)
    (hstore : ((pictureOrder s chart target format).store w.outcome target).run ⟨[], w.files⟩ =
      .error f d) :
    render w s source target format dark = .ofFault d.files d.calls f := by
  rw [render, Reply.ofWork, hchart]
  simp only [ofExcept, pure_bind, EStateM.run_bind, hstore]

/-- **Rendering goes one of these ways.** -/
theorem render_course :
    Course w s source output format dark (render w s source (Path.ofText output) format dark) := by
  cases hchart : sourceChart w.files source (dark || s.darkMode) with
  | error f =>
    rw [render, Reply.ofWork, hchart]
    refine Course.noChart f fun chart hdraws => ?_
    rw [sourceChart_eq_ok_iff.mpr hdraws] at hchart
    cases hchart
  | ok chart =>
    have hdraws := sourceChart_eq_ok_iff.mp hchart
    cases hpicture : (pictureOrder s chart (Path.ofText output) format).picture w.outcome with
    | error f =>
      rw [render_of_store_error hchart (PictureOrder.run_store_error _ _ hpicture), List.nil_append]
      -- There is no picture, so the format was refused or the program has not drawn it.
      by_cases hformat : (pictureOrder s chart (Path.ofText output) format).format ∈ pictureFormats
      · rw [PictureOrder.calls_of_mem hformat]
        refine Course.noPicture chart f hdraws fun bytes stderr houtcome => ?_
        rw [PictureOrder.picture_eq_ok_iff.mpr ⟨hformat, stderr, houtcome⟩] at hpicture
        cases hpicture
      · rw [PictureOrder.calls_of_not_mem hformat]
        exact Course.refused chart f hformat
    | ok bytes =>
      obtain ⟨hformat, hends⟩ := PictureOrder.picture_eq_ok_iff.mp hpicture
      have hpictured : Pictured w s source output format dark chart bytes := ⟨hdraws, hformat, hends⟩
      have hrun := PictureOrder.run_store_ok (Path.ofText output) ⟨[], w.files⟩ hpicture
      rw [List.nil_append, PictureOrder.calls_of_mem hformat] at hrun
      -- The tree beforehand tells whether the picture can be stored; the run follows it.
      cases hstore : (Files.Work.store (Path.ofText output) (Path.ofText output).text bytes).run
          w.files with
      | ok u files =>
        rw [render_of_store_ok hchart (hrun.trans (Work.run_onFiles_ok hstore))]
        exact Course.stored chart bytes files hpictured
          (Files.store_ofText_eq_ok_iff.mp ⟨files, hstore⟩) (Files.store_holds hstore)
      | error f files =>
        rw [render_of_store_error hchart (hrun.trans (Work.run_onFiles_error hstore))]
        refine Course.unstored chart bytes f files hpictured (fun hstorable => ?_)
          (Files.store_grows hstore)
        obtain ⟨files', hok⟩ := Files.store_ofText_eq_ok_iff.mpr hstorable
        rw [hstore] at hok
        cases hok

/-! ## 5. All or nothing -/

variable {w s source output format dark} in
/-- A document has one picture at most. -/
theorem Pictured.unique {chart chart' : Text} {bytes bytes' : List UInt8}
    (h : Pictured w s source output format dark chart bytes)
    (h' : Pictured w s source output format dark chart' bytes') : bytes' = bytes := by
  obtain ⟨stderr, hends⟩ := h.ends
  obtain ⟨stderr', hends'⟩ := h'.ends
  rw [hends] at hends'
  exact (ProgramOutcome.exited.inj hends').2.1.symm

/-- What rendering comes to. -/
structure AllOrNothing (o : Outcome) : Prop where
  /-- The program is started once at most, and only for a document that draws a chart; it reads the
      bytes of the chart. -/
  started : o.calls = [] ∨ ∃ chart call, Draws w.files source (dark || s.darkMode) chart ∧
    o.calls = [call] ∧ call.stdin = some (String.ofList chart).toUTF8.data.toList ∧
    call.argv = [s.renderer.binary,
      "-T".toList ++ (pictureOrder s chart (Path.ofText output) format).format]
  /-- It is started for every such document if the format is one that can be drawn. -/
  asked : ∀ chart, Draws w.files source (dark || s.darkMode) chart →
    (pictureOrder s chart (Path.ofText output) format).format ∈ pictureFormats →
      o.calls = [(pictureOrder s chart (Path.ofText output) format).call]
  /-- Without a picture, nothing is touched. -/
  nothing : (∀ chart bytes, ¬ Pictured w s source output format dark chart bytes) →
    o.code = 1 ∧ o.files = w.files
  /-- A picture that can be stored is what its file holds, and nothing else has changed. -/
  everything : ∀ chart bytes, Pictured w s source output format dark chart bytes →
    w.files.Storable (Path.ofText output) →
      o.files.read (Path.ofText output) (Path.ofText output).text = .ok bytes ∧
        Files.Holds (Path.ofText output) bytes w.files o.files
  /-- Where a picture cannot be stored, no file is touched. -/
  untouched : ∀ chart bytes, Pictured w s source output format dark chart bytes →
    ¬ w.files.Storable (Path.ofText output) →
      o.code = 1 ∧ Files.GrowsTo (Path.ofText output).parent w.files o.files

end Ways

theorem Reply.calls_outcome (columns : Nat) (r : Reply) : (r.outcome columns).calls = r.calls := by
  unfold Reply.outcome
  rfl

theorem Reply.files_outcome (columns : Nat) (r : Reply) : (r.outcome columns).files = r.files := by
  unfold Reply.outcome
  rfl

/-- A fault ends with code 1, whether what is said of it can be shown or not. -/
theorem Reply.code_outcome_ofFault (columns : Nat) (files : Files) (calls : List Call) (f : Fault) :
    ((Reply.ofFault files calls f).outcome columns).code = 1 := by
  unfold Reply.outcome Reply.ofFault
  generalize faultItems f = items
  exact ite_self 1

section AllOrNothing

variable {w : World} {s : Settings} {source output : Text} {format : Option Text} {dark : Bool}

theorem stdin_call (chart : Text) (target : Path) :
    (pictureOrder s chart target format).call.stdin =
      some (String.ofList chart).toUTF8.data.toList :=
  congrArg some (Utf8.encode_eq_toUTF8 chart)

/-- **Whichever way rendering goes, it is all or nothing.** -/
theorem Course.allOrNothing {r : Reply} (h : Course w s source output format dark r) (columns : Nat) :
    AllOrNothing w s source output format dark (r.outcome columns) := by
  cases h with
  | noChart f hchart =>
    exact {
      started := .inl (Reply.calls_outcome _ _)
      asked := fun chart hdraws => absurd hdraws (hchart chart)
      nothing := fun _ => ⟨Reply.code_outcome_ofFault _ _ _ _, Reply.files_outcome _ _⟩
      everything := fun chart _ hpicture => absurd hpicture.draws (hchart chart)
      untouched := fun chart _ hpicture => absurd hpicture.draws (hchart chart) }
  | refused chart f hformat =>
    exact {
      started := .inl (Reply.calls_outcome _ _)
      asked := fun _ _ h => absurd h hformat
      nothing := fun _ => ⟨Reply.code_outcome_ofFault _ _ _ _, Reply.files_outcome _ _⟩
      everything := fun _ _ hpicture => absurd hpicture.supported hformat
      untouched := fun _ _ hpicture => absurd hpicture.supported hformat }
  | noPicture chart f hchart hoffered =>
    have hnone {chart' : Text} {bytes : List UInt8}
        (hpicture : Pictured w s source output format dark chart' bytes) : False := by
      obtain ⟨stderr, hends⟩ := hpicture.ends
      exact hoffered bytes stderr hends
    exact {
      started := .inr ⟨chart, _, hchart, Reply.calls_outcome _ _, stdin_call _ _, rfl⟩
      asked := fun _ hdraws _ => hchart.unique hdraws ▸ Reply.calls_outcome _ _
      nothing := fun _ => ⟨Reply.code_outcome_ofFault _ _ _ _, Reply.files_outcome _ _⟩
      everything := fun _ _ hpicture => (hnone hpicture).elim
      untouched := fun _ _ hpicture => (hnone hpicture).elim }
  | unstored chart bytes f files hpicture hstorable hgrows =>
    exact {
      started := .inr ⟨chart, _, hpicture.draws, Reply.calls_outcome _ _, stdin_call _ _, rfl⟩
      asked := fun _ hdraws _ => hpicture.draws.unique hdraws ▸ Reply.calls_outcome _ _
      nothing := fun hnone => absurd hpicture (hnone chart bytes)
      everything := fun _ _ _ h => absurd h hstorable
      untouched := fun _ _ _ _ =>
        ⟨Reply.code_outcome_ofFault _ _ _ _, (Reply.files_outcome columns _).symm ▸ hgrows⟩ }
  | stored chart bytes files hpicture hstorable hholds =>
    refine {
      started := .inr ⟨chart, _, hpicture.draws, Reply.calls_outcome _ _, stdin_call _ _, rfl⟩
      asked := fun _ hdraws _ => hpicture.draws.unique hdraws ▸ Reply.calls_outcome _ _
      nothing := fun hnone => absurd hpicture (hnone chart bytes)
      everything := fun chart' bytes' hpicture' _ => ?_
      untouched := fun _ _ _ h => absurd hstorable h }
    obtain rfl := hpicture.unique hpicture'
    rw [Reply.files_outcome]
    exact ⟨hholds.read_text_eq hstorable, hholds⟩

/-! ## 6. Requests for a picture -/

section Asked

variable {fs : Files} {r : Request}

theorem eq_of_ofSource {request : Request} (h : ofSource fs source request = r) (hr : r ≠ .mistake) :
    request = r := by
  unfold ofSource at h
  split at h
  · exact h
  · exact absurd h.symm hr

theorem exists_of_withOutput {a : Arguments} {request : Option Path → Request}
    (h : withOutput fs a request = r) (hr : r ≠ .mistake) :
    ∃ output : Option Text, request (output.map Path.ofText) = r := by
  unfold withOutput at h
  split at h
  · exact ⟨none, h⟩
  · next path _ =>
    split at h
    · exact ⟨some path, h⟩
    · exact absurd h.symm hr

/-- The path of a picture that is asked for is read from a text. -/
theorem exists_output {name : Name} {args : List Text} {target : Path}
    (h : Request.read fs name args = .render source target format dark) :
    ∃ output, target = Path.ofText output := by
  unfold Request.read at h
  split at h
  · cases h
  unfold Request.ofArguments at h
  split at h
  · cases h
  split at h
  · obtain ⟨output, h⟩ := exists_of_withOutput h nofun
    cases eq_of_ofSource h nofun
  · obtain ⟨output, h⟩ := exists_of_withOutput h nofun
    cases output with
    | none => cases h
    | some output =>
      dsimp only [Option.map_some] at h
      split at h
      · exact ⟨output, (Request.render.inj (eq_of_ofSource h nofun)).2.1.symm⟩
      · cases h
  · cases eq_of_ofSource h nofun
  · cases h
  · cases h
  · cases h

end Asked

end AllOrNothing

/-- **Rendering is all or nothing**, as a request and as a command line that asks for it. -/
theorem render_allOrNothing (w : World) :
    (∀ s config source output format dark,
      AllOrNothing w s source output format dark
        (perform w s config (.render source (Path.ofText output) format dark))) ∧
    ∀ args config level name rest s files source target format dark,
      Opening.read w.files args = .command config level name rest →
      (prepare w config level).run w.files = .ok s files →
      Request.read files name rest = .render source target format dark →
        ∃ output, target = Path.ofText output ∧
          AllOrNothing { w with files } s source output format dark (run w args) := by
  have hperform (w : World) (s : Settings) (config : Option Text) (source output : Text)
      (format : Option Text) (dark : Bool) :
      AllOrNothing w s source output format dark
        (perform w s config (.render source (Path.ofText output) format dark)) :=
    (render_course w s source output format dark).allOrNothing w.columns
  refine ⟨hperform w, ?_⟩
  intro args config level name rest s files source target format dark hopening hprepare hrequest
  obtain ⟨output, rfl⟩ := exists_output hrequest
  refine ⟨output, rfl, ?_⟩
  rw [run, hopening]
  simp only [hprepare, hrequest]
  exact hperform { w with files } s config source output format dark

/-- A world with one file, of a document that draws a chart. -/
def activityWorld (outcome : ProgramOutcome) : World where
  files :=
    [(["d.yuml".toList], .file (Utf8.encode "// \x7btype:activity\x7d\r\n(start)->(é)".toList))]
  home := []
  homeText := []
  outcome := outcome
  onPath := true
  version := []
  missing := []
  columns := 80

/-- A command line that asks for a picture. -/
def pictureLine : List Text := ["render", "d.yuml", "-o", "out/d.png"].map String.toList

/-- What that command line comes to, with a program that draws the picture and with one that does not
    end in time. -/
theorem render_allOrNothing_picture :
    (run (activityWorld (.exited 0 [0x89, 0x50] [])) pictureLine).files.read
        (Path.ofText "out/d.png".toList) "out/d.png".toList = .ok [0x89, 0x50] ∧
      (run (activityWorld .timeout) pictureLine).code = 1 ∧
      (run (activityWorld .timeout) pictureLine).files = (activityWorld .timeout).files := by
  have hopening : Opening.read (activityWorld .timeout).files pictureLine =
      .command none none .render ["d.yuml".toList, "-o".toList, "out/d.png".toList] := by
    decide +kernel
  have hprepare (outcome : ProgramOutcome) :
      (prepare (activityWorld outcome) none none).run (activityWorld outcome).files =
        .ok .default (activityWorld outcome).files := rfl
  have hrequest : Request.read (activityWorld .timeout).files .render
      ["d.yuml".toList, "-o".toList, "out/d.png".toList] =
        .render "d.yuml".toList (Path.ofText "out/d.png".toList) none false := by
    decide +kernel
  -- The two worlds have the same files, so the line is read alike in both.
  obtain ⟨output, hout, hdrawn⟩ := (render_allOrNothing (activityWorld (.exited 0 [0x89, 0x50] []))).2
    _ _ _ _ _ _ _ _ _ _ _ hopening (hprepare _) hrequest
  obtain ⟨output', -, hlate⟩ := (render_allOrNothing (activityWorld .timeout)).2
    _ _ _ _ _ _ _ _ _ _ _ hopening (hprepare _) hrequest
  have hdraws : (sourceChart (activityWorld .timeout).files "d.yuml".toList false).isOk = true := by
    decide +kernel
  have hstorable : Files.Storable (activityWorld .timeout).files (Path.ofText "out/d.png".toList) :=
    Files.store_ofText_eq_ok_iff.mp ⟨_, (rfl :
      (Files.Work.store (Path.ofText "out/d.png".toList) (Path.ofText "out/d.png".toList).text
        [0x89, 0x50]).run (activityWorld .timeout).files = .ok () _)⟩
  refine ⟨?_, hlate.nothing fun chart bytes hpicture => ?_⟩
  · cases hchart : sourceChart (activityWorld .timeout).files "d.yuml".toList false with
    | error f => rw [hchart] at hdraws; cases hdraws
    | ok chart =>
      have hformat : (pictureOrder .default chart (Path.ofText "out/d.png".toList) none).format =
          "png".toList := rfl
      rw [hout] at hstorable hformat
      have hpicture : Pictured (activityWorld (.exited 0 [0x89, 0x50] [])) .default "d.yuml".toList
          output none false chart [0x89, 0x50] :=
        ⟨sourceChart_eq_ok_iff.mp hchart, hformat ▸ by decide, [], rfl⟩
      have hread := (hdrawn.everything _ _ hpicture hstorable).1
      rwa [← hout] at hread
  · obtain ⟨stderr, hends⟩ := hpicture.ends
    cases hends

end Command

end Yuml
