import Yuml.Color
import Yuml.Command.Request
import Yuml.Health
import Yuml.Picture
import Yuml.Terminal.Layout

/-!
# Commands

Running a command line in a world gives its OUTCOME: an exit code, what is written on the terminal
as output and as errors, which programs were started, and the files afterwards.

* A mistake in the command line ends with code 2, any other failure with code 1.
* The settings are loaded and the file of the log is made before the arguments of the command are
  read.
* A document is read, compiled and, if asked for, drawn before anything is written; so a failure on
  the way to that leaves the files as they were. A failure to write may leave new directories.
-/

namespace Yuml.Command

/-! ## 1. Replies and outcomes -/

/-- What a command shows. -/
inductive Item where
  /-- Text as it is. -/
  | raw (s : Text)
  /-- Marked up text. -/
  | output (markup : Text)
  /-- Marked up text about a failure. -/
  | failure (markup : Text)
  /-- A table with a title. -/
  | table (title : Text) (rows : List (List Text))
  deriving DecidableEq, Repr

/-- What a command does: what it shows, its exit code, the programs it starts, and the files
    afterwards. -/
structure Reply where
  items : List Item
  code : Nat
  calls : List Call
  files : Files
  deriving DecidableEq, Repr

/-- What running a command line comes to. -/
structure Outcome where
  code : Nat
  stdout : Text
  stderr : Text
  calls : List Call
  files : Files
  deriving DecidableEq, Repr

/-- What an item adds to the output and to the errors; nothing if its markup is broken. -/
def Item.shown? (columns : Nat) : Item → Option (Text × Text)
  | .raw s => some (s, [])
  | .output markup => (Terminal.shown? columns markup).map fun s => (s, [])
  | .failure markup => (Terminal.shown? columns markup).map fun s => ([], s)
  | .table title rows => (Terminal.table? title rows).map fun s => (s, [])

/-- Show items one after the other, up to the first one whose markup is broken: output, errors, and
    whether all were shown. -/
def showItems (columns : Nat) : List Item → Text × Text × Bool
  | [] => ([], [], true)
  | item :: more =>
    match item.shown? columns with
    | none => ([], [], false)
    | some (out, err) =>
      let (moreOut, moreErr, all) := showItems columns more
      (out ++ moreOut, err ++ moreErr, all)

/-- The outcome of a reply on a terminal. -/
def Reply.outcome (columns : Nat) (r : Reply) : Outcome :=
  let (out, err, all) := showItems columns r.items
  ⟨if all then r.code else 1, out, err, r.calls, r.files⟩

/-- What is shown of the version. -/
def versionText : Text := "yumldot, version 0.1.0\n".toList

/-- What is shown as help. -/
def helpText : Text :=
  ("Usage: yumldot [--config FILE] [--log-level LEVEL] COMMAND [ARGS]\n\n" ++
   "  compile SOURCE [-o FILE] [--dark]\n" ++
   "  render SOURCE -o FILE [-f FORMAT] [--dark]\n" ++
   "  check SOURCE\n" ++
   "  luma COLOR\n" ++
   "  doctor [-v]\n").toList

/-- The outcome of a mistake in the command line. -/
def mistake (files : Files) : Outcome := ⟨2, [], helpText, [], files⟩

/-- The outcome of a fault that nothing is said about. -/
def silentFailure (files : Files) : Outcome := ⟨1, [], [], [], files⟩

/-! ## 2. Parts of replies -/

/-- What is shown of a fault: its message and the hint. -/
def faultItems (f : Fault) : List Item :=
  .failure ("[red]✗ ".toList ++ Terminal.escape f.message ++ "[/red]".toList) ::
    match f.hint with
    | none => []
    | some hint =>
      [.failure ("[dim]Suggestion: ".toList ++ Terminal.escape hint ++ "[/dim]".toList)]

/-- The reply to a fault, with the programs that were started before it arose. -/
def Reply.ofFault (files : Files) (calls : List Call) (f : Fault) : Reply :=
  ⟨faultItems f, 1, calls, files⟩

/-- The reply to some work, which says what is shown if it succeeds. -/
def Reply.ofWork (files : Files) (x : Work (List Item)) : Reply :=
  match x.run ⟨[], files⟩ with
  | .ok items d => ⟨items, 0, d.calls, d.files⟩
  | .error f d => .ofFault d.files d.calls f

/-- The text of a document in a file. -/
def sourceText (fs : Files) (source : Text) : Except Fault Text := do
  let p := Path.ofText source
  match Utf8.decode (← fs.read p p.text) with
  | .ok text => return Text.universalNewlines text
  | .error cause => throw (.undecodable cause)

/-- The diagram of a document in a file. -/
def sourceDiagram (fs : Files) (source : Text) (dark : Bool) : Except Fault Diagram := do
  Diagram.compile (← sourceText fs source) dark

/-- The mark of success. -/
def tick : Text := "[green]✓[/green]".toList

/-- The mark of failure. -/
def cross : Text := "[red]✗[/red]".toList

/-! ## 3. Compiling and rendering -/

/-- Compile a document, to a file or to the terminal. -/
def compile (w : World) (s : Settings) (source : Text) (output : Option Path) (dark : Bool) :
    Reply :=
  .ofWork w.files do
    let diagram ← ofExcept (sourceDiagram w.files source (dark || s.darkMode))
    match output with
    | none => return [.raw diagram.render]
    | some target =>
      Work.onFiles (Files.Work.store target target.text (Utf8.encode diagram.render))
      return [.output (tick ++ " Wrote ".toList ++ target.text)]

/-- The fault of a document that draws nothing. -/
def nothingToRender (source : Text) : Fault :=
  .document [.text ("Nothing to render in ".toList ++ (Path.ofText source).text)]

/-- The chart of a document that draws something. -/
def sourceChart (fs : Files) (source : Text) (dark : Bool) : Except Fault Text := do
  let chart := (← sourceDiagram fs source dark).render
  if chart.isEmpty then throw (nothingToRender source) else return chart

/-- The order for the picture of a chart: a format that is not given follows from the path, or else
    from the settings. -/
def pictureOrder (s : Settings) (chart : Text) (target : Path) (format : Option Text) :
    PictureOrder :=
  .toPath chart (some (chosenFormat format target s.renderer.format)) target s.renderer.binary
    s.renderer.timeout

/-- What is shown of a picture that has been drawn. -/
def renderedItems (target : Path) (format : Text) : List Item :=
  [.output (tick ++ " Rendered ".toList ++ target.text ++ " (".toList ++ format ++ [')'])]

/-- Compile a document and draw a picture of it. -/
def render (w : World) (s : Settings) (source : Text) (target : Path) (format : Option Text)
    (dark : Bool) : Reply :=
  .ofWork w.files do
    let chart ← ofExcept (sourceChart w.files source (dark || s.darkMode))
    let order := pictureOrder s chart target format
    order.store w.outcome target
    return renderedItems target order.format

/-! ## 4. Checking -/

/-- What is said about a document, in rows of a name and a value. -/
def checkRows (d : Diagram) : List (List Text) :=
  let direction := d.options.direction
  [["Type".toList, (d.options.chartType.map (·.name)).getD ['-']],
   ["Direction".toList, direction.name ++ " (".toList ++ direction.rankdir ++ [')']],
   ["Generate".toList, if d.options.generate then "yes".toList else "no".toList],
   ["Nodes".toList, Text.ofNat d.nodes.length],
   ["Edges".toList, Text.ofNat d.edges.length],
   ["Dropped edges".toList, Text.ofNat d.dropped]]

/-- The verdict on a document. -/
def checkVerdict (d : Diagram) : Text :=
  if d.chart.isNone then
    "[yellow]⚠ Nothing compiled (empty document or unsupported type)[/yellow]".toList
  else if 0 < d.dropped then
    "[yellow]⚠ ".toList ++ Text.ofNat d.dropped ++
      " edge(s) had no node on one side[/yellow]".toList
  else "[green]✓ OK[/green]".toList

/-- Say what a document compiles to. -/
def check (w : World) (s : Settings) (source : Text) : Reply :=
  match sourceDiagram w.files source s.darkMode with
  | .error f => .ofFault w.files [] f
  | .ok d =>
    ⟨[.table (Terminal.escape (Path.ofText source).name) (checkRows d), .output (checkVerdict d)],
      0, [], w.files⟩

/-- Say how bright a colour is, and which colour text on it gets. -/
def luma (w : World) (color : Text) : Reply :=
  let shown := Terminal.escape color
  let unknown :=
    if (Color.rgb? color).isSome then []
    else [Item.output ("[yellow]⚠ Unknown color '".toList ++ shown ++
      "', using neutral luma[/yellow]".toList)]
  let value := (Binary64.ofRatio false (Color.luma color) 10000).fixed 2
  let font := (Color.fontColor color).getD "renderer default".toList
  ⟨unknown ++ [.output ("[bold]".toList ++ shown ++ "[/]: luma ".toList ++ value),
    .output ("   font color: ".toList ++ font)], 0, [], w.files⟩

/-! ## 5. The doctor -/

/-- What is shown of a check: its number, its name, its mark, its message and its details. -/
def healthItems (number : Nat) (c : HealthCheck) : List Item :=
  .output ("[bold]".toList ++ Text.ofNat number ++ ". ".toList ++ c.name ++ ":[/] ".toList ++
      (if c.passed then tick else cross) ++ ' ' :: c.message) ::
    match c.details with
    | none => []
    | some details =>
      if details.isEmpty then []
      else (Text.splitAt '\n' details).map fun line =>
        .output ("   [dim]".toList ++ line ++ "[/dim]".toList)

/-- What is shown of all checks. -/
def reportItems (r : Health.Report) : List Item :=
  (r.checks.zipIdx 1).flatMap fun (c, number) => healthItems number c

/-- What is shown of the packages. -/
def packageItems (missing : List Text) : List Item :=
  .output [] :: (Health.installed missing).map fun (p, there) =>
    .output ("     ".toList ++ (if there then tick else cross) ++ ' ' :: p.purpose ++
      " (".toList ++ p.name ++ [')'])

/-- The verdict on the installation. -/
def healthVerdict (r : Health.Report) : Text :=
  if r.allPassed then
    "[bold green]✓ All checks passed - yumldot is ready![/bold green]".toList
  else if r.criticalPassed then
    "[bold yellow]⚠ Some checks failed - compiling works, rendering may not[/bold yellow]".toList
  else "[bold red]✗ Critical checks failed - yumldot may not work correctly[/bold red]".toList

/-- Say whether the program can do its work. -/
def doctor (w : World) (s : Settings) (config : Option Text) (verbose : Bool) : Reply :=
  let head := Item.output "[bold cyan]yumldot doctor[/bold cyan]\n".toList
  let calls := [Health.rendererCall s.renderer.binary]
  match Health.report w config s.renderer.binary with
  | .error _ => ⟨[head], 1, calls, w.files⟩
  | .ok r =>
    ⟨head :: (reportItems r ++ (if verbose then packageItems w.missing else []) ++
      [.output [], .output (healthVerdict r)]), if r.criticalPassed then 0 else 1, calls, w.files⟩

/-! ## 6. Command lines -/

/-- Make the file of the log where it is not there. -/
def makeLog (w : World) (file : Option Path) : Files.Work Unit := do
  match file with
  | none => return
  | some p =>
    let (shown, found) ← ofExcept (w.expand p)
    Files.Work.makeParent found
    match (← get).follow found with
    | .entry _ (.file _) => return
    | _ => Files.Work.change (·.write found shown.text [])

/-- Load the settings, and make the file of the log. -/
def prepare (w : World) (config level : Option Text) : Files.Work Settings := do
  let (s, _) ← ofExcept (Settings.load w config)
  makeLog w s.logFile
  return { s with logLevel := level.getD s.logLevel }

/-- What a request comes to. -/
def perform (w : World) (s : Settings) (config : Option Text) : Request → Outcome
  | .mistake => mistake w.files
  | .help => ⟨0, helpText, [], [], w.files⟩
  | .compile source output dark => (compile w s source output dark).outcome w.columns
  | .render source output format dark => (render w s source output format dark).outcome w.columns
  | .check source => (check w s source).outcome w.columns
  | .luma color => (luma w color).outcome w.columns
  | .doctor verbose => (doctor w s config verbose).outcome w.columns

/-- What a command line comes to in a world. -/
def run (w : World) (args : List Text) : Outcome :=
  match Opening.read w.files args with
  | .mistake => mistake w.files
  | .help => ⟨0, helpText, [], [], w.files⟩
  | .version => ⟨0, versionText, [], [], w.files⟩
  | .command config level name rest =>
    match (prepare w config level).run w.files with
    | .error _ files => silentFailure files
    | .ok s files => perform { w with files } s config (Request.read files name rest)

end Yuml.Command
