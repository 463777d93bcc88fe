import Yuml.Event
import Yuml.Settings

/-!
# Pictures: charts drawn by another program

A chart becomes a picture by way of another program, which reads the chart and writes the picture.
A `PictureOrder` says which chart, in which format, by which program, and how long it is waited for.

* A format that is not one of the four is refused before the program is started
  (`PictureOrder.calls`).
* There is a picture only if the program ends in time and with code 0 (`PictureOrder.picture`), and
  the picture is what it has written.
* The file is made after the picture, so an order without a picture leaves the files alone
  (`PictureOrder.store`).
-/

namespace Yuml

/-! ## 1. Formats -/

/-- The format that the suffix of a path names, in either case; `jpeg` is another name of `jpg`. -/
def pictureFormat? (p : Path) : Option Text :=
  let suffix := Text.toLower (p.suffix?.getD [])
  let format := if suffix = "jpeg".toList then "jpg".toList else suffix
  if pictureFormats.contains format then some format else none

/-- The format of a picture that goes to some path: the one that is given, if it is not empty, or that
    of the path, or a usual one. -/
def chosenFormat (given : Option Text) (target : Path) (usual : Text) : Text :=
  ((given.filter fun f => !f.isEmpty).or (pictureFormat? target)).getD usual

/-- The format when nothing is said. -/
def usualFormat : Text := RendererSettings.default.format

/-! ## 2. Orders -/

/-- What is to be drawn, and how. -/
structure PictureOrder where
  chart : Text
  format : Text
  binary : Text
  timeout : Binary64
  deriving DecidableEq, Repr

namespace PictureOrder

/-- An order for a picture that goes to some path. A format that is not given follows from the
    path. -/
def toPath (chart : Text) (format : Option Text) (target : Path) (binary : Text)
    (timeout : Binary64) : PictureOrder :=
  ⟨chart, chosenFormat format target usualFormat, binary, timeout⟩

/-- How the program is started for an order. -/
def call (o : PictureOrder) : Call :=
  ⟨[o.binary, "-T".toList ++ o.format], some o.chart, o.timeout⟩

/-- Whether the format of an order is one of those that can be drawn. -/
def isSupported (o : PictureOrder) : Bool := pictureFormats.contains o.format

/-- The programs that are started for an order. -/
def calls (o : PictureOrder) : List Call := if o.isSupported then [o.call] else []

/-- What a program has to say about its failure. -/
def complaint (stderr : List UInt8) : Text := Text.trim (Utf8.decodeLossy stderr)

/-- The picture, given what the program does. -/
def picture (o : PictureOrder) (outcome : ProgramOutcome) : Except Fault (List UInt8) :=
  if o.isSupported then
    match outcome with
    | .missing => .error (.render (.notFound o.binary))
    | .timeout => .error (.render (.timedOut o.binary o.timeout))
    | .exited code stdout stderr =>
      if code = 0 then .ok stdout
      else .error (.render (.failed o.binary code (complaint stderr)))
  else .error (.render (.unsupportedFormat o.format))

/-- What is reported of the drawing. -/
def events (o : PictureOrder) (outcome : ProgramOutcome) : List Event :=
  if o.isSupported then
    match outcome with
    | .missing => []
    | .timeout => [.renderTimeout o.binary o.timeout]
    | .exited code stdout stderr =>
      if code = 0 then [.renderComplete o.format stdout.length]
      else [.renderFailed o.binary code (complaint stderr)]
  else []

/-! ## 3. Files -/

/-- Draw the picture: start the program, unless the format is refused, and take what it writes. -/
def draw (o : PictureOrder) (outcome : ProgramOutcome) : Work (List UInt8) := do
  if o.isSupported then Work.start o.call
  ofExcept (o.picture outcome)

/-- Draw the picture and put it in its place. -/
def store (o : PictureOrder) (outcome : ProgramOutcome) (target : Path) : Work Unit := do
  let bytes ← o.draw outcome
  Work.onFiles (Files.Work.store target target.text bytes)

/-- The files with the picture in its place. -/
def file (o : PictureOrder) (outcome : ProgramOutcome) (fs : Files) (target : Path) :
    Except Fault Files :=
  match (o.store outcome target).run ⟨[], fs⟩ with
  | .ok _ d => .ok d.files
  | .error f _ => .error f

/-- What is reported of the drawing and of the file. -/
def fileEvents (o : PictureOrder) (outcome : ProgramOutcome) (fs : Files) (target : Path) :
    List Event :=
  o.events outcome ++
    match o.picture outcome, o.file outcome fs target with
    | .ok bytes, .ok _ => [.renderWritten target.text o.format bytes.length]
    | _, _ => []

end PictureOrder

end Yuml
