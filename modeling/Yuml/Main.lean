import Yuml.Command

/-!
# The program

The program looks at the files that its arguments and its settings name, runs the command line on
them, writes the files that have changed, and shows the outcome. It starts no other program, so a
renderer counts as missing.
-/

namespace Yuml.Program

/-- The number of the fault of reading a directory as a file. -/
def directoryRead : UInt32 := 21

/-- What stands at a path on disk. -/
def entryAt (path : String) : IO (Option Entry) := do
  try
    return some (.file (← IO.FS.readBinFile path).toList)
  catch
    | .inappropriateType _ number _ =>
      return if number = directoryRead then some .directory else none
    | _ => return none

/-- The files with what stands at a path and on the way to it. -/
def withPath (fs : Files) (p : Path) : IO Files := do
  let mut fs := fs
  for n in List.range p.names.length do
    let q : Path := ⟨p.root, p.names.take (n + 1)⟩
    match fs.follow q with
    | .free names =>
      match ← entryAt (String.ofList q.text) with
      | some e => fs := fs.put names e
      | none => pure ()
    | _ => pure ()
  return fs

/-- The paths that an argument may name. -/
def pathsIn (arg : Text) : List Path :=
  [arg, arg.drop 2, (Command.Arguments.behindEquals arg).getD []].map Path.ofText

/-- Whether a file on disk can be read. -/
def canRead (path : String) : IO Bool := do
  try
    IO.FS.withFile path .read fun _ => return true
  catch _ => return false

/-- Whether the search path holds a program. -/
def isOnPath (binary : Text) : IO Bool := do
  for place in ((← IO.getEnv "PATH").getD "").splitOn ":" do
    if ← canRead (place ++ "/" ++ String.ofList binary) then return true
  return false

/-- The world with the files that a command line names. -/
def world (args : List Text) : IO World := do
  let home := ((← IO.getEnv "HOME").getD "/").toList
  let columns := ((← IO.getEnv "COLUMNS").bind String.toNat?).getD 80
  let homeNames := (if (Path.ofText home).root.isEmpty then [] else Files.rootNames) ++
    (Path.ofText home).names
  let w : World := ⟨[], homeNames, home, .missing, false, Health.oldestVersion, [], columns⟩
  let named := args.flatMap pathsIn ++ (Settings.candidates w).map fun c => Path.ofText c.1
  let w := { w with files := ← named.foldlM withPath w.files }
  match Command.Opening.read w.files args with
  | .command config _ _ _ =>
    match Settings.load w config with
    | .ok (s, _) =>
      let w := { w with onPath := ← isOnPath s.renderer.binary }
      match s.logFile.map w.expand with
      | some (Except.ok (shown, _)) => return { w with files := ← withPath w.files shown }
      | _ => return w
    | .error _ => return w
  | _ => return w

/-- Write a file, with the directories that it lies in. -/
def store (p : Path) (bytes : List UInt8) : IO Unit := do
  IO.FS.createDirAll (String.ofList p.parent.text)
  IO.FS.writeBinFile (String.ofList p.text) (ByteArray.mk bytes.toArray)

end Yuml.Program

/-- Run a command line. -/
def main (args : List String) : IO UInt32 := do
  let args := args.map String.toList
  let w ← Yuml.Program.world args
  let o := Yuml.Command.run w args
  for (p, bytes) in o.files.changedSince w.files do
    Yuml.Program.store p bytes
  IO.print (String.ofList o.stdout)
  IO.eprint (String.ofList o.stderr)
  return o.code.toUInt32
