import Yuml.Event
import Yuml.Settings.Toml.Reader
import Yuml.Settings.Toml.Writer
import Yuml.Text.Lines

/-!
# Settings in files

Settings are loaded from the file that the caller names, or else from the first of two files that is
there: one of the project, in the working directory, and one of the user, below the home directory.
A file that is malformed or has problems is reported, and the settings are as by default; only an
obstacle is a fault of loading.
-/

namespace Yuml.Settings

/-- The settings file of a project. -/
def projectFile : Text := "yumldot.toml".toList

/-- The settings file of the user, below the home directory. -/
def userFile : List Text := [".yumldot".toList, "config.toml".toList]

/-- The settings files that are looked for, as they are written and as they are found. -/
def candidates (w : World) : List (Text × Path) :=
  let home := Path.ofText w.homeText
  [(projectFile, Path.ofText projectFile),
   ((Path.mk home.root (home.names ++ userFile)).text, ⟨[], w.home ++ userFile⟩)]

/-- The settings file to load, with what is reported of the search. -/
def locate (w : World) (path : Option Text) : Option (Text × Path) × List Event :=
  match path with
  | some p =>
    if !p.isEmpty && w.files.present (Path.ofText p) then (some (p, Path.ofText p), [])
    else (none, [])
  | none =>
    match (candidates w).find? fun c => w.files.present c.2 with
    | some c => (some c, [.configFound c.1])
    | none => (none, [])

/-- The settings that the bytes of a file give, with what is reported. -/
def ofBytes (shown : Text) (bytes : List UInt8) : Except Fault (Settings × List Event) :=
  let failed := Event.configLoadFailed shown
  match Utf8.decode bytes with
  | .error _ => .ok (.default, [failed])
  | .ok text =>
    match Toml.read (Text.universalNewlines text) with
    | .error .unreadable => .ok (.default, [failed])
    | .error (.blocked cause) => .error (.settings cause)
    | .ok fields =>
      match Settings.ofFields fields with
      | .ok s => .ok (s, [.configLoaded shown])
      | .error _ => .ok (.default, [.configLoaded shown, failed])

/-- Load the settings. It fails where a directory stands at the path. -/
def load (w : World) (path : Option Text) : Except Fault (Settings × List Event) :=
  match locate w path with
  | (none, events) => .ok (.default, events ++ [.configUsingDefaults])
  | (some (shown, found), events) => do
    let (s, more) ← ofBytes shown (← w.files.read found shown)
    return (s, events ++ more)

/-- Save settings to a file: the files afterwards, with what is reported. -/
def save (s : Settings) (files : Files) (path : Text) : Except Fault (Files × List Event) := do
  let p := Path.ofText path
  let files ← files.makeParent p
  let files ← if path.isEmpty then throw (Files.notFound path) else
    files.write p path (Utf8.encode (← Toml.write s))
  return (files, [.configSaved path])

end Yuml.Settings
