import Yuml.Settings.Toml.Basic
import Yuml.Fault
import Yuml.Text.Quoted

/-!
# Settings files: writing

`Toml.write` gives the lines of settings: the settings of the program first, then the table of the
renderer. What is written is not always read back: an escape of two digits, in which a control
character is shown, is not known in a settings file, and writing takes it apart (`joinUnits`).
-/

namespace Yuml.Toml

/-! ## 1. Texts -/

/-- How one character is written between double quotes. -/
def writeChar (c : Char) : Text := Text.quoteChar '"' c

/-- A text with every two backslashes in a row as one. -/
def halveBackslashes : Text → Text
  | '\\' :: '\\' :: r => '\\' :: halveBackslashes r
  | c :: r => c :: halveBackslashes r
  | [] => []

/-- What is written between two pieces in place of the `\x` that stood there: it depends on the
    backslashes at the end of the first piece, without one at its very beginning. -/
def unitGap (front : Text) : Text :=
  let count := (front.reverse.takeWhile (· == '\\')).length
  if count = 0 ∨ min count (front.length - 1) % 2 = 1 then ['x'] else "u00".toList

/-- Two pieces joined: in the first one the backslashes are halved. -/
def joinUnit (front piece : Text) : Text :=
  let front := halveBackslashes front
  front ++ unitGap front ++ piece

/-- Pieces joined from the left, the first of which is `front`. Where it is empty it is passed over,
    and then there has to be one more piece. -/
def joinUnits : (front : Text) → List Text → Except Fault Text
  | front, [] => .ok front
  | [], [_] => .error .unwritable
  | [], p :: q :: ps => joinUnits (joinUnit p q) ps
  | front, p :: ps => joinUnits (joinUnit front p) ps

/-- A text in double quotes. Escapes of two digits are taken apart. -/
def writeText (s : Text) : Except Fault Text := do
  match Text.splitOnText "\\x".toList (s.flatMap writeChar) with
  | [] => return "\"\"".toList
  | front :: pieces => return '"' :: ((← joinUnits front pieces) ++ ['"'])

/-! ## 2. Settings -/

/-- A truth value. -/
def writeFlag (b : Bool) : Text := if b then "true".toList else "false".toList

/-- Take the zero away that stands first in an exponent below zero. -/
def dropPadding : Text → Text
  | 'e' :: '-' :: '0' :: r => 'e' :: '-' :: r
  | c :: r => c :: dropPadding r
  | [] => []

/-- A number: its fewest digits, an exponent without the zero in front. -/
def writeNumber (x : Binary64) : Text := dropPadding x.precise

/-- A line that gives a setting. -/
def writeField (name : String) (value : Text) : Text :=
  name.toList ++ " = ".toList ++ value ++ ['\n']

/-- The lines of settings. A log file that is not set is left out. -/
def write (s : Settings) : Except Fault Text := do
  let level ← writeText s.logLevel
  let file ← match s.logFile with
    | none => pure []
    | some p => (writeText p.text).map (writeField "log_file")
  let binary ← writeText s.renderer.binary
  let format ← writeText s.renderer.format
  return writeField "dark_mode" (writeFlag s.darkMode) ++
    writeField "log_level" level ++ file ++
    writeField "log_json" (writeFlag s.logJson) ++
    "\n[renderer]\n".toList ++
    writeField "binary" binary ++
    writeField "format" format ++
    writeField "timeout_s" (writeNumber s.renderer.timeout)

end Yuml.Toml
