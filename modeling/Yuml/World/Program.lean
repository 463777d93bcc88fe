import Yuml.Number.Binary64
import Yuml.World.Files

/-!
# The world around the program

What the program needs from outside: the files, the home directory, what another program does when
it is started, and what is installed. All of it is given beforehand as a value; what the program
does to the world is part of its answer.
-/

namespace Yuml

/-- What happens when another program is started. -/
inductive ProgramOutcome where
  /-- There is no such program. -/
  | missing
  /-- It does not end in time. -/
  | timeout
  /-- It ends with a code and has written something. -/
  | exited (code : Int) (stdout stderr : List UInt8)
  deriving DecidableEq, Repr

/-- A program that was started: with which arguments, what it was given to read, and how long it was
    waited for. -/
structure Call where
  argv : List Text
  input : Option Text
  timeout : Binary64
  deriving DecidableEq, Repr

/-- The bytes that a program is given to read: its input in UTF-8. -/
def Call.stdin (c : Call) : Option (List UInt8) := c.input.map Utf8.encode

/-- What has been done so far: the programs that were started, and the files as they are now. -/
structure Deeds where
  calls : List Call
  files : Files
  deriving DecidableEq, Repr

/-- Work in the world. It may fail on the way; what was done before that stays done. -/
abbrev Work := EStateM Fault Deeds

namespace Work

/-- Start a program. -/
def start (c : Call) : Work Unit := modify fun d => { d with calls := d.calls ++ [c] }

/-- Work on the files alone. -/
def onFiles (x : Files.Work α) : Work α := fun d =>
  match x.run d.files with
  | .ok a files => .ok a { d with files }
  | .error f files => .error f { d with files }

end Work

/-- The world as the program finds it. -/
structure World where
  files : Files
  /-- The names that lead to the home directory. -/
  home : List Text
  /-- The text of the home directory's path. -/
  homeText : Text
  /-- What a program that is started does. -/
  outcome : ProgramOutcome
  /-- Whether the search path holds the renderer. -/
  onPath : Bool
  /-- The version of the language that the program runs in. -/
  version : List Nat
  /-- The packages that are not installed. -/
  missing : List Text
  /-- How many cells a line of the terminal has. -/
  columns : Nat
  deriving DecidableEq, Repr

end Yuml
