import Yuml.Text.Basic

/-!
# Settings files: obstacles

Most files that are malformed are merely unreadable, and the settings are then as by default. Some
faults of a file are OBSTACLES: loading stops at them with a fault of its own. They arise

* where a file, a text or a list ends and one more character or item has to be there;
* where a key or a heading goes on behind a name that stands for something else than a table;
* where a heading in two brackets opens one more table for something else than a list;
* where an escape has a number beyond all characters.
-/

namespace Yuml

/-- What stops the loading of a settings file. -/
inductive Obstacle where
  /-- A text ends where one more character has to stand. -/
  | textEnds
  /-- A list, or the file, ends where one more item has to stand. -/
  | listEnds
  /-- An escape has a number beyond all characters. -/
  | hugeEscape
  /-- A heading opens one more table for a value that is no list. -/
  | noList (kind : String)
  /-- A heading goes through a value of a kind that holds nothing. -/
  | noParts (kind : String)
  /-- A key goes through a value of a kind that holds nothing. -/
  | noNames (kind : String)
  /-- A name is looked for in a text, and occurs in it. -/
  | nameInText
  /-- A name is looked for in a text, and does not occur in it. -/
  | nameOutsideText
  /-- A name is looked for in a list. -/
  | nameInList
  /-- A text over several lines has an empty key. -/
  | noKey
  deriving DecidableEq, Repr

/-- What is printed for an obstacle. -/
def Obstacle.message : Obstacle → Text
  | .textEnds => "string index out of range".toList
  | .listEnds => "list index out of range".toList
  | .hugeEscape => "Python int too large to convert to C int".toList
  | .noList kind => "'".toList ++ kind.toList ++ "' object has no attribute 'append'".toList
  | .noParts kind => "'".toList ++ kind.toList ++ "' object is not subscriptable".toList
  | .noNames kind => "argument of type '".toList ++ kind.toList ++ "' is not iterable".toList
  | .nameInText => "string indices must be integers, not 'str'".toList
  | .nameOutsideText => "'str' object does not support item assignment".toList
  | .nameInList => "list indices must be integers or slices, not str".toList
  | .noKey =>
    "cannot access local variable 'value' where it is not associated with a value".toList

end Yuml
