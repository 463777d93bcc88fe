import Yuml.World.Program

/-!
# Settings

The settings of the program are read from values that a file or a caller gives, by name. A value of
the wrong kind is a PROBLEM of its field; all problems are found at once (`Settings.ofFields`), in
the order of the names of the fields. A name that is no setting is passed over.

A single setting may be given a new value later (`Settings.assign`); a value with a problem leaves
the settings as they are.
-/

namespace Yuml

/-! ## 1. Values and problems -/

/-- A value as it is given. Which date or time of day it is does not matter, for no setting is one;
    nor is a text in which half a character stands (`halfText`). Tables that are written between
    braces are told from others. -/
inductive Value where
  | null
  | flag (b : Bool)
  | integer (n : Int)
  | number (x : Binary64)
  | text (s : Text)
  | halfText
  | date (hasTime : Bool)
  | time
  | list (items : List Value)
  | table (inBraces : Bool) (fields : List (Text × Value))
  deriving Inhabited

/-- What can be wrong with a value. -/
inductive Problem where
  | boolParsing
  | boolType
  | floatParsing
  | floatType
  | greaterThan
  | modelType
  | pathType
  | patternMismatch
  | stringType
  | valueError
  deriving DecidableEq, Repr

/-- The name of a problem. -/
def Problem.name : Problem → String
  | .boolParsing => "bool_parsing"
  | .boolType => "bool_type"
  | .floatParsing => "float_parsing"
  | .floatType => "float_type"
  | .greaterThan => "greater_than"
  | .modelType => "model_type"
  | .pathType => "path_type"
  | .patternMismatch => "string_pattern_mismatch"
  | .stringType => "string_type"
  | .valueError => "value_error"

/-- The problems of some fields. -/
abbrev Problems := List (String × Problem)

namespace Value

/-- The name of the kind of a value. -/
def kind : Value → String
  | .null => "NoneType"
  | .flag _ => "bool"
  | .integer _ => "int"
  | .number _ => "float"
  | .text _ | .halfText => "str"
  | .date false => "datetime.date"
  | .date true => "datetime.datetime"
  | .time => "datetime.time"
  | .list _ => "list"
  | .table false _ => "dict"
  | .table true _ => "DynamicInlineTableDict"

/-- The words for yes. -/
def yesWords : List Text :=
  ["1".toList, "t".toList, "y".toList, "on".toList, "yes".toList, "true".toList]

/-- The words for no. -/
def noWords : List Text :=
  ["0".toList, "f".toList, "n".toList, "no".toList, "off".toList, "false".toList]

/-- A truth value: itself, one of the words in either case, or 0 or 1. Another word and another
    whole number are refused in a different way than the rest. -/
def toFlag : Value → Except Problem Bool
  | .flag b => .ok b
  | .integer n => if n = 0 then .ok false else if n = 1 then .ok true else .error .boolParsing
  | .number x =>
    if x = .finite false 0 0 ∨ x = .finite true 0 0 then .ok false
    else if x = .ofInt 1 then .ok true
    else if x.isWhole then .error .boolParsing
    else .error .boolType
  | .text s =>
    if yesWords.contains (s.map Char.toLower) then .ok true
    else if noWords.contains (s.map Char.toLower) then .ok false
    else .error .boolParsing
  | _ => .error .boolType

/-- A text. -/
def toText : Value → Except Problem Text
  | .text s => .ok s
  | _ => .error .stringType

/-- A text without its low lines; none may stand at an end or next to another one. -/
def withoutLowLines? (s : Text) : Option Text :=
  if s.head? = some '_' ∨ s.getLast? = some '_' ∨ Text.occursIn "__".toList s then none
  else some (s.filter (· != '_'))

/-- White space around the text of a number; the separators of records are none. -/
def isPadding (c : Char) : Bool := Text.isBlank c && !(0x1C ≤ c.toNat && c.toNat ≤ 0x1F)

/-- A number: itself, a whole number that is not beyond all numbers, a truth value as 0 or 1, or the
    text of a number. -/
def toNumber : Value → Except Problem Binary64
  | .number x => .ok x
  | .integer n => match Binary64.ofInt n with
    | .infinite _ => .error .floatType
    | x => .ok x
  | .flag b => .ok (.ofInt (if b then 1 else 0))
  | .text s =>
    let bare := ((s.dropWhile isPadding).reverse.dropWhile isPadding).reverse
    match (Binary64.ofText? bare).or ((withoutLowLines? s).bind Binary64.ofText?) with
    | some x => .ok x
    | none => .error .floatParsing
  | _ => .error .floatType

/-- A path, or none. -/
def toPath? : Value → Except Problem (Option Path)
  | .null => .ok none
  | .text s => .ok (some (Path.ofText s))
  | _ => .error .pathType

end Value

/-! ## 2. Settings -/

/-- How pictures are rendered. -/
structure RendererSettings where
  binary : Text
  format : Text
  timeout : Binary64
  deriving DecidableEq, Repr

/-- The settings of the program. -/
structure Settings where
  renderer : RendererSettings
  darkMode : Bool
  logLevel : Text
  logFile : Option Path
  logJson : Bool
  deriving DecidableEq, Repr

/-- How pictures are rendered when nothing is said. -/
def RendererSettings.default : RendererSettings := ⟨"dot".toList, "svg".toList, .ofInt 30⟩

/-- The settings when nothing is said. -/
def Settings.default : Settings := ⟨.default, false, "WARNING".toList, none, false⟩

/-- Whether two settings are the same. -/
def Settings.agrees (s t : Settings) : Bool :=
  s == t && s.renderer.timeout.agrees t.renderer.timeout

/-- The formats of pictures. -/
def pictureFormats : List Text := ["svg".toList, "png".toList, "pdf".toList, "jpg".toList]

/-- The levels that can be set. -/
def settableLevels : List Text :=
  ["DEBUG".toList, "INFO".toList, "WARNING".toList, "ERROR".toList]

/-- A text that has to be one of some words. -/
def oneOf (words : List Text) (s : Text) : Except Problem Text :=
  if words.contains s then .ok s else .error .patternMismatch

/-- The name of the renderer: not blank, and taken without the white space around it. -/
def rendererName (v : Value) : Except Problem Text := do
  let s ← v.toText
  if (Text.trim s).isEmpty then .error .valueError else .ok (Text.trim s)

/-- The format of pictures. -/
def rendererFormat (v : Value) : Except Problem Text := do oneOf pictureFormats (← v.toText)

/-- How long a renderer is waited for: longer than no time at all. What is no number is not refused,
    for it is not less. -/
def rendererTimeout (v : Value) : Except Problem Binary64 := do
  let x ← v.toNumber
  if x.isAtMostZero then .error .greaterThan else .ok x

/-- The level of the log, in either case. -/
def levelName (v : Value) : Except Problem Text := do
  oneOf settableLevels (Text.toUpper (← v.toText))

/-! ## 3. Reading fields -/

/-- Read a field, if it is given, and put its problem under its name. -/
def readField (fields : List (Text × Value)) (name shown : String) (read : Value → Except Problem α)
    (default : α) : Except Problems α :=
  match fields.find? (·.1 == name.toList) with
  | none => .ok default
  | some (_, v) => (read v).mapError fun p => [(shown, p)]

/-- The problems of a reading; none if it succeeds. -/
def problemsOf : Except Problems α → Problems
  | .ok _ => []
  | .error ps => ps

/-- How pictures are rendered, from a table of fields. What is not given is as by default. -/
def RendererSettings.ofValue (v : Value) : Except Problems RendererSettings :=
  match v with
  | .table _ fields =>
    let d := RendererSettings.default
    let binary := readField fields "binary" "renderer.binary" rendererName d.binary
    let format := readField fields "format" "renderer.format" rendererFormat d.format
    let timeout := readField fields "timeout_s" "renderer.timeout_s" rendererTimeout d.timeout
    match binary, format, timeout with
    | .ok b, .ok f, .ok t => .ok ⟨b, f, t⟩
    | b, f, t => .error (problemsOf b ++ problemsOf f ++ problemsOf t)
  | _ => .error [("renderer", .modelType)]

/-- Read the renderer's field, if it is given. -/
def rendererField (fields : List (Text × Value)) : Except Problems RendererSettings :=
  match fields.find? (·.1 == "renderer".toList) with
  | none => .ok .default
  | some (_, v) => RendererSettings.ofValue v

/-- The settings that some fields give. -/
def Settings.ofFields (fields : List (Text × Value)) : Except Problems Settings :=
  let d := Settings.default
  let dark := readField fields "dark_mode" "dark_mode" Value.toFlag d.darkMode
  let file := readField fields "log_file" "log_file" Value.toPath? d.logFile
  let json := readField fields "log_json" "log_json" Value.toFlag d.logJson
  let level := readField fields "log_level" "log_level" levelName d.logLevel
  match dark, file, json, level, rendererField fields with
  | .ok dark, .ok file, .ok json, .ok level, .ok renderer => .ok ⟨renderer, dark, level, file, json⟩
  | dark, file, json, level, renderer =>
    .error (problemsOf dark ++ problemsOf file ++ problemsOf json ++ problemsOf level ++
      problemsOf renderer)

/-- The settings with one of them given a new value. -/
def Settings.assign (s : Settings) (name : Text) (v : Value) : Except Problems Settings := do
  let fields := [(name, v)]
  let dark ← readField fields "dark_mode" "dark_mode" Value.toFlag s.darkMode
  let file ← readField fields "log_file" "log_file" Value.toPath? s.logFile
  let json ← readField fields "log_json" "log_json" Value.toFlag s.logJson
  let level ← readField fields "log_level" "log_level" levelName s.logLevel
  let renderer ← if name = "renderer".toList then rendererField fields else .ok s.renderer
  return ⟨renderer, dark, level, file, json⟩

/-! ## 4. Warnings -/

/-- A path with `~` in front replaced by the home directory: as it is written, and as it is found.
    Nobody else's home directory is known. -/
def World.expand (w : World) (p : Path) : Except Fault (Path × Path) :=
  match p.root, p.names with
  | [], ['~'] :: more =>
    let home := Path.ofText w.homeText
    .ok (⟨home.root, home.names ++ more⟩, ⟨[], w.home ++ more⟩)
  | [], ('~' :: _) :: _ => .error (.other [.text "Could not determine home directory.".toList])
  | _, _ => .ok (p, p)

/-- What is odd about the renderer's settings in a world. -/
def RendererSettings.warnings (s : RendererSettings) (w : World) : List Text :=
  if w.onPath then []
  else ["Renderer '".toList ++ s.binary ++ "' not found on PATH ".toList ++
    "(needed for 'yumldot render', not for 'yumldot compile')".toList]

/-- What is odd about the path of the log in a world. -/
def logFileWarnings (file : Option Path) (w : World) : Except Fault (List Text) :=
  match file with
  | none => .ok []
  | some p => (w.expand p).map fun (shown, found) =>
    if w.files.present found.parent && !w.files.isDirectory found.parent then
      ["Log file directory is not a directory: ".toList ++ shown.parent.text]
    else []

/-- What is odd about settings in a world, though they can be used. -/
def Settings.warnings (s : Settings) (w : World) : Except Fault (List Text) :=
  (logFileWarnings s.logFile w).map (s.renderer.warnings w ++ ·)

end Yuml
