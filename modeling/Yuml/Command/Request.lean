import Yuml.Command.Arguments
import Yuml.Settings

/-!
# Requests

A command line asks for one of five things, or for the version or some help. It has two parts: the
options of the program with the name of a command, and the arguments of that command. The second
part is read after the settings have been loaded, so a mistake in it shows later.
-/

namespace Yuml.Command

/-! ## 1. What is accepted -/

/-- The option that asks for help. -/
def helpOption : Accepted := ⟨"help".toList, none, false⟩

/-- The options of the program. -/
def programOptions : List Accepted :=
  [⟨"version".toList, none, false⟩, ⟨"config".toList, none, true⟩,
   ⟨"log-level".toList, none, true⟩, helpOption]

/-- The commands. -/
inductive Name where
  | compile
  | render
  | check
  | luma
  | doctor
  deriving DecidableEq, Repr

/-- The commands by the words that stand for them. -/
def names : List (Text × Name) :=
  [("compile".toList, .compile), ("render".toList, .render), ("check".toList, .check),
   ("luma".toList, .luma), ("doctor".toList, .doctor)]

/-- The options of a command. -/
def Name.options : Name → List Accepted
  | .compile => [⟨"output".toList, some 'o', true⟩, ⟨"dark".toList, none, false⟩, helpOption]
  | .render =>
    [⟨"output".toList, some 'o', true⟩, ⟨"format".toList, some 'f', true⟩,
     ⟨"dark".toList, none, false⟩, helpOption]
  | .check | .luma => [helpOption]
  | .doctor => [⟨"verbose".toList, some 'v', false⟩, helpOption]

/-! ## 2. The options of the program -/

/-- The first part of a command line. -/
inductive Opening where
  | mistake
  | help
  | version
  | command (config : Option Text) (logLevel : Option Text) (name : Name) (rest : List Text)
  deriving DecidableEq, Repr

/-- Whether a path may be that of a file: there is no directory. -/
def mayBeFile (fs : Files) (path : Text) : Bool := fs.at? path != some .directory

/-- Whether a path is that of a file. -/
def isFile (fs : Files) (path : Text) : Bool :=
  match fs.at? path with
  | some (.file _) => true
  | _ => false

/-- The level that a word stands for, in either case. -/
def levelOf? (word : Text) : Option Text :=
  settableLevels.find? fun l => Text.toLower l == Text.toLower word

/-- What is asked for before anything else, if it is. -/
def asked? (a : Arguments) : Option Opening :=
  (a.first? ["version", "help"]).map fun name =>
    if name = "version".toList then .version else .help

/-- The opening of a command line that names a command. -/
def openingOf (fs : Files) (a : Arguments) (name : Name) (rest : List Text) : Opening :=
  if !(a.value? "config").all (mayBeFile fs) then .mistake
  else match a.value? "log-level" with
    | none => .command (a.value? "config") none name rest
    | some word =>
      match levelOf? word with
      | none => .mistake
      | some level => .command (a.value? "config") (some level) name rest

/-- The opening of a command line whose operands begin with no command. Behind `--` they may look
    like options, and are then read as options after all. -/
def openingOfUnknown (operands : List Text) : Opening :=
  ((Arguments.read programOptions false operands).bind asked?).getD .mistake

/-- Read the first part of a command line. -/
def Opening.read (fs : Files) (args : List Text) : Opening :=
  match Arguments.read programOptions false args with
  | none => .mistake
  | some a =>
    match asked? a with
    | some opening => opening
    | none =>
      match a.operands with
      | [] => .mistake
      | word :: rest =>
        match names.find? (·.1 == word) with
        | some (_, name) => openingOf fs a name rest
        | none => openingOfUnknown (word :: rest)

/-! ## 3. The arguments of a command -/

/-- The second part of a command line. -/
inductive Request where
  | mistake
  | help
  /-- Compile a document, to a file or to the terminal. -/
  | compile (source : Text) (output : Option Path) (dark : Bool)
  /-- Compile a document and draw a picture of it. -/
  | render (source : Text) (output : Path) (format : Option Text) (dark : Bool)
  /-- Say what a document compiles to. -/
  | check (source : Text)
  /-- Say how bright a colour is. -/
  | luma (color : Text)
  /-- Say whether the program can do its work. -/
  | doctor (verbose : Bool)
  deriving DecidableEq, Repr

/-- The request for a document; it has to be there. -/
def ofSource (fs : Files) (source : Text) (request : Request) : Request :=
  if isFile fs source then request else .mistake

/-- The request of a command with an output path, if that may be the path of a file. -/
def withOutput (fs : Files) (a : Arguments) (request : Option Path → Request) : Request :=
  match a.value? "output" with
  | none => request none
  | some path => if mayBeFile fs path then request (some (Path.ofText path)) else .mistake

/-- The request of a command with its arguments. -/
def Request.ofArguments (fs : Files) (name : Name) (a : Arguments) : Request :=
  if a.has "help" then .help
  else match name, a.operands with
    | .compile, [source] =>
      withOutput fs a fun output => ofSource fs source (.compile source output (a.has "dark"))
    | .render, [source] =>
      withOutput fs a fun output =>
        match output with
        | none => .mistake
        | some output =>
          if (a.value? "format").all pictureFormats.contains then
            ofSource fs source (.render source output (a.value? "format") (a.has "dark"))
          else .mistake
    | .check, [source] => ofSource fs source (.check source)
    | .luma, [color] => .luma color
    | .doctor, [] => .doctor (a.has "verbose")
    | _, _ => .mistake

/-- Read the second part of a command line. -/
def Request.read (fs : Files) (name : Name) (args : List Text) : Request :=
  match Arguments.read name.options true args with
  | none => .mistake
  | some a => Request.ofArguments fs name a

end Yuml.Command
