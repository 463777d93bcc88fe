import Yuml.Number.Binary64
import Yuml.Options
import Yuml.Settings.Toml.Obstacle
import Yuml.Text.LetterCase
import Yuml.Text.Quoted
import Yuml.Text.Utf8

/-!
# Faults, their wording and the hints given with them

A fault is a cause; what is printed is computed from it. Three things are said about a fault:

* its message (`Fault.message`);
* its category, which tells a fault of the document from one of the header, of the renderer or of
  files (`Fault.category`);
* a hint at what to do (`Fault.hint`): a fixed one for a missing or protected file and for bytes
  that are no text, and otherwise the hint of the first pattern that occurs in the message
  (`hintFor`).
-/

namespace Yuml

/-! ## 1. Causes -/

/-- A detail given with a fault. -/
inductive Detail where
  | text (s : Text)
  | number (n : Int)
  deriving DecidableEq, Repr

namespace Detail

/-- The detail as it is. -/
def plain : Detail → Text
  | .text s => s
  | .number n => Text.ofInt n

/-- The detail with a text in quotes. -/
def quoted : Detail → Text
  | .text s => Text.quoted s
  | .number n => Text.ofInt n

/-- The wording of some details: nothing, the only one as it is, or all of them in brackets. -/
def wording : List Detail → Text
  | [] => []
  | [d] => d.plain
  | ds => '(' :: (Text.joinWith ", ".toList (ds.map quoted) ++ [')'])

end Detail

/-- Which fault of the file system it is. -/
inductive FileFault where
  | notFound
  | denied
  | isDirectory
  | notDirectory
  | alreadyExists
  | other
  deriving DecidableEq, Repr

/-- The fault of the file system that a number of the operating system stands for. -/
def FileFault.ofNumber (n : Int) : FileFault :=
  if n = 2 then .notFound
  else if n = 1 ∨ n = 13 then .denied
  else if n = 17 then .alreadyExists
  else if n = 20 then .notDirectory
  else if n = 21 then .isDirectory
  else .other

/-- Why a picture could not be rendered. -/
inductive RenderFault where
  | unsupportedFormat (format : Text)
  | notFound (binary : Text)
  | timedOut (binary : Text) (timeout : Binary64)
  | failed (binary : Text) (code : Int) (stderr : Text)
  | stated (details : List Detail)
  deriving DecidableEq, Repr

/-- What can go wrong. -/
inductive Fault where
  /-- A token that the grammar does not know. -/
  | expression (token reason : Text)
  /-- A header key with a value that it does not accept. -/
  | directive (key value : Text)
  /-- Expression lines without a type of chart. -/
  | missingType
  /-- No picture. -/
  | render (cause : RenderFault)
  /-- Any other fault of the document. -/
  | document (details : List Detail)
  /-- A fault of the file system. -/
  | file (cause : FileFault) (details : List Detail)
  /-- Bytes that are no text. -/
  | undecodable (cause : Utf8.Malformed)
  /-- An opener that nothing closes. -/
  | noCloser (opener : Char)
  /-- A name that stands for nothing. -/
  | unknownName (what : String) (name : Text)
  /-- A node that a grammar cannot draw. -/
  | notANode (grammar : Grammar) (element : String)
  /-- Something drawn as an edge that is none. -/
  | notAnEdge (element : String)
  /-- An element without a label, where a node is looked up by it. -/
  | noLabel
  /-- A settings file that cannot be loaded. -/
  | settings (cause : Obstacle)
  /-- A text that a settings file cannot hold. -/
  | unwritable
  /-- A fault of another kind. -/
  | other (details : List Detail)
  deriving DecidableEq, Repr

/-- A fault that the operating system reports with some details, the first of which is a number if
    there are several. -/
def Fault.ofSystem (details : List Detail) : Fault :=
  match details with
  | .number n :: _ :: _ => .file (FileFault.ofNumber n) details
  | _ => .file .other details

/-! ## 2. Wording -/

/-- The reason given for a token that matches nothing. -/
def invalidExpression : Text := "invalid expression".toList

/-- The reason given for a connection without exactly two sides. -/
def notOneConnector : Text := "invalid expression, expected exactly one connector".toList

/-- The wording of a fault of the file system: its number, its text, and the path in quotes; one
    or no detail is worded as it is. -/
def fileMessage : List Detail → Text
  | n :: text :: r =>
    let front := "[Errno ".toList ++ n.plain ++ "] ".toList ++ text.plain
    match r with
    | [] => front
    | [path] | [path, _] => front ++ ": ".toList ++ path.quoted
    | [path, _, path'] =>
      front ++ ": ".toList ++ path.quoted ++ " -> ".toList ++ path'.quoted
    | _ => Detail.wording (n :: text :: r)
  | details => Detail.wording details

/-- The wording of bytes that are no text. -/
def malformedMessage (m : Utf8.Malformed) : Text :=
  let front := "'utf-8' codec can't decode byte".toList
  let place :=
    if m.length = 1 then
      " 0x".toList ++ Text.hexPadded 2 m.byte.toNat ++ " in position ".toList ++
        Text.ofNat m.position
    else
      "s in position ".toList ++ Text.ofNat m.position ++ '-' ::
        Text.ofNat (m.position + m.length - 1)
  front ++ place ++ ": ".toList ++ m.reason.words.toList

/-- The wording of a rendering that failed. -/
def RenderFault.message : RenderFault → Text
  | .unsupportedFormat format => "Unsupported output format '".toList ++ format ++ ['\'']
  | .notFound binary => "Renderer '".toList ++ binary ++ "' not found on PATH".toList
  | .timedOut binary timeout =>
    "Renderer '".toList ++ binary ++ "' timed out after ".toList ++ timeout.general ++ ['s']
  | .failed binary code stderr =>
    "Renderer '".toList ++ binary ++ "' failed (exit ".toList ++ Text.ofInt code ++ "): ".toList ++
      stderr
  | .stated details => Detail.wording details

/-- The name of a grammar with its article. -/
def Grammar.withArticle : Grammar → Text
  | .activity => "an activity".toList
  | .classes => "a class".toList

/-- What is printed for a fault. -/
def Fault.message : Fault → Text
  | .expression token reason => reason ++ ": ".toList ++ Text.quoted token
  | .directive key value => "invalid value for '".toList ++ key ++ "': ".toList ++ value
  | .missingType => "Missing mandatory 'type' directive".toList
  | .render cause => cause.message
  | .document details | .other details => Detail.wording details
  | .file _ details => fileMessage details
  | .undecodable cause => malformedMessage cause
  | .noCloser opener => Text.quoted [opener]
  | .unknownName what name => Text.quoted name ++ " is not a valid ".toList ++ what.toList
  | .notANode grammar element =>
    "not ".toList ++ grammar.withArticle ++ " node: ".toList ++ element.toList
  | .notAnEdge element => "not an edge: ".toList ++ element.toList
  | .noLabel => "'NoneType' object has no attribute 'split'".toList
  | .settings cause => cause.message
  | .unwritable => "list index out of range".toList

/-! ## 3. Category and hint -/

/-- What a fault is a fault of. -/
inductive Category where
  | expression
  | directive
  | render
  | io
  deriving DecidableEq, Repr

/-- The name of a category. -/
def Category.name : Category → Text
  | .expression => "expression".toList
  | .directive => "directive".toList
  | .render => "render".toList
  | .io => "io".toList

/-- What a fault is a fault of. -/
def Fault.category : Fault → Category
  | .directive _ _ | .missingType => .directive
  | .render _ => .render
  | .file _ _ | .undecodable _ => .io
  | _ => .expression

/-- The hint for a file that is not there. -/
def checkPath : Text := "Check the input path".toList

/-- The hint for a file that may not be touched. -/
def checkPermissions : Text := "Check file permissions or try a different location".toList

/-- The hint for bytes that are no text. -/
def mustBeUtf8 : Text := "Input must be UTF-8 text".toList

/-- The hint for a token that the grammar does not know. -/
def checkBrackets : Text :=
  "Check brackets and arrows; escape literal brackets with a backslash".toList

/-- Patterns, in the order in which they are tried, with the hint that each gives. -/
def hints : List (Text × Text) :=
  [("missing mandatory 'type'".toList,
    "Add a header line such as: // \x7btype:activity\x7d".toList),
   ("invalid value for 'type'".toList,
    "Use one of: class, usecase, activity, state, deployment, package, sequence".toList),
   ("invalid value for 'direction'".toList,
    "Use one of: leftToRight, rightToLeft, topDown".toList),
   ("invalid value for 'generate'".toList, "Use true or false".toList),
   ("invalid expression".toList, checkBrackets),
   ("not found on path".toList,
    "Install Graphviz (https://graphviz.org) or set renderer.binary in yumldot.toml".toList),
   ("timed out".toList, "Increase renderer.timeout_s or simplify the diagram".toList),
   ("no such file".toList, checkPath),
   ("permission denied".toList, checkPermissions),
   ("is a directory".toList, "Expected a file path, not a directory".toList),
   ("codec can't decode".toList, mustBeUtf8)]

/-- The hint of the first pattern that occurs in the message, whatever the case of its letters. -/
def hintFor (message : Text) : Option Text :=
  (hints.find? fun h => Text.occursIn h.1 (Text.toLower message)).map (·.2)

/-- The hint given with a fault. -/
def Fault.hint (f : Fault) : Option Text :=
  match f with
  | .file .notFound _ => some checkPath
  | .file .denied _ => some checkPermissions
  | .undecodable _ => some mustBeUtf8
  | _ => hintFor f.message

/-- The message with its hint behind it, on one line. -/
def Fault.report (f : Fault) : Text :=
  match f.hint with
  | none => f.message
  | some hint => f.message ++ " | Suggestion: ".toList ++ hint

end Yuml
