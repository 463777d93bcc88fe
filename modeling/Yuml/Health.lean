import Yuml.Diagram
import Yuml.Settings.Store

/-!
# Health of an installation

Five checks say whether the program can do its work: the version of the language it runs in, the
packages it needs, whether it compiles a small document, whether the renderer can be started, and
whether the settings make sense. Compiling needs the first three, which are therefore CRITICAL;
rendering needs the renderer as well.
-/

namespace Yuml

/-- The outcome of one check. -/
structure HealthCheck where
  name : Text
  passed : Bool
  message : Text
  details : Option Text
  deriving DecidableEq, Repr

namespace Health

/-! ## 1. The renderer -/

/-- How the renderer is asked for its version. -/
def rendererCall (binary : Text) : Call :=
  ⟨[binary, "-V".toList], none, .ofInt 5⟩

/-- The outcome of the check of the renderer. -/
def ofRenderer (passed : Bool) (message : Text) (details : Option Text) : HealthCheck :=
  ⟨"Graphviz".toList, passed, message, details⟩

/-- What a program has written, as a text. -/
def writtenText (bytes : List UInt8) : Except Fault Text :=
  match Utf8.decode bytes with
  | .ok text => .ok (Text.universalNewlines text)
  | .error cause => .error (.undecodable cause)

/-- The outcome for a renderer that ends with a code and a banner. -/
def ofBanner (binary : Text) (code : Int) (banner : Text) : HealthCheck :=
  if code = 0 then ofRenderer true ((Text.splitLines banner).headD "Available".toList) none
  else
    ofRenderer false (['\''] ++ binary ++ " -V' exited with ".toList ++ Text.ofInt code)
      (if banner.isEmpty then none else some banner)

/-- Whether the renderer can be started, and which one it is. It writes its banner as an error;
    where it writes none, the banner is what it writes otherwise. -/
def renderer (binary : Text) (outcome : ProgramOutcome) : Except Fault HealthCheck :=
  match outcome with
  | .missing =>
    .ok (ofRenderer false (['\''] ++ binary ++ "' not found".toList)
      (some "Install Graphviz (https://graphviz.org); only 'yumldot render' needs it".toList))
  | .timeout => .ok (ofRenderer false (['\''] ++ binary ++ " -V' timed out".toList) none)
  | .exited code stdout stderr => do
    let out ← writtenText stdout
    let err ← writtenText stderr
    return ofBanner binary code (Text.trim (if err.isEmpty then out else err))

/-! ## 2. The language and the packages -/

/-- The oldest version of the language that will do. -/
def oldestVersion : List Nat := [3, 9]

/-- The text of a version. -/
def versionText (version : List Nat) : Text := Text.joinWith ['.'] (version.map Text.ofNat)

/-- Whether the version of the language is recent enough; the first two numbers decide. -/
def language (version : List Nat) : HealthCheck :=
  let shown := versionText (version.take 3)
  let oldest := versionText oldestVersion
  let outcome := HealthCheck.mk "Python Version".toList
  if !(version.take 2).lex oldestVersion then outcome true shown none
  else outcome false (shown ++ " (requires >= ".toList ++ oldest ++ [')'])
    (some ("Upgrade Python to ".toList ++ oldest ++ " or higher".toList))

/-- A package that the program needs, and what for. -/
structure Package where
  name : Text
  purpose : Text
  deriving DecidableEq, Repr

/-- The packages that the program needs. -/
def neededPackages : List Package :=
  [⟨"click".toList, "CLI framework".toList⟩, ⟨"rich".toList, "Terminal formatting".toList⟩,
   ⟨"pydantic".toList, "Config validation".toList⟩, ⟨"structlog".toList, "Logging".toList⟩,
   ⟨"toml".toList, "Config files".toList⟩]

/-- The packages that the program needs, with whether each is installed. -/
def installed (missing : List Text) : List (Package × Bool) :=
  neededPackages.map fun p => (p, !missing.contains p.name)

/-- Whether all packages are installed. -/
def packages (missing : List Text) : HealthCheck :=
  let lost := neededPackages.filter fun p => missing.contains p.name
  let outcome := HealthCheck.mk "Dependencies".toList
  let count := Text.ofNat neededPackages.length
  if lost.isEmpty then outcome true (count ++ '/' :: count ++ " packages available".toList) none
  else outcome false (Text.ofNat lost.length ++ " required packages missing".toList)
    (some ("Missing: ".toList ++ Text.joinWith ", ".toList (lost.map (·.name))))

/-! ## 3. The compiler and the settings -/

/-- A document of two nodes and an edge. -/
def sample : Text := "// \x7btype:activity\x7d\n(start)->(end)".toList

/-- The outcome for what the sample has compiled to. -/
def ofSample (chart : Text) : HealthCheck :=
  let outcome := HealthCheck.mk "Compiler".toList
  if Text.occursIn "A1 -> A2".toList chart then outcome true "OK".toList none
  else outcome false "Self-test produced unexpected output".toList
    (some (if chart.isEmpty then "(empty)".toList else chart))

/-- Whether the sample compiles as it should. -/
def compiler : Except Fault HealthCheck := (compileText sample false).map ofSample

/-- The settings, and what is odd about them. -/
def settings (w : World) (path : Option Text) : Except Fault HealthCheck := do
  let (s, _) ← Settings.load w path
  let warnings ← s.warnings w
  let outcome := HealthCheck.mk "Configuration".toList true
  if warnings.isEmpty then
    return outcome "OK".toList
      (some ("Renderer: ".toList ++ s.renderer.binary ++ " -T".toList ++ s.renderer.format))
  else return outcome "Loaded with warnings".toList (some (Text.joinWith ['\n'] warnings))

/-! ## 4. All checks -/

/-- The outcomes of all checks. -/
structure Report where
  language : HealthCheck
  packages : HealthCheck
  compiler : HealthCheck
  renderer : HealthCheck
  settings : HealthCheck
  deriving DecidableEq, Repr

/-- The checks in the order in which they are shown. -/
def Report.checks (r : Report) : List HealthCheck :=
  [r.language, r.packages, r.compiler, r.renderer, r.settings]

/-- Whether all checks have passed. -/
def Report.allPassed (r : Report) : Bool := r.checks.all (·.passed)

/-- Whether the checks have passed without which nothing works. -/
def Report.criticalPassed (r : Report) : Bool :=
  r.language.passed && r.packages.passed && r.compiler.passed

/-- Run all checks. -/
def report (w : World) (path : Option Text) (binary : Text) : Except Fault Report := do
  let compiler ← compiler
  let renderer ← renderer binary w.outcome
  let settings ← settings w path
  return ⟨language w.version, packages w.missing, compiler, renderer, settings⟩

end Health

end Yuml
