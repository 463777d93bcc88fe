import Yuml.Event
import Yuml.Text.LetterCase

/-!
# The journal

What happens is written to a journal, one record for each happening. A journal has a THRESHOLD, set
by the name of a level; a record is kept if its level is not below the threshold.
-/

namespace Yuml

/-- The rank of a level among all levels. -/
def Level.rank : Level → Nat
  | .debug => 10
  | .info => 20
  | .warning => 30
  | .error => 40
  | .critical => 50

namespace Journal

/-- The names by which a threshold is set, with their ranks. -/
def thresholds : List (Text × Nat) :=
  [("DEBUG".toList, Level.debug.rank), ("INFO".toList, Level.info.rank),
   ("WARNING".toList, Level.warning.rank), ("WARN".toList, Level.warning.rank),
   ("ERROR".toList, Level.error.rank), ("CRITICAL".toList, Level.critical.rank),
   ("FATAL".toList, Level.critical.rank), ("NOTSET".toList, 0)]

/-- The threshold of a name in either case; a name that is not known means warnings. -/
def threshold (name : Text) : Nat :=
  ((thresholds.find? fun t => t.1 == Text.toUpper name).map (·.2)).getD Level.warning.rank

/-- A record: how serious it is, what has happened, who says so, and further fields. -/
structure Record (α : Type) where
  level : Level
  event : Text
  logger : Text
  fields : List (Text × α)

/-- The records that are kept. -/
def kept (threshold : Nat) (records : List (Record α)) : List (Record α) :=
  records.filter fun r => threshold ≤ r.level.rank

/-- The form in which records are written. -/
inductive Form where
  | json
  | lines
  deriving DecidableEq, Repr

/-- What is done to a record on its way into the journal. -/
inductive Step where
  | dropBelowThreshold
  | addLogger
  | addLevel
  | fillPlaceholders
  | addTime
  | addStack
  | addException
  | decodeBytes
  | write (form : Form)
  deriving DecidableEq, Repr

/-- The steps in their order. -/
def steps (form : Form) : List Step :=
  [.dropBelowThreshold, .addLogger, .addLevel, .fillPlaceholders, .addTime, .addStack,
   .addException, .decodeBytes, .write form]

/-- The level that a name of a kind of record stands for. -/
def levelNamed (name : Text) : Level :=
  if name = "debug".toList then .debug
  else if name = "info".toList then .info
  else if name = "error".toList ∨ name = "exception".toList then .error
  else if name = "critical".toList ∨ name = "fatal".toList then .critical
  else .warning

end Journal

end Yuml
