import Yuml.Text.Basic

/-!
# Arguments of a command line

Arguments are read from the left by what a command accepts (`Accepted`).

* An option has a long name, which is given behind two hyphens, and may have a short one of one
  letter, behind one hyphen. Short names may stand together behind one hyphen.
* An option with a value takes it from behind an equals sign (long names), from what is left of the
  argument (short names), or from the next argument, whatever that looks like.
* All other arguments are operands, and so is a lone hyphen; behind `--` there are only operands.
  A command may end its options at its first operand.

Reading fails on an option that is not accepted, on one that lacks its value, and on a value for an
option without.
-/

namespace Yuml.Command

/-- An option that a command accepts. -/
structure Accepted where
  name : Text
  short : Option Char
  takesValue : Bool
  deriving DecidableEq, Repr

/-- An option that was given, with its value if it takes one. -/
structure Given where
  name : Text
  value : Option Text
  deriving DecidableEq, Repr

/-- The arguments of a command line, read: its options and its operands, both in order. -/
structure Arguments where
  options : List Given
  operands : List Text
  deriving DecidableEq, Repr

namespace Arguments

/-! ## 1. One argument -/

/-- What one argument gives: some options and, if the last of them has still to get its value, the
    name of that one. -/
structure Reading where
  options : List Given
  pending : Option Text
  deriving DecidableEq, Repr

/-- The options that short names behind one hyphen stand for. -/
def readShort (accepted : List Accepted) : Text → Option Reading
  | [] => some ⟨[], none⟩
  | c :: r =>
    match accepted.find? fun a => a.short == some c with
    | none => none
    | some a =>
      if a.takesValue then
        if r.isEmpty then some ⟨[], some a.name⟩ else some ⟨[⟨a.name, some r⟩], none⟩
      else
        (readShort accepted r).map fun x => ⟨⟨a.name, none⟩ :: x.options, x.pending⟩

/-- The option that a long name stands for, with the value behind an equals sign. -/
def readLong (a : Accepted) (value : Option Text) : Option Reading :=
  if a.takesValue then
    match value with
    | some v => some ⟨[⟨a.name, some v⟩], none⟩
    | none => some ⟨[], some a.name⟩
  else if value.isNone then some ⟨[⟨a.name, none⟩], none⟩
  else none

/-- What stands behind the first equals sign, if there is one. -/
def behindEquals (s : Text) : Option Text :=
  match s.dropWhile (· != '=') with
  | [] => none
  | _ :: r => some r

/-- The options that an argument with a hyphen in front stands for. -/
def readOption (accepted : List Accepted) (s : Text) : Option Reading :=
  let name := s.takeWhile (· != '=')
  match accepted.find? fun a => "--".toList ++ a.name == name with
  | some a => readLong a (behindEquals s)
  | none => if Text.startsWith "--".toList s then none else readShort accepted (s.drop 1)

/-- Whether an argument stands for options. -/
def isOption (s : Text) : Bool := Text.startsWith ['-'] s && 1 < s.length

/-! ## 2. All arguments -/

/-- The arguments with some options in front. -/
def withOptions (given : List Given) (a : Arguments) : Arguments :=
  { a with options := given ++ a.options }

/-- The arguments with an operand in front. -/
def withOperand (s : Text) (a : Arguments) : Arguments :=
  { a with operands := s :: a.operands }

/-- Read arguments. `mixed` says that options may stand behind operands. -/
def read (accepted : List Accepted) (mixed : Bool) : List Text → Option Arguments
  | [] => some ⟨[], []⟩
  | s :: r =>
    if s = "--".toList then some ⟨[], r⟩
    else if isOption s then
      match readOption accepted s with
      | none => none
      | some ⟨given, none⟩ => (read accepted mixed r).map (withOptions given)
      | some ⟨given, some name⟩ =>
        match r with
        | [] => none
        | value :: r =>
          (read accepted mixed r).map (withOptions (given ++ [⟨name, some value⟩]))
    else if mixed then (read accepted mixed r).map (withOperand s)
    else some ⟨[], s :: r⟩

/-! ## 3. Looking up -/

/-- Whether an option was given. -/
def has (a : Arguments) (name : String) : Bool := a.options.any (·.name == name.toList)

/-- The value of an option; of several the last one counts. -/
def value? (a : Arguments) (name : String) : Option Text :=
  (a.options.reverse.find? (·.name == name.toList)).bind (·.value)

/-- Which of two options was given first, if one was. -/
def first? (a : Arguments) (names : List String) : Option Text :=
  (a.options.find? fun g => names.any fun n => g.name == n.toList).map (·.name)

end Arguments

end Yuml.Command
