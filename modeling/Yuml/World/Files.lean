import Yuml.Fault
import Yuml.World.Path

/-!
# Files and directories

A tree of files is a list of entries, each under the names that lead to it from the working
directory. The working directory, the directories above it and the root are always there; what lies
above the working directory is under names that begin with `..`, and what lies below the root is
under names that begin with a slash. A path is followed name by name (`Files.follow`): every name
before the last has to be a directory, and `..` goes back.

What reads, makes and writes one entry answers with the fault of the file system, if there is one,
and with the path as it was given. A path that is written with a slash at its end does not lead to a
file, although it has the same names as the path without that slash.

What takes several steps is WORK on the tree (`Files.Work`): where a step fails, those before it
stay done.
-/

namespace Yuml

/-- What stands under a name. -/
inductive Entry where
  | directory
  | file (bytes : List UInt8)
  deriving DecidableEq, Repr

/-- A tree of files and directories: what stands under which names. -/
abbrev Files := List (List Text × Entry)

/-- Where following a path ends. -/
inductive Found where
  /-- At an entry. -/
  | entry (names : List Text) (e : Entry)
  /-- In a directory, at a name that is not there. -/
  | free (names : List Text)
  /-- Before the last name, at a name that is not there. -/
  | lost
  /-- Before the last name, at a file. -/
  | blocked
  deriving DecidableEq, Repr

namespace Files

/-! ## 1. Following a path -/

/-- The name of the directory above. -/
def above : Text := ['.', '.']

/-- The names of the root. -/
def rootNames : List Text := [['/']]

/-- Whether some names are those of a directory that is always there. -/
def isFixed (names : List Text) : Bool := names.all (· == above) || names == rootNames

/-- What stands under some names. -/
def get? (fs : Files) (names : List Text) : Option Entry :=
  if isFixed names then some .directory else (fs.find? (·.1 == names)).map (·.2)

/-- The tree with an entry put under some names. -/
def put (fs : Files) (names : List Text) (e : Entry) : Files :=
  if fs.any (·.1 == names) then fs.map fun x => if x.1 == names then (names, e) else x
  else fs ++ [(names, e)]

/-- What has been put under some names is found under them. -/
theorem get?_put_self (fs : Files) {names : List Text} (h : isFixed names = false) (e : Entry) :
    get? (put fs names e) names = some e := by
  simp only [get?, h, Bool.false_eq_true, if_false, put]
  split
  · next hany =>
    induction fs with
    | nil => simp at hany
    | cons x xs ih =>
      by_cases hx : x.1 = names
      · simp [hx]
      · have hxs : xs.any (·.1 == names) = true := by simpa [hx] using hany
        simpa [hx] using ih hxs
  · next hany =>
    have hnone : fs.find? (·.1 == names) = none := by
      rw [List.find?_eq_none]
      intro x hx hn
      exact hany (List.any_eq_true.2 ⟨x, hx, hn⟩)
    simp [hnone]

/-- Nothing else is touched by putting an entry. -/
theorem get?_put_of_ne (fs : Files) {names other : List Text} (h : other ≠ names) (e : Entry) :
    get? (put fs names e) other = get? fs other := by
  simp only [get?, put]
  split
  · rfl
  · split
    · next hany =>
      clear hany
      induction fs with
      | nil => rfl
      | cons x xs ih =>
        by_cases hx : x.1 = names
        · simpa [hx, Ne.symm h] using ih
        · by_cases ho : x.1 = other
          · simp [ho, h]
          · simpa [hx, ho] using ih
    · simp [List.find?_append, Ne.symm h]

/-- The names one step further. There is nothing above the root. -/
def descend (here : List Text) (name : Text) : List Text :=
  if name = above then
    if here == rootNames then here
    else if here.all (· == above) then here ++ [above]
    else here.dropLast
  else here ++ [name]

/-- Follow names from a directory. -/
def followFrom (fs : Files) (here : List Text) : List Text → Found
  | [] => .entry here .directory
  | [name] =>
    match get? fs (descend here name) with
    | some e => .entry (descend here name) e
    | none => .free (descend here name)
  | name :: more =>
    match get? fs (descend here name) with
    | some .directory => followFrom fs (descend here name) more
    | some (.file _) => .blocked
    | none => .lost

/-- Follow a path from the working directory or from the root. -/
def follow (fs : Files) (p : Path) : Found :=
  followFrom fs (if p.root.isEmpty then [] else rootNames) p.names

/-- Whether something stands at the end of a path. -/
def present (fs : Files) (p : Path) : Bool :=
  match follow fs p with
  | .entry _ _ => true
  | _ => false

/-- Whether a directory stands at the end of a path. -/
def isDirectory (fs : Files) (p : Path) : Bool :=
  match follow fs p with
  | .entry _ .directory => true
  | _ => false

/-! ## 2. Faults -/

/-- There is nothing at the path. -/
def notFound (path : Text) : Fault :=
  .file .notFound [.number 2, .text "No such file or directory".toList, .text path]

/-- A directory stands at the path. -/
def directoryThere (path : Text) : Fault :=
  .file .isDirectory [.number 21, .text "Is a directory".toList, .text path]

/-- A file stands on the way of the path. -/
def fileOnTheWay (path : Text) : Fault :=
  .file .notDirectory [.number 20, .text "Not a directory".toList, .text path]

/-- Something stands at the path already. -/
def alreadyThere (path : Text) : Fault :=
  .file .alreadyExists [.number 17, .text "File exists".toList, .text path]

/-! ## 3. Reading and writing -/

/-- Whether a path, as it is written, leads to a directory or nowhere: it ends with a slash, or with
    a dot behind a slash. -/
def wantsDirectory (shown : Text) : Bool :=
  Text.endsWith ['/'] shown || Text.endsWith ['/', '.'] shown

/-- What stands at a path as it is written; nothing at an empty one. -/
def at? (fs : Files) (shown : Text) : Option Entry :=
  if shown.isEmpty then none
  else match follow fs (Path.ofText shown) with
    | .entry _ (.file bytes) => if wantsDirectory shown then none else some (.file bytes)
    | .entry _ .directory => some .directory
    | _ => none

/-- The bytes of the file at a path; `shown` is the path as it is written. -/
def read (fs : Files) (p : Path) (shown : Text) : Except Fault (List UInt8) :=
  match follow fs p with
  | .entry _ (.file bytes) =>
    if wantsDirectory shown then .error (fileOnTheWay shown) else .ok bytes
  | .entry _ .directory => .error (directoryThere shown)
  | .free _ | .lost => .error (notFound shown)
  | .blocked => .error (fileOnTheWay shown)

/-- The tree with a file of some bytes at a path. -/
def write (fs : Files) (p : Path) (shown : Text) (bytes : List UInt8) : Except Fault Files :=
  match follow fs p with
  | .entry _ .directory => .error (directoryThere shown)
  | .entry names (.file _) =>
    if wantsDirectory shown then .error (fileOnTheWay shown) else .ok (put fs names (.file bytes))
  | .free names =>
    if Text.endsWith ['/'] shown then .error (directoryThere shown)
    else if wantsDirectory shown then .error (notFound shown)
    else .ok (put fs names (.file bytes))
  | .lost => .error (notFound shown)
  | .blocked => .error (fileOnTheWay shown)

/-- The tree with a directory at a path whose parent is there; it may be there already. -/
def makeLast (fs : Files) (p : Path) : Except Fault Files :=
  match follow fs p with
  | .entry _ .directory => .ok fs
  | .entry _ (.file _) => .error (alreadyThere p.text)
  | .free names => .ok (put fs names .directory)
  | .lost => .error (notFound p.text)
  | .blocked => .error (fileOnTheWay p.text)

/-- The path that some names spell. -/
def pathOf : List Text → Path
  | ['/'] :: more => ⟨['/'], more⟩
  | names => ⟨[], names⟩

/-- The files that are new in a tree or differ from those of an older one. -/
def changedSince (fs old : Files) : List (Path × List UInt8) :=
  fs.filterMap fun e =>
    match e.2 with
    | .directory => none
    | .file bytes =>
      if get? old e.1 = some (.file bytes) then none else some (pathOf e.1, bytes)

/-- Whether a path leads out of the working directory at its first name. -/
def leadsOut (p : Path) : Bool := !p.root.isEmpty || p.names.head? == some above

/-! ## 4. Work on a tree -/

/-- Work that changes a tree. It may fail on the way; what was done before that stays done. -/
abbrev Work := EStateM Fault Files

namespace Work

/-- One change of the tree, which is made as a whole or not at all. -/
def change (f : Files → Except Fault Files) : Work Unit := fun fs =>
  match f fs with
  | .ok changed => .ok () changed
  | .error e => .error e fs

/-- Make a directory at the path of a root and some names, the last of them first, and before it
    those on the way to it, if one of them is not there. -/
def makeAll (root : Text) : List Text → Work Unit
  | [] => change (·.makeLast ⟨root, []⟩)
  | name :: before => do
    let p : Path := ⟨root, (name :: before).reverse⟩
    if (← get).follow p = .lost then makeAll root before
    change (·.makeLast p)

/-- Make the directory that a path lies in, and those on the way to it. -/
def makeParent (p : Path) : Work Unit := makeAll p.root p.parent.names.reverse

/-- Put a file of some bytes at a path, with the directories that it lies in. -/
def store (p : Path) (shown : Text) (bytes : List UInt8) : Work Unit := do
  makeParent p
  change (·.write p shown bytes)

/-- The tree after some work, if that succeeds. -/
def after (x : Work Unit) (fs : Files) : Except Fault Files :=
  match x.run fs with
  | .ok _ changed => .ok changed
  | .error f _ => .error f

end Work

/-- The tree with a directory at the path of a root and some names, the last of them first, and at
    every path on the way. -/
def makeAll (fs : Files) (root : Text) (names : List Text) : Except Fault Files :=
  (Work.makeAll root names).after fs

/-- The tree with the directory that a path lies in, and those on the way to it. -/
def makeParent (fs : Files) (p : Path) : Except Fault Files := (Work.makeParent p).after fs

end Files

end Yuml
