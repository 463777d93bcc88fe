import Yuml.Settings
import Yuml.Settings.Toml.Obstacle

/-!
# Settings files: what is read

A settings file gives FIELDS: values by name, of which some are tables of fields themselves. While
it is read one value is open, and a route leads to it from the outermost table (`valueAt?`,
`setAt`). Main statement: what is put at the end of a route is found there (`valueAt?_setAt`).
-/

namespace Yuml.Toml

/-- The fields of a table. -/
abbrev Fields := List (Text × Value)

/-- How a file can be malformed. -/
inductive Malformed where
  /-- It is not written as a settings file. -/
  | unreadable
  /-- It cannot be loaded at all. -/
  | blocked (cause : Obstacle)
  deriving DecidableEq, Repr

/-- A value that has to be there for a file to be readable. -/
def orUnreadable : Option α → Except Malformed α
  | some a => .ok a
  | none => .error .unreadable

/-- Stop at an obstacle. -/
def block (cause : Obstacle) : Except Malformed α := .error (.blocked cause)

/-- Whether a character is a quote of either kind. -/
def isQuote (c : Char) : Bool := c == '"' || c == '\''

/-- Whether a text, given backwards, ends in an odd number of backslashes: one that protects what
    follows. -/
def protects (backwards : Text) : Bool := (backwards.takeWhile (· == '\\')).length % 2 == 1

/-- Whether a text ends in a backslash that protects what follows. -/
def endsProtecting (s : Text) : Bool := protects s.reverse

/-! ## 1. Fields -/

/-- The value of a field. -/
def get? (fields : Fields) (key : Text) : Option Value :=
  (fields.find? fun e => e.1 == key).map (·.2)

/-- The fields with a field changed, or with one more behind them. -/
def put (fields : Fields) (key : Text) (v : Value) : Fields :=
  if (get? fields key).isSome then fields.map fun e => if e.1 == key then (key, v) else e
  else fields ++ [(key, v)]

/-- What has been put under a key is found under it. -/
theorem get?_put_key (fields : Fields) (key : Text) (v : Value) :
    get? (put fields key v) key = some v := by
  unfold put
  split
  · next h =>
    induction fields with
    | nil => simp [get?] at h
    | cons e fields ih =>
      by_cases he : e.1 = key
      · simp [get?, he]
      · have hf : (get? fields key).isSome := by simpa [get?, he] using h
        simpa [get?, he] using ih hf
  · next h =>
    have hnone : fields.find? (·.1 == key) = none := by
      rw [List.find?_eq_none]
      rintro ⟨a, b⟩ hx hn
      obtain rfl : a = key := by simpa using hn
      exact h (by simpa [get?] using ⟨b, hx⟩)
    simp [get?, hnone]

/-- A list with its last item changed. -/
def putLast (items : List Value) (v : Value) : List Value := items.dropLast ++ [v]

theorem getLast?_putLast (items : List Value) (v : Value) :
    (putLast items v).getLast? = some v := by
  simp [putLast]

/-! ## 2. Routes -/

/-- A step from a value to one inside it: to a field of a table, or to the last item of a list. -/
inductive Step where
  | field (key : Text)
  | last
  deriving DecidableEq, Repr

/-- The value at the end of a route. -/
def valueAt? : (route : List Step) → Value → Option Value
  | [], v => some v
  | .field key :: route, .table _ fields => (get? fields key).bind (valueAt? route)
  | .last :: route, .list items => items.getLast?.bind (valueAt? route)
  | _ :: _, _ => none

/-- A value with the one at the end of a route replaced. -/
def setAt (new : Value) : (route : List Step) → Value → Value
  | [], _ => new
  | .field key :: route, .table inBraces fields =>
    match get? fields key with
    | some v => .table inBraces (put fields key (setAt new route v))
    | none => .table inBraces fields
  | .last :: route, .list items =>
    match items.getLast? with
    | some v => .list (putLast items (setAt new route v))
    | none => .list items
  | _ :: _, v => v

/-- **What is put at the end of a route is found there.** -/
theorem valueAt?_setAt (new : Value) : ∀ (route : List Step) (v : Value),
    (valueAt? route v).isSome → valueAt? route (setAt new route v) = some new
  | [], _, _ => rfl
  | .field key :: route, .table inBraces fields, h => by
    cases hv : get? fields key with
    | none => simp [valueAt?, hv] at h
    | some v =>
      simp only [valueAt?, hv, Option.bind_some] at h
      simp only [setAt, hv, valueAt?, get?_put_key, Option.bind_some]
      exact valueAt?_setAt new route v h
  | .last :: route, .list items, h => by
    cases hv : items.getLast? with
    | none => simp [valueAt?, hv] at h
    | some v =>
      simp only [valueAt?, hv, Option.bind_some] at h
      simp only [setAt, hv, valueAt?, getLast?_putLast, Option.bind_some]
      exact valueAt?_setAt new route v h

end Yuml.Toml
