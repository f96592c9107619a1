import DataGrammar.Description
import DataGrammar.Text.Cursor
/-!
# Attempts and how they combine

A step tries to match something at a cursor. Its attempt tells whether that worked, where it
stopped and what it gave.

* `Step.sequence` matches parts in order, with a separator between any two.
* `Step.choice` takes the first branch that matches.
* `Step.repetition` matches an item again and again.

None of them knows how its parts match: they are steps themselves. Nor does any of them know the
effects `m` of its parts: a part can abort the run, and none of them can stop it from doing so.
-/

namespace DataGrammar

/-- What came of trying to match. -/
structure Attempt where
  /-- Whether it matched. -/
  success : Bool
  /-- Where it stopped. -/
  cursor : Cursor
  /-- The result; after a failure, what there is of it. -/
  value : Value
  deriving DecidableEq, Repr, Inhabited

/-- Try to match at a cursor, with effects `m`. -/
abbrev Step (m : Type → Type) := Cursor → m Attempt

/-- A component of a sequence or a branch of a choice. -/
structure Part (m : Type → Type) where
  /-- The key of its value. -/
  name : Option String
  /-- Its value replaces that of the sequence around it. -/
  collapse : Bool
  /-- How it matches. -/
  step : Step m

namespace Step

variable {m : Type → Type} [Monad m]

/-- The default, matched at the start, in place of a failure. -/
def orDefault (default : Option Value) (start : Cursor) (failure : Attempt) : Attempt :=
  match default with
  | some value => ⟨true, start, value⟩
  | none => failure

/-- What a sequence has gathered. -/
structure Gathered where
  /-- The values of named components. -/
  fields : List (String × Value)
  /-- The value of the last component that collapses. -/
  collapsed : Option Value

namespace Gathered

/-- Nothing. -/
def nothing : Gathered := ⟨[], none⟩

/-- Add what a component gave; a failed one never collapses. -/
def add (g : Gathered) (part : Part m) (item : Attempt) : Gathered where
  fields := match part.name with
    | some name => Keyed.insert name item.value g.fields
    | none => g.fields
  collapsed := if item.success && part.collapse then some item.value else g.collapsed

/-- The value of a sequence that matched. -/
def value (g : Gathered) : Value := g.collapsed.getD (.map g.fields)

end Gathered

/-- A separator, if there is one. -/
def optional (separator : Option (Step m)) : Step m :=
  separator.getD fun c => pure ⟨true, c, .null⟩

/-- Match parts in order; the separator comes between two parts, never after the last one. -/
def sequenceFrom (separator : Option (Step m)) : List (Part m) → Gathered → Step m
  | [], g, c => pure ⟨true, c, g.value⟩
  | part :: rest, g, c => do
    let item ← part.step c
    let g := g.add part item
    if !item.success then
      return ⟨false, item.cursor, .map g.fields⟩
    let between ← optional (if rest.isEmpty then none else separator) item.cursor
    if between.success then sequenceFrom separator rest g between.cursor
    else return ⟨false, between.cursor, .map g.fields⟩

/-- A sequence. -/
def sequence (separator : Option (Step m)) (parts : List (Part m)) (default : Option Value) :
    Step m :=
  fun start => do
    let a ← sequenceFrom separator parts .nothing start
    return if a.success then a else orDefault default start a

/-- A branch of a choice with its key. -/
structure Branch (m : Type → Type) where
  key : String
  step : Step m

/-- The branches with their keys: the name, or `property` and the number from 1 on. -/
def branches : (number : Nat) → List (Part m) → List (Branch m)
  | _, [] => []
  | number, part :: parts =>
    ⟨part.name.getD s!"property{number}", part.step⟩ :: branches (number + 1) parts

/-- The value of a choice: `before` are the keys of the branches that failed, the last one first,
and `after` those of the branches that were not tried. -/
def nest (nesting : Nesting) (before : List String) (key : String) (value : Value)
    (after : List String) : Value :=
  match nesting with
  | .none => value
  | .matched => .map [(key, value)]
  | .full =>
    .ofEntries (before.reverse.map (·, .null) ++ (key, value) :: after.map (·, .null))

/-- Try branches from `start` on; `furthest` is the failure that got furthest so far, the earliest
of those. -/
def choiceFrom (nesting : Nesting) (start : Cursor) :
    List (Branch m) → (before : List String) → (furthest : Attempt) → m Attempt
  | [], _, furthest => pure furthest
  | branch :: rest, before, furthest => do
    let item ← branch.step start
    if item.success then
      return ⟨true, item.cursor, nest nesting before branch.key item.value (rest.map Branch.key)⟩
    else
      choiceFrom nesting start rest (branch.key :: before)
        (if furthest.cursor.offset < item.cursor.offset then item else furthest)

/-- An ordered choice. -/
def choice (nesting : Nesting) (parts : List (Part m)) (default : Option Value) : Step m :=
  fun start => do
    let a ← choiceFrom nesting start (branches 1 parts) [] ⟨false, start, .null⟩
    return if a.success then a else orDefault default start a

/-- The end of a repetition with `items`, the last one first, up to `commit`. If they are too few,
it fails at `stop`, and `rest` is what the failed item left, if anything. -/
def finish (least : Nat) (items : List Value) (commit stop : Cursor) (rest : Value) : Attempt :=
  if least ≤ items.length then ⟨true, commit, .list items.reverse⟩
  else ⟨false, stop, .list (items.reverse ++ if rest.isNull then [] else [rest])⟩

/-- Match an item up to `tries` times. Each item and the separator after it are committed. Without
an upper bound (`endless`), a round that passed nothing is the last one, once there are enough
items. -/
def repetitionFrom (item : Step m) (separator : Option (Step m)) (least : Nat)
    (endless : Bool) : (tries : Nat) → (items : List Value) → Step m
  | 0, items, c => pure (finish least items c c .null)
  | tries + 1, items, c => do
    let a ← item c
    if !a.success then
      return finish least items c a.cursor a.value
    let items := a.value :: items
    let after ← optional separator a.cursor
    if !after.success then
      return finish least items a.cursor after.cursor .null
    else if endless && after.cursor.offset == c.offset && least ≤ items.length then
      return finish least items after.cursor after.cursor .null
    else repetitionFrom item separator least endless tries items after.cursor

/-- A repetition. Without an upper bound, every round but the last passes a character once there
are enough items, which bounds the rounds. -/
def repetition (item : Step m) (separator : Option (Step m)) (least : Nat)
    (most : Option Nat) : Step m :=
  fun start =>
    match most with
    | some most => repetitionFrom item separator least false most [] start
    | none =>
      repetitionFrom item separator least true (max least 1 + start.ahead.length + 1) [] start

end Step
end DataGrammar
