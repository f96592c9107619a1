import DataGrammar.Value
/-!
# Descriptions

A description is one grammar construct as data: a pattern, a reference to a rule, a sequence,
an ordered choice or a repetition. It is inert; `DataGrammar.Parser` makes it executable.

* `Reference.ofText` reads the reference form `identifier[:key][::]`.
* `Nesting.ofKeyword` reads a nesting keyword.
* `Description.slashed` is the pattern that is written between slashes.
* `Description` is the construct itself, with decidable equality.
-/

namespace DataGrammar

/-- A reference to a rule. -/
structure Reference where
  /-- The rule referred to. -/
  target : String
  /-- The key of the result in the enclosing sequence or choice. -/
  key : Option String
  /-- The result replaces the result of the enclosing sequence. -/
  collapse : Bool
  deriving DecidableEq, Repr, Inhabited

/-- The parts of a list between the places where `separator` stands; never empty. -/
def splitAt {α : Type} [DecidableEq α] (separator : α) : List α → List (List α)
  | [] => [[]]
  | c :: rest =>
    if c = separator then [] :: splitAt separator rest
    else match splitAt separator rest with
      | [] => [[c]]
      | part :: parts => (c :: part) :: parts

/-- Read a reference: `id` has itself as its key, `id:alias` renames the key, `id:` drops it,
and a text that ends in `::` collapses. -/
def Reference.ofText (text : String) : Reference :=
  let collapse := [':', ':'].isSuffixOf text.toList
  match splitAt ':' text.toList with
  | [] => ⟨text, some text, collapse⟩
  | [target] => ⟨.ofList target, some (.ofList target), collapse⟩
  | target :: [] :: _ => ⟨.ofList target, none, collapse⟩
  | target :: key :: _ => ⟨.ofList target, some (.ofList key), collapse⟩

/-- How a choice wraps the value of the branch that matched. -/
inductive Nesting where
  /-- The value itself. -/
  | none
  /-- A map with one entry, the value under the branch's key. -/
  | matched
  /-- A map with an entry for every branch, null for all but the one that matched. -/
  | full
  deriving DecidableEq, Repr, Inhabited

/-- Read a nesting keyword; ASCII case does not count, and any other word means no nesting. -/
def Nesting.ofKeyword (keyword : String) : Nesting :=
  let word := keyword.map Char.toLower
  if word = "match" ∨ word = "matchonly" then .matched
  else if word = "full" ∨ word = "object" ∨ word = "fullobject" then .full
  else .none

/-- One grammar construct. Where a default is present, the construct is optional. -/
inductive Description where
  /-- A regular expression matched at the cursor. -/
  | pattern (source : String)
  /-- A reference to a rule. -/
  | reference (ref : Reference)
  /-- Parts matched in order, with a separator between any two of them. -/
  | sequence (parts : List Description) (separator : Option Description)
      (name : Option String) (default : Option Value)
  /-- Branches tried in order. -/
  | choice (branches : List Description) (nesting : Nesting)
      (name : Option String) (default : Option Value)
  /-- An item matched between `least` and `most` times; `none` is no upper bound. -/
  | repetition (item : Description) (separator : Option Description)
      (least : Nat) (most : Option Nat) (name : Option String)
  deriving Repr, Inhabited

namespace Description

/-- A reference from its text. -/
def ref (text : String) : Description := .reference (.ofText text)

/-- Each escaped slash, read from the left, is a slash. -/
def unslash : List Char → List Char
  | [] => []
  | '\\' :: '/' :: rest => '/' :: unslash rest
  | c :: rest => c :: unslash rest

/-- The pattern written between slashes. -/
def slashed (body : String) : Description := .pattern (.ofList (unslash body.toList))

/-- A sequence with no separator, name or default. -/
def series (parts : List Description) : Description := .sequence parts none none none

mutual

/-- Equality of descriptions is decided by walking both. -/
def decEq : (a b : Description) → Decidable (a = b)
  | .pattern p, .pattern q => decidable_of_iff (p = q) (by simp)
  | .reference r, .reference s => decidable_of_iff (r = s) (by simp)
  | .sequence xs s n d, .sequence ys t m e =>
    match decEqList xs ys, decEqOption s t with
    | isTrue h, isTrue h' => decidable_of_iff (n = m ∧ d = e) (by simp [h, h'])
    | isFalse h, _ => isFalse (by simp [h])
    | _, isFalse h => isFalse (by simp [h])
  | .choice xs s n d, .choice ys t m e =>
    match decEqList xs ys with
    | isTrue h => decidable_of_iff (s = t ∧ n = m ∧ d = e) (by simp [h])
    | isFalse h => isFalse (by simp [h])
  | .repetition x s l m n, .repetition y t l' m' n' =>
    match decEq x y, decEqOption s t with
    | isTrue h, isTrue h' => decidable_of_iff (l = l' ∧ m = m' ∧ n = n') (by simp [h, h'])
    | isFalse h, _ => isFalse (by simp [h])
    | _, isFalse h => isFalse (by simp [h])
  | .pattern _, .reference _ | .pattern _, .sequence .. => isFalse nofun
  | .pattern _, .choice .. | .pattern _, .repetition .. => isFalse nofun
  | .reference _, .pattern _ | .reference _, .sequence .. => isFalse nofun
  | .reference _, .choice .. | .reference _, .repetition .. => isFalse nofun
  | .sequence .., .pattern _ | .sequence .., .reference _ => isFalse nofun
  | .sequence .., .choice .. | .sequence .., .repetition .. => isFalse nofun
  | .choice .., .pattern _ | .choice .., .reference _ => isFalse nofun
  | .choice .., .sequence .. | .choice .., .repetition .. => isFalse nofun
  | .repetition .., .pattern _ | .repetition .., .reference _ => isFalse nofun
  | .repetition .., .sequence .. | .repetition .., .choice .. => isFalse nofun

/-- Equality of lists of descriptions. -/
def decEqList : (xs ys : List Description) → Decidable (xs = ys)
  | [], [] => isTrue rfl
  | x :: xs, y :: ys =>
    match decEq x y, decEqList xs ys with
    | isTrue h, isTrue h' => isTrue (by rw [h, h'])
    | isFalse h, _ => isFalse (by simp [h])
    | _, isFalse h => isFalse (by simp [h])
  | [], _ :: _ | _ :: _, [] => isFalse nofun

/-- Equality of separators. -/
def decEqOption : (x y : Option Description) → Decidable (x = y)
  | none, none => isTrue rfl
  | some x, some y =>
    match decEq x y with
    | isTrue h => isTrue (by rw [h])
    | isFalse h => isFalse (by simp [h])
  | none, some _ | some _, none => isFalse nofun

end

instance : DecidableEq Description := decEq

end Description
end DataGrammar
