import DataGrammar.Keyed
/-!
# Values

A run of a grammar produces an untyped value: terminals give text, repetitions give lists,
sequences and nesting choices give maps. `null` stands for a part that was skipped or failed.
-/

namespace DataGrammar

/-- An untyped result. The entries of a map are a keyed list: `Value.ofEntries` builds them. -/
inductive Value where
  | null
  | text (content : String)
  | list (items : List Value)
  | map (entries : List (String × Value))
  deriving Repr, Inhabited

namespace Value

mutual

/-- Equality of values is decided by walking both. -/
def decEq : (a b : Value) → Decidable (a = b)
  | .null, .null => isTrue rfl
  | .text s, .text t => decidable_of_iff (s = t) (by simp)
  | .list xs, .list ys =>
    match decEqItems xs ys with
    | isTrue h => isTrue (by rw [h])
    | isFalse h => isFalse (by simpa using h)
  | .map xs, .map ys =>
    match decEqEntries xs ys with
    | isTrue h => isTrue (by rw [h])
    | isFalse h => isFalse (by simpa using h)
  | .null, .text _ | .null, .list _ | .null, .map _ => isFalse nofun
  | .text _, .null | .text _, .list _ | .text _, .map _ => isFalse nofun
  | .list _, .null | .list _, .text _ | .list _, .map _ => isFalse nofun
  | .map _, .null | .map _, .text _ | .map _, .list _ => isFalse nofun

/-- Equality of lists of values. -/
def decEqItems : (xs ys : List Value) → Decidable (xs = ys)
  | [], [] => isTrue rfl
  | x :: xs, y :: ys =>
    match decEq x y, decEqItems xs ys with
    | isTrue h, isTrue h' => isTrue (by rw [h, h'])
    | isFalse h, _ => isFalse (by simp [h])
    | _, isFalse h => isFalse (by simp [h])
  | [], _ :: _ | _ :: _, [] => isFalse nofun

/-- Equality of the entries of maps. -/
def decEqEntries : (xs ys : List (String × Value)) → Decidable (xs = ys)
  | [], [] => isTrue rfl
  | (k, x) :: xs, (l, y) :: ys =>
    match decEq x y, decEqEntries xs ys with
    | isTrue h, isTrue h' => decidable_of_iff (k = l) (by simp [h, h'])
    | isFalse h, _ => isFalse (by simp [h])
    | _, isFalse h => isFalse (by simp [h])
  | [], _ :: _ | _ :: _, [] => isFalse nofun

end

instance : DecidableEq Value := decEq

/-- The name of the kind of value. -/
def typeName : Value → String
  | .null => "Null"
  | .text _ => "String"
  | .list _ => "List"
  | .map _ => "Map"

/-- Whether this is `null`. -/
def isNull : Value → Bool
  | .null => true
  | _ => false

/-- The content of a text. -/
def text? : Value → Option String
  | .text s => some s
  | _ => none

/-- The items of a list. -/
def list? : Value → Option (List Value)
  | .list items => some items
  | _ => none

/-- The entries of a map. -/
def map? : Value → Option (List (String × Value))
  | .map entries => some entries
  | _ => none

/-- The value under a key, when this is a map that has it. -/
def get? (v : Value) (key : String) : Option Value :=
  v.map?.bind (Keyed.find? key)

/-- A map from entries in any order; the last entry of each key stays. -/
def ofEntries (entries : List (String × Value)) : Value :=
  .map (Keyed.ofEntries entries)

mutual

/-- Every map inside has its keys in ascending order. -/
def Ordered : Value → Prop
  | .null => True
  | .text _ => True
  | .list items => OrderedItems items
  | .map entries => Keyed.Ascending entries ∧ OrderedEntries entries

/-- Every item is `Ordered`. -/
def OrderedItems : List Value → Prop
  | [] => True
  | v :: rest => v.Ordered ∧ OrderedItems rest

/-- Every entry's value is `Ordered`. -/
def OrderedEntries : List (String × Value) → Prop
  | [] => True
  | (_, v) :: rest => v.Ordered ∧ OrderedEntries rest

end

end Value
end DataGrammar
