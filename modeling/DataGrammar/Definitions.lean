import DataGrammar.Description
/-!
# Definitions

A grammar before compilation: rule names with their descriptions, in ascending name order.
-/

namespace DataGrammar

/-- Rule names with their descriptions; a name occurs once. -/
structure Definitions where
  /-- The rules in ascending order of their names. -/
  rules : List (String × Description)
  /-- The names are strictly ascending. -/
  ascending : Keyed.Ascending rules

namespace Definitions

@[ext] theorem ext {a b : Definitions} (h : a.rules = b.rules) : a = b := by
  cases a; cases b; cases h; rfl

instance : DecidableEq Definitions := fun a b =>
  decidable_of_iff (a.rules = b.rules) ⟨ext, fun h => h ▸ rfl⟩

/-- No rules. -/
def empty : Definitions := ⟨[], List.Pairwise.nil⟩

instance : Inhabited Definitions := ⟨empty⟩

/-- Define a rule, replacing the one that had its name. -/
def insert (d : Definitions) (name : String) (description : Description) : Definitions :=
  ⟨Keyed.insert name description d.rules, Keyed.ascending_insert d.ascending⟩

/-- Define rules one after the other; the last one of each name stays. -/
def ofList (rules : List (String × Description)) : Definitions :=
  ⟨Keyed.ofEntries rules, Keyed.ascending_ofEntries rules⟩

/-- The description of a rule. -/
def get? (d : Definitions) (name : String) : Option Description :=
  Keyed.find? name d.rules

/-- Whether a rule is defined. -/
def contains (d : Definitions) (name : String) : Bool :=
  (d.get? name).isSome

/-- How many rules are defined. -/
def size (d : Definitions) : Nat := d.rules.length

/-- The rule names, ascending. -/
def names (d : Definitions) : List String := d.rules.map Prod.fst

@[simp] theorem get?_empty (name : String) : empty.get? name = none := rfl

theorem get?_insert (d : Definitions) (name other : String) (description : Description) :
    (d.insert name description).get? other =
      if other = name then some description else d.get? other :=
  Keyed.find?_insert ..

end Definitions
end DataGrammar
