import DataGrammar.Description
/-!
# Drafts

A description object is read entry by entry. What has been read so far is a draft, and
`Draft.describe` turns it into a description: exactly one entry must say which construct it is,
and entries that the construct does not use are left aside.
-/

namespace DataGrammar

/-- What the entries of a description object say. -/
structure Draft where
  pattern : Option String := none
  contains : Option (List Description) := none
  first : Option (List Description) := none
  repeats : Option Description := none
  separator : Option Description := none
  least : Nat := 0
  most : Option Nat := none
  nesting : Nesting := .none
  name : Option String := none
  default : Option Value := none
  deriving Repr, Inhabited

namespace Draft

/-- Why a draft is no description. -/
inductive Misfit where
  /-- No entry says which construct it is. -/
  | shapeless
  /-- Several entries say so. -/
  | ambiguous
  deriving DecidableEq, Repr

/-- The description that a draft amounts to. -/
def describe (d : Draft) : Except Misfit Description :=
  match d.pattern, d.contains, d.first, d.repeats with
  | some source, none, none, none => .ok (.pattern source)
  | none, some parts, none, none => .ok (.sequence parts d.separator d.name d.default)
  | none, none, some branches, none => .ok (.choice branches d.nesting d.name d.default)
  | none, none, none, some item => .ok (.repetition item d.separator d.least d.most d.name)
  | none, none, none, none => .error .shapeless
  | _, _, _, _ => .error .ambiguous

end Draft
end DataGrammar
