import DataGrammar.Document.Tree
import DataGrammar.Draft
/-!
# Descriptions in documents

A description in a document is a text, a list of descriptions, or an object. The fields of an
object may also be given as a list, in their order.
-/

namespace DataGrammar.Document

/-- The fields of a description object. -/
inductive Entry where
  | pattern
  | contains
  | first
  | repeats
  | separator
  | least
  | most
  | nesting
  | name
  | default
  deriving DecidableEq, Repr

namespace Entry

/-- The fields in their order. -/
def all : List Entry :=
  [.pattern, .contains, .first, .repeats, .separator, .least, .most, .nesting, .name, .default]

/-- The key of a field. -/
def key : Entry → String
  | .pattern => "pattern"
  | .contains => "contains"
  | .first => "first"
  | .repeats => "repeats"
  | .separator => "separator"
  | .least => "min"
  | .most => "max"
  | .nesting => "nest"
  | .name => "name"
  | .default => "default"

/-- The field that a key names; a number names a field by its place. -/
def ofKey? : Key → Option Entry
  | .text s => all.find? fun e => e.key = s
  | .number n => all[n]?
  | .other => none

end Entry

/-- Text between slashes is a pattern; any other text is a reference. -/
def describeText (text : String) : Description :=
  match text.toList with
  | '/' :: rest =>
    match rest.reverse with
    | '/' :: body => .slashed (.ofList body.reverse)
    | _ => .ref text
  | _ => .ref text

namespace Tree

/-- A text, or null for nothing. -/
def text? : Tree → Option (Option String)
  | .null => some none
  | .text s => some (some s)
  | _ => none

/-- The bound of a repetition, or null for nothing. -/
def bound? : Tree → Option (Option Nat)
  | .null => some none
  | .integer n => if 0 ≤ n then some (some n.toNat) else none
  | _ => none

end Tree

/-- What a field of a description object can be read as. -/
structure Facets where
  /-- The tree itself. -/
  tree : Tree
  /-- The description of the tree; nothing if the tree has no such form, and a misfit if it is an
  object of the right form that is no description. -/
  description : Option (Except Draft.Misfit Description)
  /-- The descriptions of the items, if the tree is a list of descriptions. -/
  items : Option (List Description)

namespace Facets

/-- The description of a tree, if it is one. -/
def describe? (f : Facets) : Option Description :=
  match f.description with
  | some (.ok d) => some d
  | _ => none

/-- A description, or null for nothing. -/
def optional? (f : Facets) : Option (Option Description) :=
  match f.tree with
  | .null => some none
  | _ => f.describe?.map some

/-- Descriptions, or null for nothing. -/
def list? (f : Facets) : Option (Option (List Description)) :=
  match f.tree with
  | .null => some none
  | _ => f.items.map some

/-- Set a field of a draft; null leaves every field but the default as it is. -/
def set? (entry : Entry) (f : Facets) (d : Draft) : Option Draft :=
  match entry with
  | .pattern => f.tree.text?.map fun pattern => { d with pattern }
  | .contains => f.list?.map fun contains => { d with contains }
  | .first => f.list?.map fun first => { d with first }
  | .repeats => f.optional?.map fun repeats => { d with repeats }
  | .separator => f.optional?.map fun separator => { d with separator }
  | .least => f.tree.bound?.map fun least => { d with least := least.getD 0 }
  | .most => f.tree.bound?.map fun most => { d with most }
  | .nesting => f.tree.text?.map fun keyword => { d with nesting := keyword.elim .none .ofKeyword }
  | .name => f.tree.text?.map fun name => { d with name }
  | .default => f.tree.value?.map fun v => { d with default := some v }

/-- Read the fields of an object in their order; only the default may be left out. -/
def draftOfList? : List Entry → List Facets → Draft → Option Draft
  | [], [], d | [.default], [], d => some d
  | entry :: entries, f :: rest, d => (f.set? entry d).bind (draftOfList? entries rest)
  | _, _, _ => none

/-- Read the fields of an object by their keys; no field may come twice. -/
def draftOfMap? : List (Key × Facets) → (seen : List Entry) → Draft → Option Draft
  | [], _, d => some d
  | (key, f) :: rest, seen, d =>
    match Entry.ofKey? key with
    | some entry =>
      if entry ∈ seen then none else (f.set? entry d).bind (draftOfMap? rest (entry :: seen))
    | none => none

/-- The facets of a list: a list of descriptions, or else the fields of an object. -/
def ofList (items : List Tree) (facets : List Facets) : Facets :=
  let parts := facets.mapM describe?
  let description := match parts with
    | some parts => some (.ok (.series parts))
    | none => (draftOfList? Entry.all facets {}).map Draft.describe
  ⟨.list items, description, parts⟩

/-- The facets of a map: the fields of an object. -/
def ofMap (entries : List (Key × Tree)) (facets : List (Key × Facets)) : Facets :=
  ⟨.map entries, (draftOfMap? facets [] {}).map Draft.describe, none⟩

end Facets

namespace Tree

mutual

/-- What a tree can be read as. -/
def facets : Tree → Facets
  | .text s => ⟨.text s, some (.ok (describeText s)), none⟩
  | .list items => .ofList items (itemFacets items)
  | .map entries => .ofMap entries (entryFacets entries)
  | .null => ⟨.null, none, none⟩
  | .boolean b => ⟨.boolean b, none, none⟩
  | .integer n => ⟨.integer n, none, none⟩
  | .float negative m => ⟨.float negative m, none, none⟩

/-- What items can be read as. -/
def itemFacets : List Tree → List Facets
  | [] => []
  | t :: rest => t.facets :: itemFacets rest

/-- What the values of entries can be read as. -/
def entryFacets : List (Key × Tree) → List (Key × Facets)
  | [] => []
  | (key, t) :: rest => (key, t.facets) :: entryFacets rest

end

/-- The description of a tree; nothing if the tree has no such form, and a misfit if it is an
object of the right form that is no description. -/
def describe? (t : Tree) : Option (Except Draft.Misfit Description) := t.facets.description

end Tree
end DataGrammar.Document
