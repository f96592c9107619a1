import DataGrammar.Proofs.Matching.Success
import DataGrammar.Proofs.Notation.Document

/-!
# The trees of the notation

What a run of the notation finds in a text that matches is a tree of a fixed shape, whatever the
text is: objects are lists of maps of a name and a value, and every value is a map whose only key
is the kind of a literal.

* `IsTree`: the values that stand for literals; `entry`: a property as it stands in an object.
* `Hereditary`: what holds of the literals without parts, and of all others if it holds of their
  parts.
* `gives_propertyValue`, `gives_document`: such things hold of what the rules of the notation give,
  by induction on the references that are left.
* `objectOf_of_run`, `isObject_of_run`: so they hold of what a run finds, and it has that shape.
* `Literal.isSome_ofValue?`: so every tree is read as a literal.
-/

namespace DataGrammar.Notation

open Description Step

/-! ### Shapes -/

/-- A property as it stands in the tree of an object. -/
def entry (property : String × Value) : Value :=
  .map [("Name", .text property.1), ("Value", property.2)]

/-- The kinds of literals that are texts. -/
def leafKinds : List String := ["String", "Regex", "Number", "Boolean", "Null", "Identifier"]

/-- The tree of a literal: a map whose only key is its kind. -/
inductive IsTree : Value → Prop
  /-- A literal without parts is a text. -/
  | leaf {kind : String} (h : kind ∈ leafKinds) (raw : String) : IsTree (.map [(kind, .text raw)])
  /-- An object is a list of properties. -/
  | object {properties : List (String × Value)} (h : ∀ p ∈ properties, IsTree p.2) :
    IsTree (.map [("Object", .list (properties.map entry))])
  /-- An array is a list of literals. -/
  | array {items : List Value} (h : ∀ v ∈ items, IsTree v) : IsTree (.map [("Array", .list items)])

/-- The value is a text. -/
def IsText (v : Value) : Prop := ∃ raw, v = .text raw

/-- The value is the tree of the properties of an object. -/
def IsObject (v : Value) : Prop :=
  ∃ properties : List (String × Value), v = .list (properties.map entry) ∧
    ∀ p ∈ properties, IsTree p.2

/-- This holds of the literals without parts that a run can find, and of an object or an array if it
holds of the values in it. -/
structure Hereditary (kind : Value → Prop) : Prop where
  leaf : ∀ name ∈ leafKinds, name ≠ "Regex" → ∀ raw, kind (.map [(name, .text raw)])
  regex : ∀ body, Units '/' body → kind (.map [("Regex", .text (.ofList body))])
  object : ∀ properties : List (String × Value), (∀ p ∈ properties, kind p.2) →
    kind (.map [("Object", .list (properties.map entry))])
  array : ∀ items, (∀ v ∈ items, kind v) → kind (.map [("Array", .list items)])

theorem hereditary_isTree : Hereditary IsTree where
  leaf _ h _ raw := .leaf h raw
  regex body _ := .leaf (by decide) (.ofList body)
  object _ := .object
  array _ := .array

/-- The value is a property with a value of a kind. -/
def EntryOf (kind : Value → Prop) (v : Value) : Prop := ∃ p, v = entry p ∧ kind p.2

/-- The value is the tree of properties with values of a kind. -/
def ObjectOf (kind : Value → Prop) (v : Value) : Prop :=
  ∃ properties : List (String × Value), v = .list (properties.map entry) ∧
    ∀ p ∈ properties, kind p.2

theorem objectOf_of_listOf {kind : Value → Prop} {v : Value} (h : ListOf (EntryOf kind) v) :
    ObjectOf kind v := by
  obtain ⟨items, rfl, h⟩ := h
  induction items with
  | nil => exact ⟨[], rfl, List.forall_mem_nil _⟩
  | cons w items ih =>
    obtain ⟨⟨p, rfl, hp⟩, hitems⟩ := List.forall_mem_cons.1 h
    obtain ⟨properties, heq, hproperties⟩ := ih hitems
    exact ⟨p :: properties, by rw [List.map_cons, ← Value.list.inj heq],
      List.forall_mem_cons.2 ⟨hp, hproperties⟩⟩

/-! ### What the rules give -/

section

variable (limit : Nat)

/-- Without a reference left nothing is given. -/
theorem gives_call {name : String} {kind : Value → Prop}
    (h : ∀ depth, (grammar.call limit (depth + 1) name).Gives kind) (depth : Nat) :
    (grammar.call limit depth name).Gives kind := by
  cases depth with
  | zero => nofun
  | succ depth => exact h depth

/-- What all rules give that a choice without nesting is between, the choice gives. -/
theorem gives_oneOf {parts : List (Part (Except Diagnostic))} {kind : Value → Prop}
    (h : ∀ b ∈ branches 1 parts, b.step.Gives kind) : (choice .none parts none).Gives kind :=
  gives_choice nofun fun b hb _ _ => h b hb

/-- Brackets give the list between them. -/
theorem gives_bracketStep {opening closing : String} {list : Step (Except Diagnostic)}
    {kind : Value → Prop} (h : list.Gives kind) : (bracketStep opening closing list).Gives kind := by
  refine gives_sequence nofun fun items hitems => ?_
  obtain _ | ⟨-, _ | ⟨⟨hs, c, hlist⟩, _ | ⟨-, _ | _⟩⟩⟩ := hitems
  rename_i a b d
  have hvalue : (Gathered.nothing.addAll [⟨none, false, matchPattern opening⟩, ⟨none, true, list⟩,
      ⟨none, false, matchPattern closing⟩] [a, b, d]).value = b.value := by
    simp [Gathered.addAll, Gathered.add, Gathered.value, hs]
  exact hvalue ▸ h c b hlist hs

theorem isText_stringValue (depth : Nat) :
    (grammar.call limit depth "stringValue").Gives IsText := by
  refine gives_call limit (fun depth => ?_) depth
  rw [call_stringValue]
  refine gives_oneOf ?_
  simp only [branches, List.forall_mem_cons, List.not_mem_nil, false_imp_iff, implies_true,
    and_true]
  exact ⟨gives_call limit (fun d => by rw [call_doubleQuoteName]; exact gives_matchPattern _) depth,
    gives_call limit (fun d => by rw [call_singleQuoteName]; exact gives_matchPattern _) depth⟩

theorem isText_identifier (depth : Nat) :
    (grammar.call limit depth "identifier").Gives IsText :=
  gives_call limit (fun d => by rw [call_identifier]; exact gives_matchPattern _) depth

theorem isText_propertyName (depth : Nat) :
    (grammar.call limit depth "propertyName").Gives IsText := by
  refine gives_call limit (fun depth => ?_) depth
  rw [call_propertyName]
  refine gives_oneOf ?_
  simp only [branches, List.forall_mem_cons, List.not_mem_nil, false_imp_iff, implies_true,
    and_true]
  exact ⟨isText_identifier limit depth, isText_stringValue limit depth⟩

variable {limit} {depth : Nat} {kind : Value → Prop}

/-- A property gives a name and what its value gives. -/
theorem entryOf_property (h : (grammar.call limit depth "propertyValue").Gives kind) :
    (grammar.call limit (depth + 1) "property").Gives (EntryOf kind) := by
  rw [call_property]
  refine gives_sequence nofun fun items hitems => ?_
  obtain _ | ⟨⟨hname, c, hstep⟩, _ | ⟨-, _ | ⟨⟨hvalue, c', hstep'⟩, _ | _⟩⟩⟩ := hitems
  rename_i a b d
  obtain ⟨raw, hraw⟩ := isText_propertyName limit depth c a hstep hname
  refine ⟨(raw, d.value), ?_, h c' d hstep' hvalue⟩
  simp only [Gathered.addAll, Gathered.add, Gathered.value, Gathered.nothing, hraw, entry,
    Bool.and_false, Bool.false_eq_true, if_false]
  rfl

theorem objectOf_object (h : ∀ d < depth, (grammar.call limit d "propertyValue").Gives kind) :
    (grammar.call limit depth "object").Gives (ObjectOf kind) := by
  cases depth with
  | zero => nofun
  | succ depth =>
    rw [call_object]
    refine gives_bracketStep ?_
    cases depth with
    | zero => nofun
    | succ depth =>
      rw [call_propertyList]
      refine (gives_repetition ?_ 0 none).mono fun v => objectOf_of_listOf
      cases depth with
      | zero => nofun
      | succ depth => exact entryOf_property (h depth (by omega))

theorem listOf_array (h : ∀ d < depth, (grammar.call limit d "propertyValue").Gives kind) :
    (grammar.call limit depth "array").Gives (ListOf kind) := by
  cases depth with
  | zero => nofun
  | succ depth =>
    rw [call_array]
    refine gives_bracketStep ?_
    cases depth with
    | zero => nofun
    | succ depth =>
      rw [call_valueList]
      exact gives_repetition (h depth (by omega)) 0 none

/-- A regular expression gives what is between its slashes. -/
theorem gives_regexValue (limit depth : Nat) : (grammar.call limit depth "regexValue").Gives
    fun v => ∃ body, Units '/' body ∧ v = .text (.ofList body) := by
  refine gives_call limit (fun depth => ?_) depth
  rw [call_regexValue]
  exact fun c a => exists_of_matchPattern means_regexValue (by decide)

namespace Hereditary

variable (hk : Hereditary kind)

include hk

/-- It holds of a literal that is a text. -/
theorem gives_leaf {step : Step (Except Diagnostic)} {name : String} (hname : name ∈ leafKinds)
    (hne : name ≠ "Regex") (h : step.Gives IsText) (before after : List String) :
    step.Gives fun v => kind (nest .matched before name v after) := by
  intro c a ha hs
  obtain ⟨raw, hraw⟩ := h c a ha hs
  rw [hraw]
  exact hk.leaf name hname hne raw

/-- **It holds of every value.** -/
theorem gives_propertyValue (depth : Nat) :
    (grammar.call limit depth "propertyValue").Gives kind := by
  induction depth using Nat.strong_induction_on with
  | _ depth ih =>
    cases depth with
    | zero => nofun
    | succ depth =>
      have htext : ∀ {name source : String},
          (∀ d, grammar.call limit (d + 1) name = matchPattern source) →
          (grammar.call limit depth name).Gives IsText :=
        fun h => gives_call limit (fun d => by rw [h]; exact gives_matchPattern _) depth
      have hvalue : ∀ d < depth, (grammar.call limit d "propertyValue").Gives kind :=
        fun d hd => ih d (Nat.lt_succ_of_lt hd)
      have hobject := objectOf_object hvalue
      have harray := listOf_array hvalue
      rw [call_propertyValue]
      refine gives_choice nofun ?_
      simp only [markedKinds, List.cons_append, List.nil_append, branches, Option.getD_some,
        List.forall_mem_cons, List.not_mem_nil, false_imp_iff, implies_true, and_true]
      refine ⟨hk.gives_leaf (by decide) (by decide) (isText_stringValue limit depth),
        fun _ _ => ?_, fun _ _ => ?_, fun _ _ => ?_,
        hk.gives_leaf (by decide) (by decide) (htext (call_numberValue limit)),
        hk.gives_leaf (by decide) (by decide) (htext (call_boolValue limit)),
        hk.gives_leaf (by decide) (by decide) (htext (call_nullValue limit)),
        hk.gives_leaf (by decide) (by decide) (isText_identifier limit depth)⟩
      · refine (gives_regexValue limit depth).mono ?_
        rintro _ ⟨body, hbody, rfl⟩
        exact hk.regex body hbody
      · refine hobject.mono ?_
        rintro _ ⟨properties, rfl, h⟩
        exact hk.object properties h
      · refine harray.mono ?_
        rintro _ ⟨items, rfl, h⟩
        exact hk.array items h

/-- **It holds of the values in a text that matches**, which has the tree of an object. -/
theorem gives_document (limit depth : Nat) :
    (grammar.call limit depth "document").Gives (ObjectOf kind) := by
  refine gives_call limit (fun depth => ?_) depth
  rw [call_document]
  exact gives_bracketStep (objectOf_object fun d _ => hk.gives_propertyValue d)

end Hereditary

end

/-- What is hereditary holds of the values that a run finds in a text that matches. -/
theorem objectOf_of_run {kind : Value → Prop} (hk : Hereditary kind) {p : Parser}
    (hp : parser = .ok p) {text : String} {o : Outcome} (h : p.run "document" text = .ok o)
    (hs : o.success = true) : ObjectOf kind o.result := by
  rw [Parser.run_eq_call hp] at h
  cases hc : grammar.call defaultMaxDepth (defaultMaxDepth + 1) "document" (.start text) with
  | error e =>
    rw [hc] at h
    cases h
  | ok a =>
    rw [hc] at h
    cases h
    exact hk.gives_document _ _ _ a hc hs

/-- What a run finds in a text that matches is the tree of an object. -/
theorem isObject_of_run {p : Parser} (hp : parser = .ok p) {text : String} {o : Outcome}
    (h : p.run "document" text = .ok o) (hs : o.success = true) : IsObject o.result :=
  objectOf_of_run hereditary_isTree hp h hs

/-! ### Literals of trees -/

namespace Literal

/-- If all values are read, so are the properties with these values. -/
theorem isSome_properties? {properties : List (String × Value)}
    (h : ∀ p ∈ properties, (ofValue? p.2).isSome) : (properties? (properties.map entry)).isSome := by
  induction properties with
  | nil => rfl
  | cons p properties ih =>
    obtain ⟨hp, hproperties⟩ := List.forall_mem_cons.1 h
    obtain ⟨literal, hliteral⟩ := Option.isSome_iff_exists.1 hp
    obtain ⟨literals, hliterals⟩ := Option.isSome_iff_exists.1 (ih hproperties)
    simp [entry, properties?, hliteral, hliterals]

theorem isSome_items? {items : List Value} (h : ∀ v ∈ items, (ofValue? v).isSome) :
    (items? items).isSome := by
  induction items with
  | nil => rfl
  | cons v items ih =>
    obtain ⟨hv, hitems⟩ := List.forall_mem_cons.1 h
    obtain ⟨literal, hliteral⟩ := Option.isSome_iff_exists.1 hv
    obtain ⟨literals, hliterals⟩ := Option.isSome_iff_exists.1 (ih hitems)
    simp [items?, hliteral, hliterals]

/-- **Every tree is that of a literal.** -/
theorem isSome_ofValue? {v : Value} (h : IsTree v) : (ofValue? v).isSome := by
  induction h with
  | @leaf kind h raw =>
    simp only [leafKinds, List.mem_cons, List.not_mem_nil, or_false] at h
    obtain rfl | rfl | rfl | rfl | rfl | rfl := h <;> rfl
  | object _ ih =>
    simpa [ofValue?] using isSome_properties? ih
  | array _ ih =>
    simpa [ofValue?] using isSome_items? ih

end Literal

theorem IsObject.isSome_properties? {v : Value} (h : IsObject v) :
    (v.list?.bind Literal.properties?).isSome := by
  obtain ⟨properties, rfl, hproperties⟩ := h
  exact Literal.isSome_properties? fun p hp => Literal.isSome_ofValue? (hproperties p hp)

end DataGrammar.Notation
