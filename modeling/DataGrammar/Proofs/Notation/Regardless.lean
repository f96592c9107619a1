import DataGrammar.Proofs.Notation.Refusal
import DataGrammar.Proofs.Notation.Tree

/-!
# Reading trees regardless of their shape

The rules of a grammar can be read straight off the tree that a run finds, without a literal in
between. Such a reader meets places where a tree of another shape would have nothing to read, and
goes on with something else there, or says that the tree is malformed.

* `Fallback`: what it goes on with; `Regardless.definitions`: the reader.
* `Regardless.describe_eq`, `Regardless.plain_eq`: on the trees of literals it reads what they stand
  for, whatever its fallbacks are.
* `definitions_regardless`: so none of them is ever used, and no text is said to be malformed.
-/

namespace DataGrammar.Notation

/-- What a reader goes on with where a tree has nothing to read. -/
structure Fallback where
  /-- Where a text should be. -/
  text : String
  /-- Where the parts of an array or of a property should be. -/
  parts : List Description
  /-- Where the kind of a literal should be. -/
  value : Value
  /-- Where the items of an array should be. -/
  values : List Value
  /-- Where the properties of an object should be. -/
  entries : List (String × Value)
  /-- Where the name or the value of a property should be. -/
  entry : Option (String × Value)

/-- Nothing, wherever something should be. -/
def Fallback.nothing : Fallback := ⟨"", [], .null, [], [], none⟩

namespace Regardless

/-- The name and the value of a property. -/
def property? (item : Value) : Option (String × Value) :=
  match item.get? "Name", item.get? "Value" with
  | some (.text raw), some body => some (unescaped raw, body)
  | _, _ => none

theorem sizeOf_lt_of_find? {key : String} {entries : List (String × Value)} {v : Value}
    (h : Keyed.find? key entries = some v) : sizeOf v < sizeOf entries := by
  induction entries with
  | nil => cases h
  | cons e entries ih =>
    rw [Keyed.find?_cons] at h
    split at h
    · obtain ⟨key', w⟩ := e
      cases h
      simp only [List.cons.sizeOf_spec, Prod.mk.sizeOf_spec]
      omega
    · have := ih h
      simp only [List.cons.sizeOf_spec]
      omega

theorem sizeOf_lt_of_property? {item body : Value} {name : String}
    (h : property? item = some (name, body)) : sizeOf body < sizeOf item := by
  unfold property? at h
  split at h
  · next raw body' _ hbody =>
    cases h
    cases item with
    | map entries =>
      have := sizeOf_lt_of_find? hbody
      simp only [Value.map.sizeOf_spec]
      omega
    | _ => cases hbody
  · cases h

/-- Check that a value is a list of properties. -/
def check (owner : String) (v : Value) : Except Diagnostic (List Value) :=
  match v.list? with
  | none => .error (Cause.invalidNotation s!"`{owner}` is not an object")
  | some items =>
    if items.all fun item => (property? item).isSome then .ok items
    else .error (Cause.invalidNotation s!"malformed property in `{owner}`")

variable (f : Fallback)

/-- The text of a leaf. -/
def textOf (v : Value) : String := v.text?.getD f.text

mutual

/-- The value that a tree stands for. -/
def plain : Value → Value
  | .map [(kind, inner)] =>
    match kind with
    | "String" => .text (unescaped (textOf f inner))
    | "Null" => .null
    | "Array" =>
      match inner with
      | .list items => .list (plainItems items)
      | _ => .list f.values
    | "Object" =>
      match inner with
      | .list items => .ofEntries (plainEntries items)
      | _ => .ofEntries f.entries
    | _ => inner
  | _ => f.value
decreasing_by
  all_goals
    simp only [Value.map.sizeOf_spec, Value.list.sizeOf_spec, List.cons.sizeOf_spec,
      Prod.mk.sizeOf_spec]
    omega

/-- The values that trees stand for. -/
def plainItems : List Value → List Value
  | [] => []
  | item :: rest => plain item :: plainItems rest
decreasing_by
  all_goals
    simp only [List.cons.sizeOf_spec]
    omega

/-- The entries that properties stand for. -/
def plainEntries : List Value → List (String × Value)
  | [] => []
  | item :: rest =>
    match h : property? item with
    | some (name, body) =>
      have := sizeOf_lt_of_property? h
      (name, plain body) :: plainEntries rest
    | none => f.entry.toList ++ plainEntries rest
decreasing_by
  all_goals
    simp only [List.cons.sizeOf_spec]
    omega

end

/-- The default that a property sets. -/
def default? : Value → Option Value
  | .map [("Null", inner)] =>
    if textOf f inner = "undefined" then none else some .null
  | v => some (plain f v)

/-- The bound that a property sets. -/
def bound (rule key : String) : Value → Except Diagnostic Nat
  | .map [("Number", inner)] =>
    match bound? (textOf f inner) with
    | some n => .ok n
    | none => .error (invalid rule s!"`{key}` must be a non-negative number")
  | _ => .error (invalid rule s!"`{key}` must be a non-negative number")

/-- The text that a property sets. -/
def label (rule key : String) : Value → Except Diagnostic String
  | .map [("String", inner)] => .ok (unescaped (textOf f inner))
  | .map [("Identifier", inner)] => .ok (textOf f inner)
  | _ => .error (invalid rule s!"`{key}` must be a string")

mutual

/-- The description that a tree stands for in a rule. -/
def describe (rule : String) : Value → Except Diagnostic Description
  | .map [(kind, inner)] =>
    match kind with
    | "String" => .ok (.ref (unescaped (textOf f inner)))
    | "Identifier" => .ok (.ref (textOf f inner))
    | "Regex" => .ok (.slashed (textOf f inner))
    | "Array" =>
      match inner with
      | .list items => do return .series (← describeItems rule items)
      | _ => .ok (.series f.parts)
    | "Object" => do
      let _ ← check rule inner
      let draft ← match inner with
        | .list items => draft rule items {}
        | _ => pure {}
      match draft.describe with
      | .ok d => return d
      | .error m => throw (misfit rule m)
    | kind => .error (invalid rule s!"{kind.toLower} `{textOf f inner}` is not a grammar construct")
  | _ => .error (invalid rule "unrecognized value")
decreasing_by
  all_goals
    simp only [Value.map.sizeOf_spec, Value.list.sizeOf_spec, List.cons.sizeOf_spec,
      Prod.mk.sizeOf_spec]
    omega

/-- The descriptions that trees stand for. -/
def describeItems (rule : String) : List Value → Except Diagnostic (List Description)
  | [] => .ok []
  | item :: rest => do
    let d ← describe rule item
    let ds ← describeItems rule rest
    return d :: ds
decreasing_by
  all_goals
    simp only [List.cons.sizeOf_spec]
    omega

/-- The descriptions that a property sets. -/
def describeArray (rule key : String) : Value → Except Diagnostic (List Description)
  | .map [("Array", .list items)] => describeItems rule items
  | .map [("Array", _)] => .ok f.parts
  | _ => .error (invalid rule s!"`{key}` must be an array")
decreasing_by
  all_goals
    simp only [Value.map.sizeOf_spec, Value.list.sizeOf_spec, List.cons.sizeOf_spec,
      Prod.mk.sizeOf_spec]
    omega

/-- Read properties, which have been checked, into a draft. -/
def draft (rule : String) : List Value → Draft → Except Diagnostic Draft
  | [], d => .ok d
  | item :: rest, d =>
    match h : property? item with
    | none => draft rule rest d
    | some (key, body) => do
      have := sizeOf_lt_of_property? h
      let d ← match key with
        | "contains" => do
          let parts ← describeArray rule key body
          pure { d with contains := some parts }
        | "first" => do
          let branches ← describeArray rule key body
          pure { d with first := some branches }
        | "repeats" => do
          let item ← describe rule body
          pure { d with repeats := some item }
        | "separator" => do
          let separator ← describe rule body
          pure { d with separator := some separator }
        | "min" => do
          let least ← bound f rule key body
          pure { d with least }
        | "max" => do
          let most ← bound f rule key body
          pure { d with most := some most }
        | "nest" => do
          let keyword ← label f rule key body
          pure { d with nesting := .ofKeyword keyword }
        | "name" => do
          let name ← label f rule key body
          pure { d with name := some name }
        | "default" => pure { d with default := default? f body }
        | _ => throw (invalid rule s!"unknown key `{key}`")
      draft rule rest d
decreasing_by
  all_goals
    simp only [List.cons.sizeOf_spec]
    omega

end

/-- Define rules one after the other; a name must not come twice. -/
def define : List Value → Definitions → Except Diagnostic Definitions
  | [], d => .ok d
  | item :: rest, d =>
    match property? item with
    | none => define rest d
    | some (rule, body) => do
      let description ← describe f rule body
      if d.contains rule then
        Except.error (Diagnostic.ofCause (.duplicateRule rule))
      define rest (d.insert rule description)

/-- The rules in the tree of a text. -/
def rules (tree : Value) : Except Diagnostic (List Value) := do
  let root ← check "document" tree
  match (root.filterMap property?).find? fun p => p.1 = "definitions" with
  | none => .error (Cause.invalidNotation "missing `definitions`")
  | some (_, .map [("Object", inner)]) => check "definitions" inner
  | some _ => .error (Cause.invalidNotation "`definitions` must be an object")

/-- Read the rules of a grammar off a text. -/
def definitions (name text : String) : Except Diagnostic Definitions := do
  let o ← (← parser).run "document" text
  if !o.isComplete text then
    let stop := min o.position text.utf8ByteSize
    throw ((Diagnostic.ofCause (mismatch o)).withSource (.between name text stop stop))
  define f (← rules o.result) .empty

/-! ### On trees -/

section Inversion

variable {v : Value} {vs : List Value} {literal : Literal}

open Literal

/-- The value that is read as a literal, by its kind. -/
theorem tree_of_isValue (h : IsValue literal v) : match literal with
    | .string content => ∃ raw, v = .map [("String", .text raw)] ∧ content = unescaped raw
    | .regex body => v = .map [("Regex", .text body)]
    | .number spelling => v = .map [("Number", .text spelling)]
    | .boolean spelling => v = .map [("Boolean", .text spelling)]
    | .null spelling => v = .map [("Null", .text spelling)]
    | .word content => v = .map [("Identifier", .text content)]
    | .object properties => ∃ vs, v = .map [("Object", .list vs)] ∧ properties? vs = some properties
    | .array items => ∃ vs, v = .map [("Array", .list vs)] ∧ items? vs = some items := by
  unfold IsValue ofValue? at h
  split at h
  case h_1 raw _ =>
    cases h
    exact ⟨raw, rfl, rfl⟩
  case h_7 vs _ =>
    obtain ⟨properties, hproperties, rfl⟩ := Option.map_eq_some_iff.1 h
    exact ⟨vs, rfl, hproperties⟩
  case h_8 vs _ =>
    obtain ⟨items, hitems, rfl⟩ := Option.map_eq_some_iff.1 h
    exact ⟨vs, rfl, hitems⟩
  case h_9 => cases h
  all_goals
    cases h
    rfl

theorem tree_of_properties?_cons {property : String × Literal} {properties : List (String × Literal)}
    (h : properties? vs = some (property :: properties)) : ∃ raw body rest,
      vs = entry (raw, body) :: rest ∧ property.1 = unescaped raw ∧ IsValue property.2 body ∧
      properties? rest = some properties := by
  unfold properties? at h
  split at h
  · cases h
  · next raw body rest =>
    split at h
    · next literal literals hliteral hliterals =>
      cases h
      exact ⟨raw, body, rest, rfl, rfl, hliteral, hliterals⟩
    · cases h
  · cases h

theorem tree_of_properties?_nil (h : properties? vs = some []) : vs = [] := by
  unfold properties? at h
  split at h
  · rfl
  · split at h <;> cases h
  · cases h

theorem tree_of_items?_cons {items : List Literal} (h : items? vs = some (literal :: items)) :
    ∃ v rest, vs = v :: rest ∧ IsValue literal v ∧ items? rest = some items := by
  unfold items? at h
  split at h
  · cases h
  · next v rest =>
    split at h
    · next literal literals hliteral hliterals =>
      cases h
      exact ⟨v, rest, rfl, hliteral, hliterals⟩
    · cases h

theorem tree_of_items?_nil (h : items? vs = some []) : vs = [] := by
  unfold items? at h
  split at h
  · rfl
  · split at h <;> cases h

end Inversion

variable {f}

theorem property?_entry (p : String × Value) : property? (entry p) = some (unescaped p.1, p.2) :=
  rfl

theorem check_of_properties? {vs : List Value} {properties : List (String × Literal)}
    (h : Literal.properties? vs = some properties) (owner : String) :
    check owner (.list vs) = .ok vs := by
  refine if_pos ?_
  induction properties generalizing vs with
  | nil =>
    rw [tree_of_properties?_nil h]
    rfl
  | cons property properties ih =>
    obtain ⟨raw, body, rest, rfl, -, -, hrest⟩ := tree_of_properties?_cons h
    rw [List.all_cons, property?_entry, ih hrest]
    rfl

mutual

/-- **The value of a tree is that of its literal**, whatever the fallbacks are. -/
theorem plain_eq (literal : Literal) {v : Value} (h : literal.IsValue v) :
    plain f v = literal.value := by
  have htree := tree_of_isValue h
  cases literal with
  | string content =>
    obtain ⟨raw, rfl, rfl⟩ := htree
    simp [plain, Literal.value, textOf, Value.text?]
  | object properties =>
    obtain ⟨vs, rfl, hvs⟩ := htree
    simp only [plain, Literal.value, plainEntries_eq properties hvs]
  | array items =>
    obtain ⟨vs, rfl, hvs⟩ := htree
    simp only [plain, Literal.value, plainItems_eq items hvs]
  | _ =>
    obtain rfl : v = _ := htree
    simp [plain, Literal.value]

theorem plainItems_eq (items : List Literal) {vs : List Value}
    (h : Literal.items? vs = some items) : plainItems f vs = Literal.values items := by
  cases items with
  | nil =>
    rw [tree_of_items?_nil h]
    simp only [plainItems, Literal.values]
  | cons literal items =>
    obtain ⟨v, rest, rfl, hv, hrest⟩ := tree_of_items?_cons h
    rw [plainItems, Literal.values, plain_eq literal hv, plainItems_eq items hrest]

theorem plainEntries_eq (properties : List (String × Literal)) {vs : List Value}
    (h : Literal.properties? vs = some properties) :
    plainEntries f vs = Literal.entries properties := by
  cases properties with
  | nil =>
    rw [tree_of_properties?_nil h]
    simp only [plainEntries, Literal.entries]
  | cons property properties =>
    obtain ⟨name, literal⟩ := property
    obtain ⟨raw, body, rest, rfl, rfl, hbody, hrest⟩ := tree_of_properties?_cons h
    rw [plainEntries, Literal.entries, ← plain_eq literal hbody, ← plainEntries_eq properties hrest]
    rfl

end

variable {rule : String} {v : Value}

theorem default?_eq {literal : Literal} (h : literal.IsValue v) :
    default? f v = literal.default? := by
  have hplain := plain_eq (f := f) literal h
  have htree := tree_of_isValue h
  cases literal with
  | null spelling =>
    obtain rfl : v = _ := htree
    by_cases hs : spelling = "undefined"
    · subst hs
      rfl
    · simp [default?, textOf, Value.text?, hs, Literal.default?, Literal.value]
  | string content =>
    obtain ⟨raw, rfl, rfl⟩ := htree
    simp [default?, hplain, Literal.default?]
  | object properties =>
    obtain ⟨vs, rfl, hvs⟩ := htree
    simp [default?, hplain, Literal.default?]
  | array items =>
    obtain ⟨vs, rfl, hvs⟩ := htree
    simp [default?, hplain, Literal.default?]
  | _ =>
    obtain rfl : v = _ := htree
    simp [default?, hplain, Literal.default?]

theorem bound_eq {literal : Literal} (h : literal.IsValue v) (key : String) :
    bound f rule key v = literal.bound rule key := by
  have htree := tree_of_isValue h
  cases literal with
  | string content =>
    obtain ⟨raw, rfl, rfl⟩ := htree
    rfl
  | object properties =>
    obtain ⟨vs, rfl, hvs⟩ := htree
    rfl
  | array items =>
    obtain ⟨vs, rfl, hvs⟩ := htree
    rfl
  | _ =>
    obtain rfl : v = _ := htree
    rfl

theorem label_eq {literal : Literal} (h : literal.IsValue v) (key : String) :
    label f rule key v = literal.label rule key := by
  have htree := tree_of_isValue h
  cases literal with
  | string content =>
    obtain ⟨raw, rfl, rfl⟩ := htree
    rfl
  | object properties =>
    obtain ⟨vs, rfl, hvs⟩ := htree
    rfl
  | array items =>
    obtain ⟨vs, rfl, hvs⟩ := htree
    rfl
  | _ =>
    obtain rfl : v = _ := htree
    rfl

mutual

/-- **The description of a tree is that of its literal**, whatever the fallbacks are. -/
theorem describe_eq (literal : Literal) {v : Value} (h : literal.IsValue v) :
    describe f rule v = literal.describe rule := by
  have htree := tree_of_isValue h
  have hkinds : toString "Number".toLower ++ toString " `" = toString "number `" ∧
      toString "Boolean".toLower ++ toString " `" = toString "boolean `" ∧
      toString "Null".toLower ++ toString " `" = toString "null `" := by decide +kernel
  cases literal with
  | string content =>
    obtain ⟨raw, rfl, rfl⟩ := htree
    simp [describe, Literal.describe, textOf, Value.text?]
  | object properties =>
    obtain ⟨vs, rfl, hvs⟩ := htree
    simp only [describe, Literal.describe, check_of_properties? hvs, draft_eq properties hvs, bind,
      Except.bind]
    all_goals rfl
  | array items =>
    obtain ⟨vs, rfl, hvs⟩ := htree
    simp only [describe, Literal.describe, describeItems_eq items hvs]
  | _ =>
    obtain rfl : v = _ := htree
    simp [describe, Literal.describe, textOf, Value.text?, hkinds]

theorem describeItems_eq (items : List Literal) {vs : List Value}
    (h : Literal.items? vs = some items) :
    describeItems f rule vs = Literal.describeItems rule items := by
  cases items with
  | nil =>
    rw [tree_of_items?_nil h]
    simp only [describeItems, Literal.describeItems]
  | cons literal items =>
    obtain ⟨v, rest, rfl, hv, hrest⟩ := tree_of_items?_cons h
    simp only [describeItems, Literal.describeItems, describe_eq literal hv,
      describeItems_eq items hrest]

theorem describeArray_eq (literal : Literal) {v : Value} (h : literal.IsValue v) (key : String) :
    describeArray f rule key v = literal.describeArray rule key := by
  have htree := tree_of_isValue h
  cases literal with
  | string content =>
    obtain ⟨raw, rfl, rfl⟩ := htree
    simp [describeArray, Literal.describeArray]
  | object properties =>
    obtain ⟨vs, rfl, hvs⟩ := htree
    simp [describeArray, Literal.describeArray]
  | array items =>
    obtain ⟨vs, rfl, hvs⟩ := htree
    simp only [describeArray, Literal.describeArray, describeItems_eq items hvs]
  | _ =>
    obtain rfl : v = _ := htree
    simp [describeArray, Literal.describeArray]

theorem draft_eq (properties : List (String × Literal)) {vs : List Value}
    (h : Literal.properties? vs = some properties) (d : Draft) :
    draft f rule vs d = Literal.draft rule properties d := by
  cases properties with
  | nil =>
    rw [tree_of_properties?_nil h]
    simp only [draft, Literal.draft]
  | cons property properties =>
    obtain ⟨name, literal⟩ := property
    obtain ⟨raw, body, rest, rfl, rfl, hbody, hrest⟩ := tree_of_properties?_cons h
    have hdraft : ∀ d, draft f rule rest d = Literal.draft rule properties d :=
      fun d => draft_eq properties hrest d
    have hdescribe := describe_eq literal hbody
    have harray := describeArray_eq literal hbody
    simp only [draft, Literal.draft, property?_entry, hdescribe, harray, bound_eq hbody,
      label_eq hbody, default?_eq hbody, hdraft]
    all_goals rfl

end

theorem define_eq {vs : List Value} {rules : List (String × Literal)}
    (h : Literal.properties? vs = some rules) (d : Definitions) :
    define f vs d = Notation.define rules d := by
  induction rules generalizing vs d with
  | nil =>
    rw [tree_of_properties?_nil h]
    rfl
  | cons property rules ih =>
    obtain ⟨name, literal⟩ := property
    obtain ⟨raw, body, rest, rfl, rfl, hbody, hrest⟩ := tree_of_properties?_cons h
    simp only [define, Notation.define, property?_entry, describe_eq literal hbody, ih hrest]

/-- The property of a name is found in a tree where it is found among the properties. -/
theorem find?_property? {vs : List Value} {properties : List (String × Literal)}
    (h : Literal.properties? vs = some properties) (name : String) :
    Option.Rel (fun a b => a.1 = b.1 ∧ b.2.IsValue a.2)
      ((vs.filterMap property?).find? fun p => p.1 = name)
      (properties.find? fun p => p.1 = name) := by
  induction properties generalizing vs with
  | nil =>
    rw [tree_of_properties?_nil h]
    exact .none
  | cons property properties ih =>
    obtain ⟨name', literal⟩ := property
    obtain ⟨raw, body, rest, rfl, rfl, hbody, hrest⟩ := tree_of_properties?_cons h
    rw [List.filterMap_cons_some (property?_entry _), List.find?_cons, List.find?_cons]
    dsimp only
    cases decide (unescaped raw = name) with
    | true => exact .some ⟨rfl, hbody⟩
    | false => exact ih hrest

/-- The rules in the tree of an object are those among its properties. -/
theorem rules_eq {tree : Value} (h : IsObject tree) :
    (rules tree >>= fun vs => define f vs .empty) =
      (Notation.rules tree >>= fun rules => Notation.define rules .empty) := by
  obtain ⟨root, hroot⟩ := Option.isSome_iff_exists.1 h.isSome_properties?
  obtain ⟨properties, rfl, -⟩ := h
  have hroot : Literal.properties? (properties.map entry) = some root := hroot
  have hlist : (Value.list (properties.map entry)).list?.bind Literal.properties? = some root := hroot
  have hfind := find?_property? hroot "definitions"
  simp only [rules, Notation.rules, check_of_properties? hroot, hlist, bind, Except.bind]
  generalize ((properties.map entry).filterMap property?).find? _ = found at hfind ⊢
  generalize root.find? _ = found' at hfind ⊢
  cases hfind with
  | none => rfl
  | @some a b hab =>
    obtain ⟨name, v⟩ := a
    obtain ⟨name', literal⟩ := b
    have htree := tree_of_isValue hab.2
    cases literal with
    | string content =>
      obtain ⟨raw, hv, -⟩ := htree
      obtain rfl : v = _ := hv
      rfl
    | object rules =>
      obtain ⟨vs, hv, hvs⟩ := htree
      obtain rfl : v = _ := hv
      simp only [check_of_properties? hvs, define_eq hvs]
    | array items =>
      obtain ⟨vs, hv, hvs⟩ := htree
      obtain rfl : v = _ := hv
      rfl
    | _ =>
      obtain rfl : v = _ := htree
      rfl

/-- **The rules read straight off the tree are those read off the literal**, whatever the fallbacks
are. -/
theorem definitions_eq (f : Fallback) (name text : String) :
    definitions f name text = Notation.definitions name text := by
  -- The tree is looked at only behind a match, and there it has its shape.
  obtain ⟨p, hp⟩ := exists_parser_eq
  unfold definitions Notation.definitions
  rw [hp]
  cases ho : p.run "document" text with
  | error e => simp only [ho, bind, Except.bind]
  | ok o =>
    simp only [ho, bind, Except.bind]
    split
    · rfl
    · next hcomplete =>
      have hsuccess : o.success = true := by
        simp only [Bool.not_eq_true, Bool.not_eq_false', Outcome.isComplete, Bool.and_eq_true]
          at hcomplete
        exact hcomplete.1
      exact rules_eq (isObject_of_run hp ho hsuccess)

end Regardless

/-! ### What is never said -/

/-- What is said of a literal is not that its value is unrecognized. -/
theorem Literal.Complaint.ne_unrecognized {reason : String} (h : Complaint reason) :
    reason ≠ "unrecognized value" := by
  intro heq
  have hstart := congrArg (fun s => s.toList.take 3) heq
  cases h with
  | kind h spelling =>
    simp only [List.mem_cons, List.not_mem_nil, or_false] at h
    obtain rfl | rfl | rfl := h <;> simp [toString, String.toList_append] at hstart
  | _ => simp [toString, String.toList_append] at hstart

/-- A text that does not both start and end like another one is another one. -/
theorem invalidNotation_ne {head middle tail reason : String}
    (h : ¬ (head.toList <+: reason.toList ∧ tail.toList <:+ reason.toList)) :
    Cause.invalidNotation reason ≠ .invalidNotation (head ++ middle ++ tail) := by
  rintro ⟨⟩
  refine h ⟨⟨(middle ++ tail).toList, ?_⟩, ⟨(head ++ middle).toList, ?_⟩⟩
  · rw [← String.toList_append, String.append_assoc]
  · rw [← String.toList_append]

/-- What is said of a text that is no grammar is not that its tree is malformed. -/
theorem Refused.ne_malformed {c : Cause} (h : Refused c) (owner : String) :
    c ≠ .invalidNotation s!"malformed property in `{owner}`" ∧
    c ≠ .invalidNotation s!"`{owner}` is not an object" ∧
    c ≠ .invalidDescription owner "unrecognized value" := by
  cases h with
  | mismatch o =>
    unfold Notation.mismatch
    split
    · exact ⟨invalidNotation_ne (by decide), invalidNotation_ne (by decide), nofun⟩
    · exact ⟨invalidNotation_ne (by decide), invalidNotation_ne (by decide), nofun⟩
  | missing => exact ⟨invalidNotation_ne (by decide), invalidNotation_ne (by decide), nofun⟩
  | misplaced => exact ⟨invalidNotation_ne (by decide), invalidNotation_ne (by decide), nofun⟩
  | description rule h => exact ⟨nofun, nofun, by rintro ⟨⟩; exact h.ne_unrecognized rfl⟩
  | duplicate rule => exact ⟨nofun, nofun, nofun⟩

/-- **The tree that the notation finds has its shape.** On every text that matches, the result is a
list of properties, each a map of a name and a value, and every value is a map whose only key is the
kind of a literal, down to the leaves. So reading the rules straight off the tree never needs to go
on with anything else in the place of what should be there, and no text is said to be malformed. -/
theorem definitions_regardless {p : Parser} (hp : parser = .ok p) (name text : String) :
    (∀ o, p.run "document" text = .ok o → o.success = true → IsObject o.result) ∧
    (∀ f, Regardless.definitions f name text = definitions name text) ∧
    ∀ e, definitions name text = .error e → ∀ owner,
      e.cause ≠ .invalidNotation s!"malformed property in `{owner}`" ∧
      e.cause ≠ .invalidNotation s!"`{owner}` is not an object" ∧
      e.cause ≠ .invalidDescription owner "unrecognized value" := by
  refine ⟨fun o ho hs => isObject_of_run hp ho hs, fun f => Regardless.definitions_eq f name text,
    fun e he owner => ?_⟩
  cases ho : p.run "document" text with
  | ok o =>
    have hrefused := cause_of_definitions hp ho
      (fun hs => (isObject_of_run hp ho hs).isSome_properties?) he
    exact hrefused.ne_malformed owner
  | error e' =>
    -- a run that does not come to an end says nothing about the text
    have heq : e' = e := by
      rw [definitions, hp] at he
      simp only [ho, bind, Except.bind] at he
      exact Except.error.inj he
    subst heq
    unfold Parser.run at ho
    split at ho
    · cases ho
      exact ⟨by rintro ⟨⟩, by rintro ⟨⟩, by rintro ⟨⟩⟩
    · split at ho
      · cases ho
        exact ⟨by rintro ⟨⟩, by rintro ⟨⟩, by rintro ⟨⟩⟩
      · cases ho

/-- What a run finds in `{a: [b]}`. -/
def sampleTree : Value :=
  .list [entry ("a", .map [("Array", .list [.map [("Identifier", .text "b")]])])]

theorem run_sampleTree {p : Parser} (hp : parser = .ok p) :
    p.run "document" "\x7ba: [b]\x7d" = .ok ⟨true, 8, sampleTree⟩ := by
  rw [Parser.run_eq_call hp]
  decide +kernel

theorem definitions_regardless_sample :
    ∃ p, parser = .ok p ∧ p.run "document" "\x7ba: [b]\x7d" = .ok ⟨true, 8, sampleTree⟩ ∧
      IsObject sampleTree ∧
      (∀ f, Regardless.definitions f "grammar" "\x7ba: [b]\x7d" =
        definitions "grammar" "\x7ba: [b]\x7d") ∧
      definitions "grammar" "\x7ba: [b]\x7d" =
        .error (Cause.invalidNotation "missing `definitions`") ∧
      ∀ owner : String, Cause.invalidNotation "missing `definitions`" ≠
        .invalidNotation s!"malformed property in `{owner}`" := by
  obtain ⟨p, hp⟩ := exists_parser_eq
  have hrun := run_sampleTree hp
  have h := definitions_regardless hp "grammar" "\x7ba: [b]\x7d"
  have hmissing : definitions "grammar" "\x7ba: [b]\x7d" =
      .error (Cause.invalidNotation "missing `definitions`") := by
    rw [definitions, hp]
    simp only [bind, Except.bind, hrun]
    decide +kernel
  exact ⟨p, hp, hrun, h.1 _ hrun rfl, h.2.1, hmissing,
    fun owner => (h.2.2 _ hmissing owner).1⟩

end DataGrammar.Notation
