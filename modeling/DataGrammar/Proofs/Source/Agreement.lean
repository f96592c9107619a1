import DataGrammar.Proofs.Json.Document
import DataGrammar.Proofs.Json.Spelling
import DataGrammar.Proofs.Notation.RoundTrip
import DataGrammar.Source.Loading

/-!
# Agreement of the formats

A grammar may be written in JSON or in the notation. The readers of the two have nothing in common,
but what they make of one grammar is the same, whether or not its rules have descriptions.

* `Document.ruleDefinitions?_of_spelled`, `GrammarFormat.toOption_json`: what is read in JSON.
* `GrammarFormat.toOption_native`: what is read in the notation.
* `GrammarFormat.definitions_agree`: this is the same.
-/

namespace DataGrammar

open Document (rule? ruleDefinitions?)

/-- Rules are filed in the order in which they are written. -/
theorem Document.ruleDefinitions?_of_forall₂ {order : List (String × Outline)}
    {trees : List (String × Json)}
    (h : List.Forall₂ (fun rule p => rule.1 = p.1 ∧ rule.2.Spelled Json.spelling p.2) order trees)
    (filed : Definitions) :
    order.foldl Outline.define? (some filed) = ((trees.map rule?).mapM id).map fun rules =>
      rules.foldl (fun d rule => d.insert rule.1 rule.2) filed := by
  induction h generalizing filed with
  | nil => rfl
  | @cons rule p order trees hp _ ih =>
    obtain ⟨name, o⟩ := rule
    obtain ⟨_, j⟩ := p
    obtain ⟨rfl, hp⟩ := hp
    rw [List.map_cons, Json.mapM_id_cons, rule?, Json.describe?_of_spelled o hp, List.foldl_cons,
      Outline.define?, Option.bind_some]
    cases o.meaning? with
    | none => exact Outline.foldl_define?_none order
    | some d =>
      simp only [Option.map_some, Option.bind_some, Option.map_map]
      exact ih (filed.insert name d)

theorem Definitions.rules_foldl_insert (rules : List (String × Description)) (filed : Definitions) :
    (rules.foldl (fun d rule => d.insert rule.1 rule.2) filed).rules =
      rules.foldl (fun filed e => Keyed.insert e.1 e.2 filed) filed.rules := by
  induction rules generalizing filed with
  | nil => rfl
  | cons rule rules ih => exact ih (filed.insert rule.1 rule.2)

/-- **Values that outlines are written as amount to what the outlines amount to.** -/
theorem Document.ruleDefinitions?_of_spelled {rules : List (String × Outline)}
    {trees : List (String × Json)} (h : Outline.SpelledRules Json.spelling rules trees)
    (hd : Keyed.Distinct rules) : ruleDefinitions? trees = Outline.definitions? rules := by
  obtain ⟨order, horder, hall⟩ := h
  have hfiled : (fun rules : List (String × Description) =>
      rules.foldl (fun d rule => d.insert rule.1 rule.2) .empty) = Definitions.ofList :=
    funext fun rules => Definitions.ext (Definitions.rules_foldl_insert rules .empty)
  rw [← Outline.definitions?_perm horder hd, Outline.definitions?,
    Document.ruleDefinitions?_of_forall₂ hall, hfiled, ruleDefinitions?]

namespace GrammarFormat

section

variable {rules : List (String × Outline)} {text : String}

/-- **What is read in JSON** is what the rules amount to. -/
theorem toOption_json {trees : List (String × Json)} (hd : Keyed.Distinct rules)
    (hs : Outline.SpelledRules Json.spelling rules trees) (ht : Json.Document trees text.toList)
    (hdepth : (Json.root trees).depth ≤ Json.maxDepth) (name : String) :
    (json.definitions name text).toOption = Outline.definitions? rules := by
  have hread := Document.toOption_definitions ht hdepth
  rw [Document.ruleDefinitions?_of_spelled hs hd] at hread
  rw [← hread, definitions]
  cases Document.definitions text <;> rfl

/-- **What is read in the notation** is what the rules amount to, unless reading is aborted. -/
theorem toOption_native {literals : List (String × Notation.Literal)} (hd : Keyed.Distinct rules)
    (hs : Outline.SpelledRules Notation.spelling rules literals)
    (ht : Notation.Document literals text.toList) (name : String) :
    ((Notation.root literals).references ≤ Notation.greatestReferences →
      (native.definitions name text).toOption = Outline.definitions? rules) ∧
    ((native.definitions name text).toOption = Outline.definitions? rules ∨
      native.definitions name text = .error (Cause.recursionLimit defaultMaxDepth)) := by
  obtain ⟨henough, hread⟩ := Notation.definitions_of_document ht name
  rw [← Notation.toOption_define hs hd, definitions]
  exact ⟨fun hr => congrArg _ (henough hr), hread.imp_left (congrArg _)⟩

end

/-- **The formats agree.** Take the outlines of rules with different names, which may be
descriptions or not. A text with these in JSON and a text with these in the notation either give
the same definitions, or give an error both, unless they nest too deep for their readers. In the
notation this is so if reading is aborted; it is not aborted if all references that it takes may be
active at once. -/
theorem definitions_agree {rules : List (String × Outline)} {trees : List (String × Json)}
    {literals : List (String × Notation.Literal)} {text text' : String}
    (hd : Keyed.Distinct rules) (hj : Outline.SpelledRules Json.spelling rules trees)
    (hjt : Json.Document trees text.toList) (hdepth : (Json.root trees).depth ≤ Json.maxDepth)
    (hn : Outline.SpelledRules Notation.spelling rules literals)
    (hnt : Notation.Document literals text'.toList) (name name' : String) :
    ((Notation.root literals).references ≤ Notation.greatestReferences →
      (json.definitions name text).toOption = (native.definitions name' text').toOption) ∧
    ((json.definitions name text).toOption = (native.definitions name' text').toOption ∨
      native.definitions name' text' = .error (Cause.recursionLimit defaultMaxDepth)) := by
  obtain ⟨henough, hread⟩ := toOption_native hd hn hnt name'
  rw [toOption_json hd hj hjt hdepth]
  exact ⟨fun hr => (henough hr).symm, hread.imp_left Eq.symm⟩

/-- A grammar with one rule. -/
def sampleOutlines : List (String × Outline) :=
  [("a", .object [.least 1, .repeats (.reference "b")])]

/-- The rule in JSON. -/
def sampleTrees : List (String × Json) :=
  [("a", .object [("repeats", .text "b"), ("min", .integer 1)])]

/-- The rule in the notation. -/
def sampleLiterals : List (String × Notation.Literal) :=
  [("a", .object [("min", .number "1"), ("repeats", .word "b")])]

/-- A JSON text of the grammar. -/
def sampleJson : String := "\x7b\"definitions\":\x7b\"a\":\x7b\"repeats\":\"b\",\"min\":1\x7d\x7d\x7d"

/-- A text of the grammar in the notation. -/
def sampleNotation : String := "\x7bdefinitions:\x7ba:\x7bmin:1,repeats:b\x7d\x7d\x7d"

theorem spelled_sampleTrees : Outline.SpelledRules Json.spelling sampleOutlines sampleTrees :=
  ⟨_, .refl _, .cons ⟨rfl, by decide, [("min", .integer 1), ("repeats", .text "b")], _,
    ⟨rfl, ⟨by decide, rfl⟩, rfl, ⟨by decide, rfl⟩, trivial⟩, .swap .., rfl⟩ .nil⟩

theorem spelled_sampleLiterals :
    Outline.SpelledRules Notation.spelling sampleOutlines sampleLiterals :=
  ⟨_, .refl _, .cons ⟨rfl, by decide, [("min", .number "1"), ("repeats", .word "b")], _,
    ⟨rfl, ⟨by decide, "1", ⟨by decide, List.all_eq_true.1 (by decide), by decide⟩, rfl⟩, rfl,
      .inr rfl, trivial⟩,
    .refl _, rfl⟩ .nil⟩

/-- A text without quotes, backslashes and control characters may stand between quotes. -/
theorem textWritten_of_plain {content : String}
    (h : content.toList.all (fun c => c ≠ '"' ∧ c ≠ '\\' ∧ 0x20 ≤ c.toNat) = true) :
    Json.TextWritten content ('"' :: (content.toList ++ ['"'])) := by
  refine ⟨content.toList, ?_, rfl⟩
  generalize content.toList = chars at h
  induction chars with
  | nil => exact .nil
  | cons c cs ih =>
    rw [List.all_cons, Bool.and_eq_true, decide_eq_true_eq] at h
    obtain ⟨⟨hq, hb, hc⟩, hcs⟩ := h
    exact .plain hq hb hc (ih hcs)

theorem document_sampleTrees : Json.Document sampleTrees sampleJson.toList := by
  have hone : (Json.integer 1).Written ['1'] :=
    ⟨1, rfl, by decide, by decide, List.all_eq_true.1 (by decide), by decide, by decide⟩
  have htext : ∀ {content : String}, _ → Json.TextWritten content _ := textWritten_of_plain
  have hrule : (Json.object [("repeats", .text "b"), ("min", .integer 1)]).Written _ :=
    .pair (.intro (htext (by decide)) (htext (by decide))) (.intro (htext (by decide)) hone)
  have hrules : (Json.object sampleTrees).Written _ := .singleton (.intro (htext (by decide)) hrule)
  have hroot : (Json.root sampleTrees).Written _ := .singleton (.intro (htext (by decide)) hrules)
  exact ⟨[], _, [], blank_nil, hroot, blank_nil, by decide⟩

theorem document_sampleLiterals : Notation.Document sampleLiterals sampleNotation.toList := by
  have hname : ∀ {name : String}, Notation.isIdentifier name.toList = true →
      Notation.NameWritten name name.toList := fun h => .inl ⟨h, rfl⟩
  have hone : (Notation.Literal.number "1").Written ['1'] :=
    ⟨by decide, List.all_eq_true.1 (by decide), rfl⟩
  have hword : (Notation.Literal.word "b").Written ['b'] := ⟨by decide, by decide, rfl⟩
  have hrule : (Notation.Literal.object [("min", .number "1"), ("repeats", .word "b")]).Written _ :=
    .pair (.intro (hname (by decide)) hone) (.intro (hname (by decide)) hword)
  have hrules : (Notation.Literal.object sampleLiterals).Written _ :=
    .singleton (.intro (hname (by decide)) hrule)
  have hroot : (Notation.root sampleLiterals).Written _ :=
    .singleton (.intro (hname (by decide)) hrules)
  exact ⟨[], _, [], blank_nil, hroot, blank_nil, by decide⟩

theorem definitions_agree_sample :
    Keyed.Distinct sampleOutlines ∧
      Outline.SpelledRules Json.spelling sampleOutlines sampleTrees ∧
      Json.Document sampleTrees sampleJson.toList ∧ (Json.root sampleTrees).depth ≤ Json.maxDepth ∧
      Outline.SpelledRules Notation.spelling sampleOutlines sampleLiterals ∧
      Notation.Document sampleLiterals sampleNotation.toList ∧
      (Notation.root sampleLiterals).references ≤ Notation.greatestReferences ∧
      (json.definitions "json" sampleJson).toOption =
        (native.definitions "notation" sampleNotation).toOption := by
  have hd : Keyed.Distinct sampleOutlines := by decide
  have hdepth : (Json.root sampleTrees).depth ≤ Json.maxDepth := by decide
  have hr : (Notation.root sampleLiterals).references ≤ Notation.greatestReferences := by decide
  have hagree := definitions_agree hd spelled_sampleTrees document_sampleTrees hdepth
    spelled_sampleLiterals document_sampleLiterals "json" "notation"
  exact ⟨hd, spelled_sampleTrees, document_sampleTrees, hdepth, spelled_sampleLiterals,
    document_sampleLiterals, hr, hagree.1 hr⟩

end GrammarFormat
end DataGrammar
