import DataGrammar.Proofs.Compilation.Reachable
import DataGrammar.Proofs.Depth.Limit
import DataGrammar.Proofs.Notation.Parsing

/-!
# Reading the texts of grammars

The text of a grammar is an object with blanks around it, whose only property has the rules.
`Notation.definitions` reads the rules in it, unless it takes more references than may be active.

* `Document rules text`: the text of a grammar with these rules.
* `run_document`: what a run of the grammar of the notation finds in it.
* `definitions_of_document`: reading the text is defining the rules.
-/

namespace DataGrammar.Notation

open Description (matchPattern reads_pattern)

/-- The object that a grammar is. -/
def root (rules : List (String × Literal)) : Literal :=
  .object [("definitions", .object rules)]

/-- The text of a grammar with these rules. -/
def Document (rules : List (String × Literal)) (text : List Char) : Prop :=
  ∃ before body after, Blank Unicode.space.contains before ∧ (root rules).Written body ∧
    Blank Unicode.space.contains after ∧ text = before ++ (body ++ after)

/-- How many references may be active at once while a text is read. -/
def greatestReferences : Nat := defaultMaxDepth + 1

variable {rules : List (String × Literal)} {text : List Char}

theorem reads_document {limit depth : Nat} (h : Document rules text)
    (hr : (root rules).references ≤ depth + 1) :
    ∃ values, Literal.properties? values = some [("definitions", .object rules)] ∧
      (grammar.call limit (depth + 1) "document").Reads text [] (.list values) := by
  obtain ⟨before, body, after, hb, hw, ha, rfl⟩ := h
  have hthree := Literal.three_le_propertiesReferences [("definitions", .object rules)]
  rw [root, Literal.references] at hr
  obtain ⟨d, rfl⟩ : ∃ d, depth = d + 6 := ⟨depth - 6, by omega⟩
  have hbegins : Begins body := by
    obtain ⟨blanks, list, -, -, rfl⟩ := hw
    exact ⟨'{', _, rfl, by decide⟩
  have hproperties : List.Forall₂ (ReadsAs (grammar.call limit (d + 4) "property"))
      (Literal.writtenProperties [("definitions", .object rules)])
      ([("definitions", .object rules)].map Literal.IsProperty) :=
    Literal.readsAs_properties _ (by omega)
  obtain ⟨values, hvalues, hread⟩ := Literal.reads_object hproperties hw
  have hbefore : Step.Reads (matchPattern "\\s*") before (body ++ (after ++ [])) _ :=
    reads_pattern means_blanks rfl (reads_blanks hb (hbegins.unblank _))
  have hafter : Step.Reads (matchPattern "\\s*") after [] _ :=
    reads_pattern means_blanks rfl (reads_blanks ha nofun)
  refine ⟨values, hvalues, ?_⟩
  rw [call_document]
  exact reads_bracketStep hbefore (hread _) hafter

theorem exists_parser_eq : ∃ p, parser = .ok p :=
  Parser.exists_compile_of_isSome (by decide +kernel)

/-- A run with references enough matches the whole text. -/
theorem run_withMaxDepth {p : Parser} (hp : parser = .ok p) (maxDepth : Nat) {text : String}
    (h : Document rules text.toList) (hr : (root rules).references ≤ maxDepth + 1) :
    ∃ values, Literal.properties? values = some [("definitions", .object rules)] ∧
      (p.withMaxDepth maxDepth).run "document" text =
        .ok ⟨true, text.utf8ByteSize, .list values⟩ := by
  have hcompile : Parser.compile grammar maxDepth = .ok (p.withMaxDepth maxDepth) := by
    rw [Parser.compile_withMaxDepth grammar defaultMaxDepth maxDepth]
    exact congrArg (Except.map _) hp
  obtain ⟨values, hvalues, hread⟩ := reads_document h hr
  refine ⟨values, hvalues, ?_⟩
  rw [Parser.run_eq_call hcompile, hread _ (List.append_nil _).symm]
  have hoffset : ((Cursor.start text).advance text.toList.length).offset = text.utf8ByteSize := by
    rw [Cursor.offset_advance]
    simp [Cursor.start]
  simp only [Except.map, Outcome.ofAttempt, hoffset]

/-- **The whole text is matched**, unless that takes too many references. -/
theorem run_document {p : Parser} (hp : parser = .ok p) {text : String}
    (h : Document rules text.toList) :
    ∃ values, Literal.properties? values = some [("definitions", .object rules)] ∧
      ((root rules).references ≤ greatestReferences →
        p.run "document" text = .ok ⟨true, text.utf8ByteSize, .list values⟩) ∧
      (p.run "document" text = .ok ⟨true, text.utf8ByteSize, .list values⟩ ∨
        p.run "document" text = .error (Cause.recursionLimit defaultMaxDepth)) := by
  have hp' : p.withMaxDepth defaultMaxDepth = p := by
    have hcompile := Parser.compile_withMaxDepth grammar defaultMaxDepth defaultMaxDepth
    rw [← parser, hp] at hcompile
    exact (Except.ok.inj hcompile).symm
  obtain ⟨values, hvalues, hrun⟩ := run_withMaxDepth hp
    (max defaultMaxDepth (root rules).references) h (Nat.le_succ_of_le (Nat.le_max_right ..))
  have hless := Parser.run_of_le (Nat.le_max_left ..) hrun
  rw [hp'] at hless
  refine ⟨values, hvalues, fun hr => hless.resolve_right fun hlimit => ?_, hless⟩
  obtain ⟨values', -, hrun'⟩ := run_withMaxDepth hp defaultMaxDepth h hr
  rw [hp', hlimit] at hrun'
  cases hrun'

/-- **Reading the text of a grammar is defining its rules**, unless that takes too many
references. -/
theorem definitions_of_document {text : String} (h : Document rules text.toList) (name : String) :
    ((root rules).references ≤ greatestReferences →
      definitions name text = define rules .empty) ∧
    (definitions name text = define rules .empty ∨
      definitions name text = .error (Cause.recursionLimit defaultMaxDepth)) := by
  obtain ⟨p, hp⟩ := exists_parser_eq
  obtain ⟨values, hvalues, henough, hrun⟩ := run_document hp h
  have hread : p.run "document" text = .ok ⟨true, text.utf8ByteSize, .list values⟩ →
      definitions name text = define rules .empty := by
    intro hok
    have hrules : Notation.rules (.list values) = .ok rules := by
      simp only [Notation.rules, Value.list?, Option.bind_some, hvalues, List.find?_cons,
        decide_true]
    have hcomplete :
        (⟨true, text.utf8ByteSize, .list values⟩ : Outcome).isComplete text = true := by
      simp [Outcome.isComplete]
    simp only [definitions, hp, hok, bind, Except.bind, hcomplete, hrules]
    exact if_neg Bool.false_ne_true
  refine ⟨fun hr => hread (henough hr), hrun.imp hread fun hlimit => ?_⟩
  unfold definitions
  rw [hp]
  generalize Diagnostic.ofCause (Cause.recursionLimit defaultMaxDepth) = e at *
  simp only [bind, Except.bind, hlimit]

end DataGrammar.Notation
