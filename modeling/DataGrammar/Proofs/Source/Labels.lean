import DataGrammar.Proofs.Document.Faults
import DataGrammar.Proofs.Matching.Bounds
import DataGrammar.Proofs.Notation.Rules
import DataGrammar.Source.Loading

/-!
# Where errors of grammar texts point to

A text that is no grammar is reported with a place in it. In the notation this is where the run
stopped, which is a character boundary. In JSON it is found from the line and the column of the last
byte that was read, which need not be where a character begins.

* `Parser.isValid_of_run`: runs stop at boundaries of the text.
* `Notation.definitions_of_not_isComplete`, `Notation.not_isComplete_of_source`: in the notation
  only a text that does not match as a whole is pointed into.
* `GrammarFormat.label_of_definitions`: where the errors of both formats point to.
-/

namespace DataGrammar

/-- A run stops at a boundary of the text. -/
theorem Parser.isValid_of_run {d : Definitions} {maxDepth : Nat} {p : Parser}
    (h : compile d maxDepth = .ok p) {rule text : String} {o : Outcome}
    (ho : p.run rule text = .ok o) :
    o.position ≤ text.utf8ByteSize ∧ (⟨o.position⟩ : String.Pos.Raw).IsValid text := by
  obtain ⟨index, a, -, ha, rfl⟩ := run_eq_ok_iff.1 ho
  have hexecute := execute_at (fun _ => exists_compile_of_hasNode h) p.maxDepth
    (⟨index, .self⟩ : p.HasNode (p.node index)) (Cursor.at_start text)
  rw [ha] at hexecute
  exact hexecute.2.2

/-- A run that has no outcome points nowhere. -/
theorem Parser.source_of_run {p : Parser} {rule text : String} {e : Diagnostic}
    (h : p.run rule text = .error e) : e.source = none := by
  unfold run at h
  split at h
  · cases h
    rfl
  · split at h
    · cases h
      rfl
    · cases h

namespace Notation

variable {name text : String} {e : Diagnostic}

/-- Trees that have no rules are not pointed into. -/
theorem source_of_rules {tree : Value} (h : rules tree = .error e) : e.source = none := by
  unfold rules at h
  split at h
  · cases h
    rfl
  · split at h
    · cases h
      rfl
    · cases h
    · cases h
      rfl

/-- Rules that cannot be defined are not pointed to. -/
theorem source_of_define {rules : List (String × Literal)}
    (h : define rules .empty = .error e) : e.source = none := by
  obtain ⟨before, rule, after, -, -, hfault⟩ := define_eq_error_iff.1 h
  cases hfault with
  | description hdescribe =>
    obtain ⟨reason, -, rfl⟩ := Literal.blames_describe rule.1 rule.2 _ hdescribe
    rfl
  | duplicate => rfl

variable {p : Parser} {o : Outcome}

/-- A text that does not match as a whole is pointed into at the place where its run stopped. -/
theorem definitions_of_not_isComplete (hp : parser = .ok p) (ho : p.run "document" text = .ok o)
    (hc : o.isComplete text = false) (name : String) : definitions name text =
      .error ((Diagnostic.ofCause (mismatch o)).withSource ⟨name, text, o.position, 0⟩) := by
  have hle := (Parser.isValid_of_run hp ho).1
  simp only [definitions, hp, ho, hc, bind, Except.bind, Bool.not_false, if_true]
  rw [Excerpt.between, Nat.min_eq_left hle, Nat.sub_self]
  rfl

/-- **No other text is pointed into.** -/
theorem not_isComplete_of_source (hp : parser = .ok p) (h : definitions name text = .error e)
    (hs : e.source.isSome) :
    ∃ o, p.run "document" text = .ok o ∧ o.isComplete text = false := by
  -- Everything else that is reported has no source.
  have hnone : e.source ≠ none := Option.isSome_iff_ne_none.1 hs
  cases ho : p.run "document" text with
  | error e' =>
    rw [definitions, hp] at h
    simp only [ho, bind, Except.bind] at h
    cases h
    exact absurd (Parser.source_of_run ho) hnone
  | ok o =>
    refine ⟨o, rfl, Bool.eq_false_iff.2 fun hc => ?_⟩
    rw [definitions_of_isComplete hp ho hc] at h
    cases hr : Notation.rules o.result with
    | error e' =>
      rw [hr] at h
      cases h
      exact absurd (source_of_rules hr) hnone
    | ok rules =>
      rw [hr] at h
      exact absurd (source_of_define h) hnone

end Notation

namespace GrammarFormat

/-- **Errors point into the text.** Any text that is no grammar in JSON is pointed into, at the last
byte that was read, or behind it if that is a line feed. This is a boundary unless the text ends in
a character of several bytes or has no digits in an escape. In the notation a text that does not
match as a whole is pointed into, and no other one: at the boundary where its run stopped. -/
theorem label_of_definitions {p : Parser} (hp : Notation.parser = .ok p) (name text : String) :
    (∀ e, json.definitions name text = .error e → ∃ fault,
      Document.definitions text = .error fault ∧
      e = (Diagnostic.ofCause (.format "JSON" (fault.message text))).withSource
        ⟨name, text, fault.place text, 0⟩ ∧
      fault.place text ≤ text.utf8ByteSize ∧
      (fault.place text = fault.offset - 1 ∨
        fault.place text = fault.offset ∧ Position.AfterFeed text fault.offset) ∧
      ((⟨fault.place text⟩ : String.Pos.Raw).IsValid text ∨ EndsWithin text (fault.place text) ∨
        fault.fault = .json .invalidEscape ∧ FourthDigit text (fault.place text))) ∧
    (∀ o, p.run "document" text = .ok o → o.isComplete text = false →
      native.definitions name text = .error ((Diagnostic.ofCause (Notation.mismatch o)).withSource
        ⟨name, text, o.position, 0⟩) ∧
      o.position ≤ text.utf8ByteSize ∧ (⟨o.position⟩ : String.Pos.Raw).IsValid text) ∧
    ∀ e, native.definitions name text = .error e → e.source.isSome →
      ∃ o, p.run "document" text = .ok o ∧ o.isComplete text = false := by
  refine ⟨fun e h => ?_, fun o ho hc => ?_, fun e h hs => Notation.not_isComplete_of_source hp h hs⟩
  · cases hd : Document.definitions text with
    | ok d =>
      rw [definitions, hd] at h
      cases h
    | error fault =>
      rw [definitions, hd] at h
      cases h
      have hsited := Document.sited_of_definitions hd
      have hle : fault.offset ≤ text.utf8ByteSize := by
        rw [← utf8Length_toList]
        exact Placed.le hsited
      have hplace := Position.offset_ofOffset_pred hle
      refine ⟨fault, rfl, ?_, ?_, hplace, Placed.reported hsited⟩
      · rw [GrammarFormat.fault, Excerpt.between, Nat.sub_self]
        rfl
      · rcases hplace with heq | ⟨heq, -⟩
        · exact heq.trans_le ((Nat.sub_le ..).trans hle)
        · exact heq.trans_le hle
  · exact ⟨Notation.definitions_of_not_isComplete hp ho hc name, Parser.isValid_of_run hp ho⟩

/-- In JSON a text that ends in a string, behind a character of two bytes, is pointed into between
these. -/
theorem label_within_character : ∃ e, json.definitions "grammar" "\"é" = .error e ∧
    e.source = some ⟨"grammar", "\"é", 2, 0⟩ ∧ ¬ (⟨2⟩ : String.Pos.Raw).IsValid "\"é" := by
  have hwithin : EndsWithin "\"é" 2 := ⟨['"'], 'é', rfl, by decide, rfl⟩
  have hread : json.definitions "grammar" "\"é" = .error (fault .json
      (Json.located "EOF while parsing a string" "\"é" 3) "grammar" "\"é" 2) := by decide +kernel
  exact ⟨_, hread, rfl, hwithin.not_isValid⟩

/-- A text that is no grammar in either format. -/
def brokenText : String := "\x7b\n\"é\" 1\x7d"

/-- What is wrong with the text in JSON. -/
def brokenFault : Document.Error := ⟨.unknownField "é", 7⟩

/-- What a run makes of the text. -/
def brokenOutcome : Outcome := ⟨false, 2, .map []⟩

theorem run_brokenText {p : Parser} (hp : Notation.parser = .ok p) :
    p.run "document" brokenText = .ok brokenOutcome := by
  rw [Parser.run_eq_call hp]
  decide +kernel

theorem label_of_definitions_broken : ∃ p, Notation.parser = .ok p ∧
    p.run "document" brokenText = .ok brokenOutcome ∧
    (∃ e, json.definitions "grammar" brokenText = .error e ∧
      e.source = some ⟨"grammar", brokenText, 6, 0⟩ ∧ 6 ≤ brokenText.utf8ByteSize) ∧
    ∃ e, native.definitions "grammar" brokenText = .error e ∧
      e.source = some ⟨"grammar", brokenText, 2, 0⟩ ∧
      (⟨2⟩ : String.Pos.Raw).IsValid brokenText := by
  obtain ⟨p, hp⟩ := Notation.exists_parser_eq
  have hrun := run_brokenText hp
  obtain ⟨hjson, hnative, -⟩ := label_of_definitions hp "grammar" brokenText
  refine ⟨p, hp, hrun, ?_, ?_⟩
  · have hread : Document.definitions brokenText = .error brokenFault := by decide +kernel
    have hplace : brokenFault.place brokenText = 6 := by decide
    have he : json.definitions "grammar" brokenText =
        .error (fault .json (brokenFault.message brokenText) "grammar" brokenText 6) := by
      rw [definitions, hread, ← hplace]
    obtain ⟨fault, hfault, hsource, hle, -⟩ := hjson _ he
    rw [hread] at hfault
    cases hfault
    rw [hplace] at hsource hle
    exact ⟨_, he, congrArg Diagnostic.source hsource, hle⟩
  · obtain ⟨he, -, hvalid⟩ := hnative brokenOutcome hrun (by decide)
    exact ⟨_, he, rfl, hvalid⟩

end GrammarFormat
end DataGrammar
