import DataGrammar.Notation.Reading
import DataGrammar.Proofs.Compilation.Inversion

/-!
# What is said of texts that are no grammars

Reading the rules off a text can fail in few ways, each with its own words.

* `Literal.Complaint`: what is said of a literal that describes nothing in a rule.
* `Refused`: what is said of a text that is no grammar.
* `cause_of_definitions`: reading the rules off a text says one of these, unless its run is aborted
  or finds a tree that is none of the notation.
-/

namespace DataGrammar.Notation

/-- What is said of a literal that describes nothing in a rule. -/
inductive Literal.Complaint : String → Prop
  /-- It is a literal of another kind. -/
  | kind {kind : String} (h : kind ∈ ["number", "boolean", "null"]) (spelling : String) :
    Complaint s!"{kind} `{spelling}` is not a grammar construct"
  /-- A property that bounds a repetition has another value than a number. -/
  | bound (key : String) : Complaint s!"`{key}` must be a non-negative number"
  /-- A property that is a word has another value. -/
  | label (key : String) : Complaint s!"`{key}` must be a string"
  /-- A property that has parts has another value than an array. -/
  | array (key : String) : Complaint s!"`{key}` must be an array"
  /-- A property means nothing. -/
  | key (key : String) : Complaint s!"unknown key `{key}`"
  /-- No property says which construct it is. -/
  | shapeless : Complaint "object needs one of `contains`, `first`, or `repeats`"
  /-- Several properties say so. -/
  | ambiguous : Complaint "use only one of `contains`, `first`, or `repeats`"

/-- If the computation fails, it complains about the rule. -/
def Blames {α : Type} (rule : String) (x : Except Diagnostic α) : Prop :=
  ∀ e, x = .error e → ∃ reason, Literal.Complaint reason ∧ e = invalid rule reason

section

variable {α β : Type} {rule : String}

theorem blames_ok (a : α) : Blames rule (.ok a) := nofun

theorem blames_error {reason : String} (h : Literal.Complaint reason) :
    Blames (α := α) rule (.error (invalid rule reason)) := by
  rintro _ ⟨⟩
  exact ⟨reason, h, rfl⟩

theorem blames_bind {x : Except Diagnostic α} {f : α → Except Diagnostic β} (hx : Blames rule x)
    (hf : ∀ a, Blames rule (f a)) : Blames rule (x >>= f) := by
  intro e he
  cases x with
  | error e' => exact hx e (congrArg Except.error (Except.error.inj he))
  | ok a => exact hf a e he

end

namespace Literal

variable (rule : String)

theorem blames_bound (key : String) (literal : Literal) : Blames rule (literal.bound rule key) := by
  unfold bound
  split
  · split
    · exact blames_ok _
    · exact blames_error (.bound key)
  · exact blames_error (.bound key)

theorem blames_label (key : String) (literal : Literal) : Blames rule (literal.label rule key) := by
  unfold label
  split
  · exact blames_ok _
  · exact blames_ok _
  · exact blames_error (.label key)

mutual

/-- **A literal that describes nothing is complained about.** -/
theorem blames_describe (literal : Literal) : Blames rule (literal.describe rule) := by
  cases literal with
  | string content => exact blames_ok _
  | word content => exact blames_ok _
  | regex body => exact blames_ok _
  | number spelling => exact blames_error (.kind (show "number" ∈ _ by simp) spelling)
  | boolean spelling => exact blames_error (.kind (show "boolean" ∈ _ by simp) spelling)
  | null spelling => exact blames_error (.kind (show "null" ∈ _ by simp) spelling)
  | array items =>
    simp only [describe]
    exact blames_bind (blames_describeItems items) fun _ => blames_ok _
  | object properties =>
    simp only [describe]
    refine blames_bind (blames_draft properties {}) fun draft => ?_
    split
    · exact blames_ok _
    · next m _ =>
      cases m with
      | shapeless => exact blames_error .shapeless
      | ambiguous => exact blames_error .ambiguous

theorem blames_describeItems (items : List Literal) :
    Blames rule (describeItems rule items) := by
  cases items with
  | nil => exact blames_ok _
  | cons literal items =>
    simp only [describeItems]
    exact blames_bind (blames_describe literal) fun _ =>
      blames_bind (blames_describeItems items) fun _ => blames_ok _

theorem blames_describeArray (key : String) (literal : Literal) :
    Blames rule (literal.describeArray rule key) := by
  cases literal with
  | array items => exact blames_describeItems items
  | _ => exact blames_error (.array key)

theorem blames_draft (properties : List (String × Literal)) (d : Draft) :
    Blames rule (draft rule properties d) := by
  cases properties with
  | nil => exact blames_ok _
  | cons property properties =>
    obtain ⟨key, literal⟩ := property
    have hrest : ∀ d, Blames rule (draft rule properties d) := fun d => blames_draft properties d
    simp only [draft]
    split
    · exact blames_bind (blames_describeArray _ literal) fun _ => hrest _
    · exact blames_bind (blames_describeArray _ literal) fun _ => hrest _
    · exact blames_bind (blames_describe literal) fun _ => hrest _
    · exact blames_bind (blames_describe literal) fun _ => hrest _
    · exact blames_bind (blames_bound rule _ literal) fun _ => hrest _
    · exact blames_bind (blames_bound rule _ literal) fun _ => hrest _
    · exact blames_bind (blames_label rule _ literal) fun _ => hrest _
    · exact blames_bind (blames_label rule _ literal) fun _ => hrest _
    · exact hrest _
    · exact blames_error (.key key)

end

end Literal

/-- What is said of a text that is no grammar. -/
inductive Refused : Cause → Prop
  /-- It does not match as a whole. -/
  | mismatch (o : Outcome) : Refused (mismatch o)
  /-- It has no rules. -/
  | missing : Refused (.invalidNotation "missing `definitions`")
  /-- Its rules are no object. -/
  | misplaced : Refused (.invalidNotation "`definitions` must be an object")
  /-- A rule describes nothing. -/
  | description (rule : String) {reason : String} (h : Literal.Complaint reason) :
    Refused (.invalidDescription rule reason)
  /-- A rule comes twice. -/
  | duplicate (rule : String) : Refused (.duplicateRule rule)

theorem refused_of_define {rules : List (String × Literal)} {d : Definitions} {e : Diagnostic}
    (h : define rules d = .error e) : Refused e.cause := by
  induction rules generalizing d with
  | nil => cases h
  | cons property rules ih =>
    obtain ⟨rule, literal⟩ := property
    simp only [define] at h
    cases hd : literal.describe rule with
    | error e' =>
      rw [hd] at h
      cases h
      obtain ⟨reason, hreason, rfl⟩ := Literal.blames_describe rule literal _ hd
      exact .description rule hreason
    | ok description =>
      simp only [hd, bind, Except.bind] at h
      split at h
      · cases h
        exact .duplicate rule
      · exact ih h

theorem refused_of_rules {tree : Value} {e : Diagnostic}
    (ht : (tree.list?.bind Literal.properties?).isSome) (h : rules tree = .error e) :
    Refused e.cause := by
  unfold rules at h
  split at h
  · next hnone =>
    rw [hnone] at ht
    cases ht
  · split at h
    · cases h
      exact .missing
    · cases h
    · cases h
      exact .misplaced

/-- Reading the rules off a text whose run comes to an end says what is said of texts that are no
grammars, unless the run matches the whole text and finds a tree that is none of the notation. -/
theorem cause_of_definitions {p : Parser} (hp : parser = .ok p) {name text : String} {o : Outcome}
    (ho : p.run "document" text = .ok o)
    (ht : o.success = true → (o.result.list?.bind Literal.properties?).isSome) {e : Diagnostic}
    (h : definitions name text = .error e) : Refused e.cause := by
  rw [definitions, hp] at h
  simp only [ho, bind, Except.bind] at h
  split at h
  · cases h
    exact .mismatch o
  · next hcomplete =>
    have hsuccess : o.success = true := by
      simp only [Bool.not_eq_true, Bool.not_eq_false', Outcome.isComplete, Bool.and_eq_true] at hcomplete
      exact hcomplete.1
    cases hr : rules o.result with
    | error e' =>
      simp only [hr] at h
      cases h
      exact refused_of_rules (ht hsuccess) hr
    | ok defined =>
      simp only [hr] at h
      exact refused_of_define h

end DataGrammar.Notation
