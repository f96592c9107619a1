import DataGrammar.Proofs.Keyed
import DataGrammar.Proofs.Notation.Lexicon

/-!
# Reading the texts of literals

The grammar of the notation reads every text of a literal, and the value that it gives is read as
that literal again, as long as there are references enough.

* `call_of_mem` and the lemmas after it: what the rules of the grammar run.
* `reads_listed`, `reads_bracketed`: entries with commas between them, and brackets around them.
* `Literal.reads_propertyValue`: the texts of a literal.
* `reads_document`: a text with an object.
-/

namespace DataGrammar.Notation

open Pattern Description

/-! ### The rules -/

section Rules

variable (limit depth : Nat)

theorem call_of_mem {name : String} {d : Description} {rules : List (String × Description)}
    (hg : grammar = .ofList rules) (hd : Keyed.Distinct rules) (h : (name, d) ∈ rules) :
    grammar.call limit (depth + 1) name = d.interpret (grammar.call limit depth) := by
  have hget : grammar.get? name = some d := hg ▸ Definitions.get?_ofList hd h
  simp only [Definitions.call, hget]

theorem call_identifier :
    grammar.call limit (depth + 1) "identifier" = matchPattern "[A-Za-z_][A-Za-z0-9_]*" :=
  call_of_mem limit depth (d := .pattern "[A-Za-z_][A-Za-z0-9_]*") rfl (by decide) (by simp)

theorem call_doubleQuoteName : grammar.call limit (depth + 1) "doubleQuoteName" =
    matchPattern "\"((?:[^\"\\\\]|\\\\.)*)\"" :=
  call_of_mem limit depth (d := .pattern "\"((?:[^\"\\\\]|\\\\.)*)\"") rfl (by decide) (by simp)

theorem call_singleQuoteName : grammar.call limit (depth + 1) "singleQuoteName" =
    matchPattern "'((?:[^'\\\\]|\\\\.)*)'" :=
  call_of_mem limit depth (d := .pattern "'((?:[^'\\\\]|\\\\.)*)'") rfl (by decide) (by simp)

theorem call_regexValue :
    grammar.call limit (depth + 1) "regexValue" = matchPattern "/((?:[^/\\\\]|\\\\.)*)/" :=
  call_of_mem limit depth (d := .pattern "/((?:[^/\\\\]|\\\\.)*)/") rfl (by decide) (by simp)

theorem call_numberValue : grammar.call limit (depth + 1) "numberValue" =
    matchPattern "[-+]?(?:\\d+\\.?\\d*|\\d*\\.?\\d+)" :=
  call_of_mem limit depth (d := .pattern "[-+]?(?:\\d+\\.?\\d*|\\d*\\.?\\d+)") rfl (by decide) (by simp)

theorem call_boolValue :
    grammar.call limit (depth + 1) "boolValue" = matchPattern "(?:true|false)\\b" :=
  call_of_mem limit depth (d := .pattern "(?:true|false)\\b") rfl (by decide) (by simp)

theorem call_nullValue :
    grammar.call limit (depth + 1) "nullValue" = matchPattern "(null|undefined)\\b" :=
  call_of_mem limit depth (d := .pattern "(null|undefined)\\b") rfl (by decide) (by simp)

theorem call_stringValue : grammar.call limit (depth + 1) "stringValue" =
    Step.choice .none
      [⟨some "doubleQuoteName", false, grammar.call limit depth "doubleQuoteName"⟩,
        ⟨some "singleQuoteName", false, grammar.call limit depth "singleQuoteName"⟩] none :=
  call_of_mem limit depth (d := oneOf .none ["doubleQuoteName", "singleQuoteName"])
    rfl (by decide) (by simp)

theorem call_propertyName : grammar.call limit (depth + 1) "propertyName" =
    Step.choice .none
      [⟨some "identifier", false, grammar.call limit depth "identifier"⟩,
        ⟨some "stringValue", false, grammar.call limit depth "stringValue"⟩] none :=
  call_of_mem limit depth (d := oneOf .none ["identifier", "stringValue"]) rfl (by decide) (by simp)

theorem call_property : grammar.call limit (depth + 1) "property" =
    Step.sequence none
      [⟨some "Name", false, grammar.call limit depth "propertyName"⟩,
        ⟨none, false, matchPattern "\\s*:\\s*"⟩,
        ⟨some "Value", false, grammar.call limit depth "propertyValue"⟩] none :=
  call_of_mem limit depth (d := .series [.ref "propertyName:Name", .pattern "\\s*:\\s*",
    .ref "propertyValue:Value"]) rfl (by decide) (by simp)

theorem call_propertyList : grammar.call limit (depth + 1) "propertyList" =
    Step.repetition (grammar.call limit depth "property") (some (matchPattern "\\s*,\\s*")) 0
      none :=
  call_of_mem limit depth (d := commaSeparated "property") rfl (by decide) (by simp)

theorem call_valueList : grammar.call limit (depth + 1) "valueList" =
    Step.repetition (grammar.call limit depth "propertyValue") (some (matchPattern "\\s*,\\s*")) 0
      none :=
  call_of_mem limit depth (d := commaSeparated "propertyValue") rfl (by decide) (by simp)

/-- A list between brackets, which stands for the two. -/
def bracketStep (opening closing : String) (list : Step (Except Diagnostic)) :
    Step (Except Diagnostic) :=
  Step.sequence none [⟨none, false, matchPattern opening⟩, ⟨none, true, list⟩,
    ⟨none, false, matchPattern closing⟩] none

theorem call_object : grammar.call limit (depth + 1) "object" =
    bracketStep "\\\x7b\\s*" "\\s*\\\x7d" (grammar.call limit depth "propertyList") :=
  call_of_mem limit depth (d := bracketed "\\\x7b\\s*" "propertyList::" "\\s*\\\x7d")
    rfl (by decide) (by simp)

theorem call_array : grammar.call limit (depth + 1) "array" =
    bracketStep "\\[\\s*" "\\s*\\]" (grammar.call limit depth "valueList") :=
  call_of_mem limit depth (d := bracketed "\\[\\s*" "valueList::" "\\s*\\]") rfl (by decide) (by simp)

theorem call_document : grammar.call limit (depth + 1) "document" =
    bracketStep "\\s*" "\\s*" (grammar.call limit depth "object") :=
  call_of_mem limit depth (d := bracketed "\\s*" "object::" "\\s*") rfl (by decide) (by simp)

/-- The kinds of literals that start with a mark of their own. -/
def markedKinds : List (Part (Except Diagnostic)) :=
  [⟨some "String", false, grammar.call limit depth "stringValue"⟩,
    ⟨some "Regex", false, grammar.call limit depth "regexValue"⟩,
    ⟨some "Object", false, grammar.call limit depth "object"⟩,
    ⟨some "Array", false, grammar.call limit depth "array"⟩]

theorem call_propertyValue : grammar.call limit (depth + 1) "propertyValue" =
    Step.choice .matched (markedKinds limit depth ++
      [⟨some "Number", false, grammar.call limit depth "numberValue"⟩,
        ⟨some "Boolean", false, grammar.call limit depth "boolValue"⟩,
        ⟨some "Null", false, grammar.call limit depth "nullValue"⟩,
        ⟨some "Identifier", false, grammar.call limit depth "identifier"⟩]) none :=
  call_of_mem limit depth (d := oneOf .matched ["stringValue:String", "regexValue:Regex",
    "object:Object", "array:Array", "numberValue:Number", "boolValue:Boolean", "nullValue:Null",
    "identifier:Identifier"]) rfl (by decide) (by simp)

end Rules

variable {limit depth : Nat} {content text rest ahead : List Char}

/-! ### Names -/

/-- A text in quotes is read. -/
theorem reads_stringValue (h : Quoted content text) (limit depth : Nat) :
    ∃ raw : String, unescape raw.toList = content ∧ ∀ rest,
      (grammar.call limit (depth + 2) "stringValue").Reads text rest (.text raw) := by
  obtain ⟨quote, body, hquote, hbody, rfl⟩ := h
  refine ⟨.ofList body, by rw [String.toList_ofList, unescape_of_quoted hbody], fun rest => ?_⟩
  rw [call_stringValue, call_doubleQuoteName, call_singleQuoteName]
  obtain rfl | rfl := hquote
  · exact Step.reads_choice (Step.chooses_head nofun
      (reads_enclosed means_doubleQuoteName (by decide) hbody.units))
  · exact Step.reads_choice (Step.chooses_skip (refuses_enclosed means_doubleQuoteName (by simp))
      (Step.chooses_head nofun (reads_enclosed means_singleQuoteName (by decide) hbody.units)))

theorem refuses_stringValue (h : ahead.head? ≠ some '"' ∧ ahead.head? ≠ some '\'')
    (limit depth : Nat) : (grammar.call limit (depth + 2) "stringValue").Refuses ahead := by
  rw [call_stringValue, call_doubleQuoteName, call_singleQuoteName]
  refine Step.refuses_choice ?_
  simp only [List.forall_mem_cons, List.not_mem_nil, false_imp_iff, implies_true, and_true]
  exact ⟨refuses_enclosed means_doubleQuoteName h.1, refuses_enclosed means_singleQuoteName h.2⟩

theorem unescaped_of_isIdentifier {name : String} (h : isIdentifier name.toList = true) :
    unescaped name = name := by
  rw [unescaped, unescape_of_forall (isIdentifier_ne_backslash h), String.ofList_toList]

/-- A name is read. -/
theorem reads_propertyName {name : String} (h : NameWritten name text) (limit depth : Nat) :
    ∃ raw : String, unescaped raw = name ∧ ∀ rest, Follows rest →
      (grammar.call limit (depth + 3) "propertyName").Reads text rest (.text raw) := by
  rw [call_propertyName, call_identifier]
  obtain ⟨hname, rfl⟩ | hquoted := h
  · refine ⟨name, unescaped_of_isIdentifier hname, fun rest hr => ?_⟩
    have hread := reads_identifier hname hr
    rw [String.ofList_toList] at hread
    exact Step.reads_choice (Step.chooses_head nofun hread)
  · obtain ⟨raw, hraw, hread⟩ := reads_stringValue hquoted limit depth
    refine ⟨raw, by rw [unescaped, hraw, String.ofList_toList], fun rest hr => ?_⟩
    refine Step.reads_choice (Step.chooses_skip ?_ (Step.chooses_head nofun (hread rest)))
    obtain ⟨quote, body, hquote, -, rfl⟩ := hquoted
    refine refuses_identifier ?_
    rintro _ ⟨⟩
    obtain rfl | rfl := hquote <;> rfl

theorem refuses_propertyName
    (h : ∀ c ∈ ahead.head?, lead.contains c = false ∧ c ≠ '"' ∧ c ≠ '\'') (limit depth : Nat) :
    (grammar.call limit (depth + 3) "propertyName").Refuses ahead := by
  rw [call_propertyName, call_identifier]
  refine Step.refuses_choice ?_
  simp only [List.forall_mem_cons, List.not_mem_nil, false_imp_iff, implies_true, and_true]
  exact ⟨refuses_identifier fun c hc => (h c hc).1, refuses_stringValue
    ⟨fun hc => (h _ hc).2.1 rfl, fun hc => (h _ hc).2.2 rfl⟩ limit depth⟩

/-! ### Lists -/

/-- The text has a first character, which is no blank. -/
def Begins (text : List Char) : Prop :=
  ∃ c cs, text = c :: cs ∧ Unicode.space.contains c = false

theorem Begins.unblank (h : Begins text) (rest : List Char) : Unblank (text ++ rest) := by
  obtain ⟨c, cs, rfl, hc⟩ := h
  rintro _ ⟨⟩
  exact hc

/-- The step reads every text of an entry in front of what may follow, as a value of some kind. -/
def ReadsAs (step : Step (Except Diagnostic)) (entry : List Char → Prop) (kind : Value → Prop) :
    Prop :=
  ∀ text, entry text → Begins text ∧ ∃ v, kind v ∧ ∀ rest, Follows rest → step.Reads text rest v

/-- A bracket that closes a list, before anything. -/
def Closing (item : Step (Except Diagnostic)) (rest : List Char) : Prop :=
  item.Refuses rest ∧ ∃ c cs, rest = c :: cs ∧ (c = ']' ∨ c = '}')

theorem Closing.follows {item : Step (Except Diagnostic)} (h : Closing item rest)
    {before : List Char} (hb : Blank Unicode.space.contains before) : Follows (before ++ rest) := by
  obtain ⟨-, c, cs, rfl, hc⟩ := h
  cases before with
  | nil =>
    rintro _ ⟨⟩
    obtain rfl | rfl := hc <;> decide
  | cons d before =>
    rintro _ ⟨⟩
    exact .inl (hb d (List.mem_cons_self ..))

theorem Closing.unblank {item : Step (Except Diagnostic)} (h : Closing item rest) :
    Unblank rest := by
  obtain ⟨-, c, cs, rfl, hc⟩ := h
  rintro _ ⟨⟩
  obtain rfl | rfl := hc <;> decide

theorem Closing.head?_ne {item : Step (Except Diagnostic)} (h : Closing item rest) :
    rest.head? ≠ some ',' := by
  obtain ⟨-, c, cs, rfl, hc⟩ := h
  obtain rfl | rfl := hc <;> simp

theorem follows_separator {before after : List Char} (hb : Blank Unicode.space.contains before)
    {c : Char} (hc : c ∈ followers) : Follows (before ++ c :: after) := by
  cases before with
  | nil =>
    rintro _ ⟨⟩
    exact .inr hc
  | cons d before =>
    rintro _ ⟨⟩
    exact .inl (hb d (List.mem_cons_self ..))

theorem begins_of_listed {entry : List Char → Prop} {entries : List (List Char → Prop)}
    (h : Listed Unicode.space.contains true (entry :: entries) text)
    (hentry : ∀ text, entry text → Begins text) : Begins text := by
  have happend : ∀ {a : List Char} (b : List Char), Begins a → Begins (a ++ b) := by
    rintro a b ⟨c, cs, rfl, hc⟩
    exact ⟨c, cs ++ b, rfl, hc⟩
  cases h with
  | last h hb => exact happend _ (hentry _ h)
  | trailing h ht hb hb' => exact happend _ (hentry _ h)
  | cons h hb hb' hm => exact happend _ (happend _ (hentry _ h))

theorem unblank_listed {item : Step (Except Diagnostic)} {entries : List (List Char → Prop)}
    {kinds : List (Value → Prop)} (h : Listed Unicode.space.contains true entries text)
    (hitem : List.Forall₂ (ReadsAs item) entries kinds) (hr : Unblank rest) :
    Unblank (text ++ rest) := by
  cases hitem with
  | nil =>
    cases h
    exact hr
  | cons hentry _ => exact (begins_of_listed h fun _ ht => (hentry _ ht).1).unblank rest

/-- **A list of entries is read** up to blanks before the bracket that closes it. -/
theorem reads_listed {item : Step (Except Diagnostic)} {entries : List (List Char → Prop)}
    {kinds : List (Value → Prop)} (h : Listed Unicode.space.contains true entries text)
    (hitem : List.Forall₂ (ReadsAs item) entries kinds) :
    ∃ list blanks values, text = list ++ blanks ∧ Blank Unicode.space.contains blanks ∧
      List.Forall₂ (fun kind v => kind v) kinds values ∧ ∀ rest, Closing item rest →
      ∀ (tries : Nat) (items : List Value) (c : Cursor), c.ahead = list ++ (blanks ++ rest) →
      list.length < tries →
      Step.repetitionFrom item (some (matchPattern "\\s*,\\s*")) 0 true tries items c =
        .ok ⟨true, c.advance list.length, .list (items.reverse ++ values)⟩ := by
  have hcomma : Unicode.space.contains ',' = false := by decide
  induction h generalizing kinds with
  | nil =>
    cases hitem
    refine ⟨[], [], [], rfl, blank_nil, .nil, fun rest hr tries items c hc ht => ?_⟩
    obtain ⟨tries, rfl⟩ := Nat.exists_eq_add_one_of_ne_zero ht.ne'
    rw [Step.repetitionFrom_of_refuses (by rw [hc]; exact hr.1), List.append_nil]
    rfl
  | @last entry text blanks h hb =>
    cases hitem with
    | cons hentry htail =>
      cases htail
      obtain ⟨-, v, hv, hread⟩ := hentry _ h
      refine ⟨text, blanks, [v], rfl, hb, .cons hv .nil, fun rest hr tries items c hc ht => ?_⟩
      obtain ⟨tries, rfl⟩ := Nat.exists_eq_add_one_of_ne_zero (Nat.ne_zero_of_lt ht)
      exact Step.repetitionFrom_of_last (hread _ (hr.follows hb))
        (refuses_separator means_comma hcomma hb hr.unblank hr.head?_ne) hc
  | @trailing entry text blanks blanks' h ht hb hb' =>
    cases hitem with
    | cons hentry htail =>
      cases htail
      obtain ⟨-, v, hv, hread⟩ := hentry _ h
      refine ⟨text ++ (blanks ++ ',' :: blanks'), [], [v], (List.append_nil _).symm, blank_nil,
        .cons hv .nil, fun rest hr tries items c hc ht => ?_⟩
      rw [List.nil_append] at hc
      have hlist := Cursor.ahead_advance hc
      rw [List.append_assoc] at hc
      obtain ⟨tries, rfl⟩ : ∃ n, tries = n + 1 + 1 := ⟨tries - 2, by simp at ht; omega⟩
      rw [Step.repetitionFrom_of_reads
        (hread _ (by rw [List.append_assoc]; exact follows_separator hb (by decide)))
        (reads_separator means_comma hcomma hb hb' hr.unblank) (by simp) hc,
        Step.repetitionFrom_of_refuses (by rw [hlist]; exact hr.1), List.reverse_cons]
  | @cons entry next entries text blanks blanks' more h hb hb' hm ih =>
    cases hitem with
    | cons hentry htail =>
      obtain ⟨-, v, hv, hread⟩ := hentry _ h
      have hbegins : Begins more := by
        cases htail with
        | cons hnext _ => exact begins_of_listed hm fun _ ht => (hnext _ ht).1
      obtain ⟨list, end', values, rfl, hend, hvalues, hlist⟩ := ih htail
      refine ⟨text ++ (blanks ++ ',' :: blanks') ++ list, end', v :: values,
        (List.append_assoc _ _ _).symm, hend, .cons hv hvalues, fun rest hr tries items c hc ht => ?_⟩
      rw [List.append_assoc] at hc
      have hmore := Cursor.ahead_advance hc
      rw [List.append_assoc] at hc
      obtain ⟨tries, rfl⟩ := Nat.exists_eq_add_one_of_ne_zero (Nat.ne_zero_of_lt ht)
      rw [Step.repetitionFrom_of_reads
        (hread _ (by rw [List.append_assoc]; exact follows_separator hb (by decide)))
        (reads_separator means_comma hcomma hb hb' (by
          rw [← List.append_assoc]
          exact hbegins.unblank rest)) (by simp) hc,
        hlist rest hr tries (v :: items) _ hmore (by simp at ht ⊢; omega),
        ← Cursor.advance_add, ← List.length_append, List.reverse_cons, List.append_assoc items.reverse,
        List.singleton_append]

/-- A list between brackets stands for them and the brackets. -/
theorem reads_bracketStep {opening closing : String} {list : Step (Except Diagnostic)}
    {a b d : List Char} {u v w : Value}
    (h₁ : Step.Reads (matchPattern opening) a (b ++ (d ++ rest)) u)
    (h₂ : list.Reads b (d ++ rest) v) (h₃ : Step.Reads (matchPattern closing) d rest w) :
    (bracketStep opening closing list).Reads (a ++ (b ++ d)) rest v := Step.reads_three h₁ h₂ h₃

/-- The step of a list between brackets reads it. -/
theorem reads_bracketed {item : Step (Except Diagnostic)} {entries : List (List Char → Prop)}
    {kinds : List (Value → Prop)} {sourceOpen sourceClose : String} {c d : Char}
    (hopen : Means sourceOpen (opening c)) (hclose : Means sourceClose (closing d))
    (hd : d = ']' ∨ d = '}')
    (h : Bracketed Unicode.space.contains true c d entries text)
    (hitem : List.Forall₂ (ReadsAs item) entries kinds)
    (hend : ∀ rest, item.Refuses (d :: rest)) :
    ∃ values, List.Forall₂ (fun kind v => kind v) kinds values ∧ ∀ rest,
      (bracketStep sourceOpen sourceClose
        (Step.repetition item (some (matchPattern "\\s*,\\s*")) 0 none)).Reads text rest
        (.list values) := by
  obtain ⟨blanks, list, hb, hlist, rfl⟩ := h
  obtain ⟨list, blanks', values, rfl, hb', hvalues, hread⟩ := reads_listed hlist hitem
  have hspace : Unicode.space.contains d = false := by obtain rfl | rfl := hd <;> decide
  refine ⟨values, hvalues, fun rest => ?_⟩
  have hclosing : Closing item (d :: rest) := ⟨hend rest, d, rest, rfl, hd⟩
  have hunblank : Unblank (list ++ (blanks' ++ [d] ++ rest)) := by
    have hbegins := unblank_listed hlist hitem hclosing.unblank
    simpa using hbegins
  have hrepetition : (Step.repetition item (some (matchPattern "\\s*,\\s*")) 0 none).Reads list
      (blanks' ++ [d] ++ rest) (.list values) := by
    intro start hstart
    have hahead : start.ahead = list ++ (blanks' ++ d :: rest) := by simpa using hstart
    exact hread (d :: rest) hclosing _ [] start hahead (by rw [hahead, List.length_append]; omega)
  have hthree := reads_bracketStep (reads_opening hopen hb hunblank) hrepetition
    (reads_closing hclose hspace hb')
  have htext : c :: blanks ++ (list ++ blanks') ++ [d] =
      c :: blanks ++ (list ++ (blanks' ++ [d])) := by simp
  rw [htext]
  exact hthree

/-! ### Literals -/

theorem refuses_regexValue (h : ahead.head? ≠ some '/') (limit depth : Nat) :
    (grammar.call limit (depth + 1) "regexValue").Refuses ahead := by
  rw [call_regexValue]
  exact refuses_enclosed means_regexValue h

theorem refuses_object (h : ahead.head? ≠ some '{') (limit depth : Nat) :
    (grammar.call limit (depth + 1) "object").Refuses ahead := by
  rw [call_object]
  exact Step.refuses_sequence (refuses_opening means_openBrace h)

theorem refuses_array (h : ahead.head? ≠ some '[') (limit depth : Nat) :
    (grammar.call limit (depth + 1) "array").Refuses ahead := by
  rw [call_array]
  exact Step.refuses_sequence (refuses_opening means_openBracket h)

/-- What starts with none of the marks. -/
def Unmarked (ahead : List Char) : Prop :=
  ∀ c ∈ ahead.head?, c ∉ ['"', '\'', '/', '{', '[']

theorem refuses_markedKinds (h : Unmarked ahead) (limit depth : Nat) :
    ∀ p ∈ markedKinds limit (depth + 2), p.step.Refuses ahead := by
  have hne : ∀ c ∈ ['"', '\'', '/', '{', '['], ahead.head? ≠ some c := fun c hc ha => h c ha hc
  simp only [markedKinds, List.forall_mem_cons, List.not_mem_nil, false_imp_iff, implies_true,
    and_true]
  exact ⟨refuses_stringValue ⟨hne _ (by simp), hne _ (by simp)⟩ limit depth,
    refuses_regexValue (hne _ (by simp)) limit _, refuses_object (hne _ (by simp)) limit _,
    refuses_array (hne _ (by simp)) limit _⟩

/-- What starts with a character of a set that has none of the marks. -/
theorem unmarked_of_contains {set : CharSet} {c : Char} (hc : set.contains c = true)
    (hs : ['"', '\'', '/', '{', '['].all (fun c => !set.contains c) = true) (rest : List Char) :
    Unmarked (c :: rest) := by
  rintro _ ⟨⟩ hmem
  have := List.all_eq_true.1 hs c hmem
  simp [hc] at this

/-- No literal starts with a bracket that closes a list. -/
theorem refuses_propertyValue {c : Char} (hc : c = ']' ∨ c = '}') (limit depth : Nat)
    (rest : List Char) :
    (grammar.call limit (depth + 3) "propertyValue").Refuses (c :: rest) := by
  rw [call_propertyValue]
  refine Step.refuses_choice (List.forall_mem_append.2 ⟨refuses_markedKinds ?_ limit depth, ?_⟩)
  · rintro _ ⟨⟩
    obtain rfl | rfl := hc <;> decide
  · simp only [List.forall_mem_cons, List.not_mem_nil, false_imp_iff, implies_true, and_true]
    rw [call_numberValue, call_boolValue, call_nullValue, call_identifier]
    refine ⟨refuses_number ?_, refuses_boolean ?_, refuses_null ?_, refuses_identifier ?_⟩
    · rintro _ ⟨⟩
      obtain rfl | rfl := hc <;> decide
    · refine goesOn_of_head? (by decide) (by decide) ?_
      obtain rfl | rfl := hc <;> simp
    · refine goesOn_of_head? (by decide) (by decide) ?_
      obtain rfl | rfl := hc <;> simp
    · rintro _ ⟨⟩
      obtain rfl | rfl := hc <;> decide

namespace Literal

/-- The value is read as the literal. -/
def IsValue (literal : Literal) (v : Value) : Prop := ofValue? v = some literal

/-- The value is read as the property. -/
def IsProperty (property : String × Literal) (v : Value) : Prop :=
  ∃ raw body, v = .map [("Name", .text raw), ("Value", body)] ∧ unescaped raw = property.1 ∧
    IsValue property.2 body

theorem items?_of_forall₂ {items : List Literal} {values : List Value}
    (h : List.Forall₂ (fun kind v => kind v) (items.map IsValue) values) :
    items? values = some items := by
  induction items generalizing values with
  | nil =>
    cases h
    rfl
  | cons literal items ih =>
    cases h with
    | @cons _ v _ values hv hvalues =>
      have hv : ofValue? v = some literal := hv
      simp only [items?, hv, ih hvalues]

theorem properties?_of_forall₂ {properties : List (String × Literal)} {values : List Value}
    (h : List.Forall₂ (fun kind v => kind v) (properties.map IsProperty) values) :
    properties? values = some properties := by
  induction properties generalizing values with
  | nil =>
    cases h
    rfl
  | cons property properties ih =>
    cases h with
    | @cons _ v _ values hv hvalues =>
      obtain ⟨raw, body, rfl, hname, hbody⟩ := hv
      have hbody : ofValue? body = some property.2 := hbody
      simp only [properties?, hbody, ih hvalues, hname]

/-- The texts of a literal are read by the rule for values. -/
def Read (limit depth : Nat) (literal : Literal) : Prop :=
  ReadsAs (grammar.call limit depth "propertyValue") literal.Written literal.IsValue

section Leaves

variable (limit depth : Nat)

theorem read_string (content : String) : Read limit (depth + 3) (.string content) := by
  intro text h
  obtain ⟨raw, hraw, hread⟩ := reads_stringValue h limit depth
  obtain ⟨quote, body, hquote, -, rfl⟩ := h
  refine ⟨⟨quote, _, rfl, by obtain rfl | rfl := hquote <;> decide⟩,
    .map [("String", .text raw)], ?_, fun rest _ => ?_⟩
  · rw [IsValue, ofValue?, unescaped, hraw, String.ofList_toList]
  · rw [call_propertyValue]
    exact Step.reads_choice (Step.chooses_head nofun (hread rest))

theorem read_regex (body : String) : Read limit (depth + 3) (.regex body) := by
  rintro text ⟨⟨pattern, h⟩, rfl⟩
  refine ⟨⟨'/', _, rfl, by decide⟩, .map [("Regex", .text body)], rfl, fun rest _ => ?_⟩
  have hread : Step.Reads _ ('/' :: body.toList ++ ['/']) rest _ :=
    reads_enclosed means_regexValue (by decide) h.units
  rw [String.ofList_toList] at hread
  rw [call_propertyValue, markedKinds, call_regexValue]
  exact Step.reads_choice (Step.chooses_skip (refuses_stringValue ⟨by simp, by simp⟩ limit depth)
    (Step.chooses_head nofun hread))

theorem read_number (spelling : String) : Read limit (depth + 3) (.number spelling) := by
  rintro text ⟨hne, hdigits, rfl⟩
  have hne : spelling.toList ≠ [] := by simpa using hne
  obtain ⟨c, cs, hcs⟩ := List.exists_cons_of_ne_nil hne
  have hc : Unicode.digit.contains c = true := contains_digit (hdigits c (by simp [hcs]))
  refine ⟨⟨c, cs, hcs, ?_⟩, .map [("Number", .text spelling)], rfl, fun rest hr => ?_⟩
  · exact CharSet.contains_eq_false (by decide) hc
  · have hread := reads_digits hne hdigits hr
    rw [String.ofList_toList] at hread
    rw [call_propertyValue, call_numberValue]
    refine Step.reads_choice (Step.chooses_append ?_ (Step.chooses_head nofun hread))
    rw [hcs]
    exact refuses_markedKinds (unmarked_of_contains hc (by decide) _) limit depth

/-- What starts with a letter or an underscore is left to the last kinds of literals. -/
theorem chooses_lead {c : Char} {cs : List Char} {v : Value}
    {parts : List (Part (Except Diagnostic))} (hc : lead.contains c = true)
    (h : Step.Chooses .matched parts (c :: cs) rest v) :
    Step.Chooses .matched (markedKinds limit (depth + 2) ++
      ⟨some "Number", false, matchPattern "[-+]?(?:\\d+\\.?\\d*|\\d*\\.?\\d+)"⟩ :: parts)
      (c :: cs) rest v := by
  have hmarked := unmarked_of_contains hc (by decide) (cs ++ rest)
  refine Step.chooses_append (refuses_markedKinds hmarked limit depth)
    (Step.chooses_skip (refuses_number ?_) h)
  rintro _ ⟨⟩
  exact ⟨CharSet.contains_eq_false (by decide) hc,
    CharSet.contains_eq_false (by decide) hc,
    CharSet.contains_eq_false (by decide) hc⟩

theorem read_boolean (spelling : String) : Read limit (depth + 3) (.boolean spelling) := by
  rintro text ⟨h, rfl⟩
  have hlead : ∃ c cs, spelling.toList = c :: cs ∧ lead.contains c = true := by
    simp only [List.mem_cons, List.not_mem_nil, or_false] at h
    obtain rfl | rfl := h
    · exact ⟨'t', _, rfl, by decide⟩
    · exact ⟨'f', _, rfl, by decide⟩
  obtain ⟨c, cs, hcs, hc⟩ := hlead
  refine ⟨⟨c, cs, hcs, CharSet.contains_eq_false (by decide) hc⟩,
    .map [("Boolean", .text spelling)], rfl, fun rest hr => ?_⟩
  have hread := reads_boolean h hr
  rw [hcs] at hread ⊢
  rw [call_propertyValue, call_numberValue, call_boolValue]
  exact Step.reads_choice (chooses_lead limit depth hc (Step.chooses_head nofun hread))

theorem read_null (spelling : String) : Read limit (depth + 3) (.null spelling) := by
  rintro text ⟨h, rfl⟩
  have hlead : ∃ c cs, spelling.toList = c :: cs ∧ lead.contains c = true ∧ c ≠ 't' ∧ c ≠ 'f' := by
    simp only [List.mem_cons, List.not_mem_nil, or_false] at h
    obtain rfl | rfl := h
    · exact ⟨'n', _, rfl, by decide⟩
    · exact ⟨'u', _, rfl, by decide⟩
  obtain ⟨c, cs, hcs, hc, ht, hf⟩ := hlead
  refine ⟨⟨c, cs, hcs, CharSet.contains_eq_false (by decide) hc⟩,
    .map [("Null", .text spelling)], rfl, fun rest hr => ?_⟩
  have hread := reads_null h hr
  rw [hcs] at hread ⊢
  rw [call_propertyValue, call_numberValue, call_boolValue, call_nullValue]
  refine Step.reads_choice (chooses_lead limit depth hc (Step.chooses_skip (refuses_boolean ?_)
    (Step.chooses_head nofun hread)))
  exact goesOn_of_head? (by decide) (by decide) ⟨by simpa using ht, by simpa using hf⟩

theorem read_word (content : String) : Read limit (depth + 3) (.word content) := by
  rintro text ⟨h, hreserved, rfl⟩
  obtain ⟨c, cs, hcs, hc, -⟩ := contains_of_isIdentifier h
  refine ⟨⟨c, cs, hcs, CharSet.contains_eq_false (by decide) hc⟩,
    .map [("Identifier", .text content)], rfl, fun rest hr => ?_⟩
  have hread := reads_identifier h hr
  have hne : ∀ word ∈ reserved, content.toList ≠ word.toList := by
    intro word hword heq
    exact hreserved (String.toList_inj.1 heq ▸ hword)
  have hgoes : ∀ first ∈ reserved, ∀ second ∈ reserved,
      GoesOn first second (content.toList ++ rest) := fun first hf second hs =>
    have hidentifier : ∀ word ∈ reserved, isIdentifier word.toList = true := by decide
    goesOn_of_isIdentifier h hr (hidentifier _ hf) (hidentifier _ hs) ⟨hne _ hf, hne _ hs⟩
  have hboolean := refuses_boolean (hgoes _ (by simp [reserved]) _ (by simp [reserved]))
  have hnull := refuses_null (hgoes _ (by simp [reserved]) _ (by simp [reserved]))
  rw [String.ofList_toList] at hread
  rw [hcs] at hread hboolean hnull ⊢
  rw [call_propertyValue, call_numberValue, call_boolValue, call_nullValue, call_identifier]
  exact Step.reads_choice (chooses_lead limit depth hc (Step.chooses_skip hboolean
    (Step.chooses_skip hnull (Step.chooses_head nofun hread))))

end Leaves

/-! ### Literals with parts -/

theorem begins_of_name {name : String} (h : NameWritten name text) : Begins text := by
  obtain ⟨hname, rfl⟩ | ⟨quote, body, hquote, -, rfl⟩ := h
  · obtain ⟨c, cs, hcs, hc, -⟩ := contains_of_isIdentifier hname
    exact ⟨c, cs, hcs, CharSet.contains_eq_false (by decide) hc⟩
  · exact ⟨quote, _, rfl, by obtain rfl | rfl := hquote <;> decide⟩

theorem refuses_property (limit depth : Nat) (rest : List Char) :
    (grammar.call limit (depth + 4) "property").Refuses ('}' :: rest) := by
  rw [call_property]
  refine Step.refuses_sequence (refuses_propertyName ?_ limit depth)
  rintro _ ⟨⟩
  decide

/-- A property is read if its value is. -/
theorem readsAs_property {literal : Literal} (h : Read limit (depth + 3) literal) (name : String) :
    ReadsAs (grammar.call limit (depth + 4) "property")
      (Paired Unicode.space.contains (NameWritten name) literal.Written)
      (IsProperty (name, literal)) := by
  rintro _ ⟨key, blanks, blanks', body, hkey, hb, hb', hbody, rfl⟩
  obtain ⟨raw, hraw, hname⟩ := reads_propertyName hkey limit depth
  obtain ⟨hbegins, v, hv, hread⟩ := h _ hbody
  obtain ⟨c, cs, hc, hspace⟩ := begins_of_name hkey
  refine ⟨⟨c, cs ++ (blanks ++ ':' :: blanks') ++ body, by simp [hc], hspace⟩,
    .map [("Name", .text raw), ("Value", v)], ⟨raw, v, rfl, hraw, hv⟩, fun rest hr => ?_⟩
  have hfollows : Follows ((blanks ++ ':' :: blanks') ++ (body ++ rest)) := by
    rw [List.append_assoc]
    exact follows_separator hb (by decide)
  rw [call_property, List.append_assoc]
  exact Step.reads_three (hname _ hfollows)
    (reads_separator means_colon (by decide) hb hb' (hbegins.unblank rest)) (hread rest hr)

/-- An array is read if its items are. -/
theorem read_array {items : List Literal}
    (h : List.Forall₂ (ReadsAs (grammar.call limit (depth + 3) "propertyValue"))
      (writtenItems items) (items.map IsValue)) : Read limit (depth + 6) (.array items) := by
  intro text hw
  have hw : Bracketed Unicode.space.contains true '[' ']' (writtenItems items) text := hw
  obtain ⟨values, hvalues, hread⟩ := reads_bracketed means_openBracket means_closeBracket
    (.inl rfl) hw h (refuses_propertyValue (.inl rfl) limit depth)
  obtain ⟨blanks, list, -, -, rfl⟩ := hw
  refine ⟨⟨'[', _, rfl, by decide⟩, .map [("Array", .list values)], ?_, fun rest _ => ?_⟩
  · rw [IsValue, ofValue?, items?_of_forall₂ hvalues]
    rfl
  · rw [call_propertyValue, markedKinds, call_array, call_valueList]
    exact Step.reads_choice (Step.chooses_skip
      (refuses_stringValue ⟨by simp, by simp⟩ limit (depth + 3))
      (Step.chooses_skip (refuses_regexValue (by simp) limit (depth + 4))
      (Step.chooses_skip (refuses_object (by simp) limit (depth + 4))
      (Step.chooses_head nofun (hread rest)))))

/-- The step of an object reads it if the properties are read. -/
theorem reads_object {properties : List (String × Literal)}
    (h : List.Forall₂ (ReadsAs (grammar.call limit (depth + 4) "property"))
      (writtenProperties properties) (properties.map IsProperty))
    (hw : (Literal.object properties).Written text) :
    ∃ values, properties? values = some properties ∧ ∀ rest,
      (grammar.call limit (depth + 6) "object").Reads text rest (.list values) := by
  have hw : Bracketed Unicode.space.contains true '{' '}' (writtenProperties properties) text := hw
  obtain ⟨values, hvalues, hread⟩ := reads_bracketed means_openBrace means_closeBrace
    (.inr rfl) hw h (refuses_property limit depth)
  refine ⟨values, properties?_of_forall₂ hvalues, fun rest => ?_⟩
  rw [call_object, call_propertyList]
  exact hread rest

theorem read_object {properties : List (String × Literal)}
    (h : List.Forall₂ (ReadsAs (grammar.call limit (depth + 4) "property"))
      (writtenProperties properties) (properties.map IsProperty)) :
    Read limit (depth + 7) (.object properties) := by
  intro text hw
  obtain ⟨values, hvalues, hread⟩ := reads_object h hw
  obtain ⟨blanks, list, -, -, rfl⟩ := hw
  refine ⟨⟨'{', _, rfl, by decide⟩, .map [("Object", .list values)], ?_, fun rest _ => ?_⟩
  · rw [IsValue, ofValue?, hvalues]
    rfl
  · rw [call_propertyValue, markedKinds]
    exact Step.reads_choice (Step.chooses_skip
      (refuses_stringValue ⟨by simp, by simp⟩ limit (depth + 4))
      (Step.chooses_skip (refuses_regexValue (by simp) limit (depth + 5))
      (Step.chooses_head nofun (hread rest))))

theorem three_le_itemsReferences (items : List Literal) : 3 ≤ itemsReferences items := by
  induction items with
  | nil => exact Nat.le_refl 3
  | cons literal items ih => exact Nat.le_trans ih (Nat.le_max_right ..)

theorem three_le_propertiesReferences (properties : List (String × Literal)) :
    3 ≤ propertiesReferences properties := by
  induction properties with
  | nil => exact Nat.le_refl 3
  | cons property properties ih => exact Nat.le_trans ih (Nat.le_max_right ..)

theorem three_le_references (literal : Literal) : 3 ≤ literal.references := by
  cases literal <;> simp only [references] <;> omega

mutual

/-- **Every text of a literal is read**, if there are references enough. -/
theorem read_of_le (literal : Literal) {depth : Nat} (h : literal.references ≤ depth) :
    Read limit depth literal := by
  have hthree := literal.three_le_references
  obtain ⟨d, rfl⟩ : ∃ d, depth = d + 3 := ⟨depth - 3, by omega⟩
  cases literal with
  | string content => exact read_string limit d content
  | regex body => exact read_regex limit d body
  | number spelling => exact read_number limit d spelling
  | boolean spelling => exact read_boolean limit d spelling
  | null spelling => exact read_null limit d spelling
  | word content => exact read_word limit d content
  | array items =>
    have hitems := three_le_itemsReferences items
    rw [references] at h
    obtain ⟨d, rfl⟩ : ∃ d', d = d' + 3 := ⟨d - 3, by omega⟩
    exact read_array (readsAs_items items (by omega))
  | object properties =>
    have hproperties := three_le_propertiesReferences properties
    rw [references] at h
    obtain ⟨d, rfl⟩ : ∃ d', d = d' + 4 := ⟨d - 4, by omega⟩
    exact read_object (readsAs_properties properties (by omega))

theorem readsAs_items (items : List Literal) {depth : Nat} (h : itemsReferences items ≤ depth) :
    List.Forall₂ (ReadsAs (grammar.call limit depth "propertyValue")) (writtenItems items)
      (items.map IsValue) := by
  cases items with
  | nil => exact .nil
  | cons literal items =>
    rw [itemsReferences, Nat.max_le] at h
    exact .cons (read_of_le literal h.1) (readsAs_items items h.2)

theorem readsAs_properties (properties : List (String × Literal)) {depth : Nat}
    (h : propertiesReferences properties ≤ depth) :
    List.Forall₂ (ReadsAs (grammar.call limit (depth + 1) "property"))
      (writtenProperties properties) (properties.map IsProperty) := by
  cases properties with
  | nil => exact .nil
  | cons property properties =>
    obtain ⟨name, literal⟩ := property
    have hrest := three_le_propertiesReferences properties
    rw [propertiesReferences, Nat.max_le] at h
    have htail := readsAs_properties properties h.2
    obtain ⟨d, rfl⟩ : ∃ d, depth = d + 3 := ⟨depth - 3, by omega⟩
    exact .cons (readsAs_property (read_of_le literal h.1) name) htail

end

end Literal

end DataGrammar.Notation
