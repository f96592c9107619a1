import DataGrammar.Json.Read
import DataGrammar.Proofs.Notation.Depth

/-!
# Objects of JSON as texts of the notation

The notation is meant to read every object of JSON. It does so up to one kind of token: its numbers
have no exponents. An object text of JSON that opens at most 249 brackets is matched as a whole if
and only if no number in it has one.

* `Form`: what a JSON text looks like, up to the characters of its tokens; `Form.Text`: the texts of
  a form, as the grammar of JSON gives them.
* `Form.meets_of_le`: forms without exponents are read; where there is an exponent, the notation
  gets no further than to its mark.
* `run_json_iff`: the texts that are matched as a whole.
-/

namespace DataGrammar.Notation

open Pattern Description Step Expression

/-! ### Texts of JSON -/

/-- The letters of escapes. -/
def escapeLetters : List Char := ['"', '\\', '/', 'b', 'f', 'n', 'r', 't']

/-- The digits of codes. -/
def isHex (c : Char) : Bool :=
  c.isDigit || ('a' ≤ c && c ≤ 'f') || ('A' ≤ c && c ≤ 'F')

/-- The characters of a string: they are written as they are, unless they are quotes, backslashes or
control characters, or as escapes by a letter or by a code. -/
inductive StringBody : List Char → Prop
  | nil : StringBody []
  | plain {c : Char} {body : List Char} (hq : c ≠ '"') (hb : c ≠ '\\') (hc : 0x20 ≤ c.toNat)
    (h : StringBody body) : StringBody (c :: body)
  | escape {letter : Char} {body : List Char} (hl : letter ∈ escapeLetters) (h : StringBody body) :
    StringBody ('\\' :: letter :: body)
  | code {digits body : List Char} (hn : digits.length = 4) (hd : ∀ d ∈ digits, isHex d = true)
    (h : StringBody body) : StringBody ('\\' :: 'u' :: (digits ++ body))

/-- A string. -/
def StringText (text : List Char) : Prop := ∃ body, StringBody body ∧ text = '"' :: body ++ ['"']

/-- One or more decimal digits. -/
def Digits (text : List Char) : Prop := text ≠ [] ∧ ∀ c ∈ text, c.isDigit = true

instance {text : List Char} : Decidable (Digits text) :=
  decidable_of_iff (text ≠ [] ∧ text.all Char.isDigit = true) (by rw [List.all_eq_true, Digits])

/-- A number without an exponent: there may be a minus sign and places, and no zero stands before
another digit of the whole part. -/
def DecimalText (text : List Char) : Prop :=
  ∃ minus whole places, (minus = [] ∨ minus = ['-']) ∧ Digits whole ∧
    (whole.head? = some '0' → whole = ['0']) ∧
    (places = [] ∨ ∃ ds, Digits ds ∧ places = '.' :: ds) ∧ text = minus ++ (whole ++ places)

/-- The marks of exponents. -/
def marks : List Char := ['e', 'E']

/-- An exponent. -/
def ExponentText (text : List Char) : Prop :=
  ∃ mark sign ds, mark ∈ marks ∧ (sign = [] ∨ sign = ['+'] ∨ sign = ['-']) ∧ Digits ds ∧
    text = mark :: (sign ++ ds)

/-- What a JSON text looks like, up to the characters of its tokens. -/
inductive Form where
  /-- One of the words for truth values and nothing. -/
  | word
  | string
  /-- A number, with an exponent or without. -/
  | number (exponent : Bool)
  | array (items : List Form)
  | object (values : List Form)

namespace Form

mutual

/-- The texts of a form. -/
def Text : Form → List Char → Prop
  | .word, text => text ∈ [['t', 'r', 'u', 'e'], ['f', 'a', 'l', 's', 'e'], ['n', 'u', 'l', 'l']]
  | .string, text => StringText text
  | .number false, text => DecimalText text
  | .number true, text =>
    ∃ decimal exponent, DecimalText decimal ∧ ExponentText exponent ∧ text = decimal ++ exponent
  | .array items, text => Bracketed Json.Read.isBlank false '[' ']' (itemTexts items) text
  | .object values, text => Bracketed Json.Read.isBlank false '{' '}' (entryTexts values) text

/-- The texts of items. -/
def itemTexts : List Form → List (List Char → Prop)
  | [] => []
  | form :: rest => form.Text :: itemTexts rest

/-- The texts of entries. -/
def entryTexts : List Form → List (List Char → Prop)
  | [] => []
  | form :: rest => Paired Json.Read.isBlank StringText form.Text :: entryTexts rest

end

mutual

/-- Whether a number has an exponent. -/
def hasExponent : Form → Bool
  | .number exponent => exponent
  | .array items => anyHasExponent items
  | .object values => anyHasExponent values
  | _ => false

/-- Whether a number in some forms has an exponent. -/
def anyHasExponent : List Form → Bool
  | [] => false
  | form :: rest => form.hasExponent || anyHasExponent rest

end

mutual

/-- How many references are active at once while a form is read. -/
def references : Form → Nat
  | .object values => valuesReferences values + 4
  | .array items => valuesReferences items + 3
  | _ => 3

/-- The most of what values take, or what the look for another one takes. -/
def valuesReferences : List Form → Nat
  | [] => 3
  | form :: rest => max form.references (valuesReferences rest)

end

end Form

/-- The text is an object with blanks around it. -/
def ObjectText (values : List Form) (text : List Char) : Prop :=
  ∃ before body after, Blank Json.Read.isBlank before ∧ (Form.object values).Text body ∧
    Blank Json.Read.isBlank after ∧ text = before ++ (body ++ after)

/-! ### Tokens -/

variable {text rest ahead : List Char}

theorem contains_of_isBlank {c : Char} (h : Json.Read.isBlank c = true) :
    Unicode.space.contains c = true := by
  simp only [Json.Read.isBlank, Bool.or_eq_true, beq_iff_eq] at h
  obtain ((rfl | rfl) | rfl) | rfl := h <;> decide

theorem blank_of_isBlank (h : Blank Json.Read.isBlank text) : Blank Unicode.space.contains text :=
  fun c hc => contains_of_isBlank (h c hc)

theorem StringBody.units {body : List Char} (h : StringBody body) : Units '"' body := by
  induction h with
  | nil => exact .nil
  | plain hq hb _ _ ih => exact .plain hq hb ih
  | escape hl _ ih =>
    refine .pair ?_ ih
    rintro rfl
    exact absurd hl (by decide)
  | @code digits body _ hd _ ih =>
    refine .pair (by decide) ?_
    clear * - hd ih
    induction digits with
    | nil => exact ih
    | cons d digits ihd =>
      obtain ⟨hd, hds⟩ := List.forall_mem_cons.1 hd
      refine .plain ?_ ?_ (ihd hds)
      · rintro rfl
        exact absurd hd (by decide)
      · rintro rfl
        exact absurd hd (by decide)

theorem Digits.exists_cons (h : Digits text) : ∃ c cs, text = c :: cs ∧
    Unicode.digit.contains c = true ∧ ∀ d ∈ cs, Unicode.digit.contains d = true := by
  obtain ⟨hne, hdigits⟩ := h
  obtain ⟨c, cs, rfl⟩ := List.exists_cons_of_ne_nil hne
  obtain ⟨hc, hcs⟩ := List.forall_mem_cons.1 hdigits
  exact ⟨c, cs, rfl, contains_digit hc, fun d hd => contains_digit (hcs d hd)⟩

/-- **A number without an exponent is read** in front of what cannot go on with it. -/
theorem reads_decimal (h : DecimalText text)
    (hr : ∀ c ∈ rest.head?, Unicode.digit.contains c = false ∧ c ≠ '.') :
    Step.Reads (matchPattern "[-+]?(?:\\d+\\.?\\d*|\\d*\\.?\\d+)") text rest
      (.text (.ofList text)) := by
  obtain ⟨minus, whole, places, hminus, hwhole, -, hplaces, rfl⟩ := h
  obtain ⟨c, cs, rfl, hc, hcs⟩ := hwhole.exists_cons
  have hpoint : ∀ c ∈ rest.head?, (CharSet.singleton '.').contains c = false := by
    intro c hc
    rw [contains_singleton, decide_eq_false_iff_not]
    exact (hr c hc).2
  refine reads_pattern means_numberValue rfl (reads_concat (readsRow_cons ?_ (readsRow_singleton
    (reads_alternation_head (reads_concat ?_)))))
  · obtain rfl | rfl := hminus
    · refine reads_optional_nil (refuses_chars ?_)
      rintro _ ⟨⟩
      exact CharSet.contains_eq_false (by decide) hc
    · exact reads_optional (reads_chars (by decide))
  · obtain rfl | ⟨ds, hds, rfl⟩ := hplaces
    · refine readsRow_cons (reads_plus (reads_chars hc) (reads_star_set hcs fun c hc => ?_)) ?_
      · exact (hr c hc).1
      · exact readsRow_nil_cons (reads_optional_nil (refuses_chars hpoint))
          (readsRow_singleton (reads_star_nil (refuses_chars fun c hc => (hr c hc).1)))
    · obtain ⟨d, ds, rfl, hd, hds⟩ := hds.exists_cons
      refine readsRow_cons (reads_plus (reads_chars hc) (reads_star_set hcs ?_)) ?_
      · rintro _ ⟨⟩
        decide
      · change ReadsRow _ (['.'] ++ d :: ds) rest
        exact readsRow_cons (reads_optional (reads_chars (by decide))) (readsRow_singleton
          (reads_star_set (List.forall_mem_cons.2 ⟨hd, hds⟩) fun c hc => (hr c hc).1))

/-- A string is read. -/
theorem reads_string (h : StringText text) (limit depth : Nat) : ∃ raw, ∀ rest,
    (grammar.call limit (depth + 2) "stringValue").Reads text rest (.text raw) := by
  obtain ⟨body, hbody, rfl⟩ := h
  refine ⟨.ofList body, fun rest => ?_⟩
  rw [call_stringValue, call_doubleQuoteName]
  exact reads_choice (chooses_head nofun
    (reads_enclosed means_doubleQuoteName (by decide) hbody.units))

theorem reads_stringName (h : StringText text) (limit depth : Nat) : ∃ raw, ∀ rest,
    (grammar.call limit (depth + 3) "propertyName").Reads text rest (.text raw) := by
  obtain ⟨raw, hread⟩ := reads_string h limit depth
  refine ⟨raw, fun rest => ?_⟩
  rw [call_propertyName, call_identifier]
  refine reads_choice (chooses_skip (refuses_identifier ?_) (chooses_head nofun (hread rest)))
  obtain ⟨body, -, rfl⟩ := h
  rintro _ ⟨⟩
  decide

/-- The text starts with no blank, and not with a bracket that closes a list. -/
def Starts (text : List Char) : Prop :=
  ∃ c cs, text = c :: cs ∧ Unicode.space.contains c = false ∧ c ≠ ']' ∧ c ≠ '}'

theorem Starts.begins (h : Starts text) : Begins text := by
  obtain ⟨c, cs, rfl, hc, -⟩ := h
  exact ⟨c, cs, rfl, hc⟩

theorem StringText.starts (h : StringText text) : Starts text := by
  obtain ⟨body, -, rfl⟩ := h
  exact ⟨'"', _, rfl, by decide, by decide, by decide⟩

theorem DecimalText.exists_cons (h : DecimalText text) :
    ∃ c cs, text = c :: cs ∧ (c = '-' ∨ Unicode.digit.contains c = true) := by
  obtain ⟨minus, whole, places, hminus, hwhole, -, -, rfl⟩ := h
  obtain ⟨c, cs, rfl, hc, -⟩ := hwhole.exists_cons
  obtain rfl | rfl := hminus
  · exact ⟨c, cs ++ places, rfl, .inr hc⟩
  · exact ⟨'-', _, rfl, .inl rfl⟩

theorem DecimalText.starts (h : DecimalText text) : Starts text := by
  obtain ⟨c, cs, rfl, rfl | hc⟩ := h.exists_cons
  · exact ⟨'-', cs, rfl, by decide, by decide, by decide⟩
  · refine ⟨c, cs, rfl, CharSet.contains_eq_false (by decide) hc, ?_, ?_⟩
    · rintro rfl
      exact absurd hc (by decide)
    · rintro rfl
      exact absurd hc (by decide)

theorem DecimalText.unmarked (h : DecimalText text) (rest : List Char) : Unmarked (text ++ rest) := by
  obtain ⟨c, cs, rfl, rfl | hc⟩ := h.exists_cons
  · rintro _ ⟨⟩
    decide
  · exact unmarked_of_contains hc (by decide) _

/-- A value is read as a number where a number can be read in front of what is there. -/
theorem reads_number_propertyValue (h : DecimalText text)
    (hr : ∀ c ∈ rest.head?, Unicode.digit.contains c = false ∧ c ≠ '.') (limit depth : Nat) :
    (grammar.call limit (depth + 3) "propertyValue").Reads text rest
      (.map [("Number", .text (.ofList text))]) := by
  rw [call_propertyValue, call_numberValue]
  exact reads_choice (chooses_append (refuses_markedKinds (h.unmarked rest) limit depth)
    (chooses_head nofun (reads_decimal h hr)))

/-- Every text of a form starts with no blank, and not with a bracket that closes a list. -/
theorem Form.starts_of_text {form : Form} (h : form.Text text) : Starts text := by
  cases form with
  | word =>
    simp only [Text, List.mem_cons, List.not_mem_nil, or_false] at h
    obtain rfl | rfl | rfl := h <;> exact ⟨_, _, rfl, by decide, by decide, by decide⟩
  | string => exact StringText.starts h
  | number exponent =>
    cases exponent with
    | false => exact DecimalText.starts h
    | true =>
      obtain ⟨decimal, exponent, hdecimal, -, rfl⟩ := h
      obtain ⟨c, cs, rfl, hc⟩ := hdecimal.starts
      exact ⟨c, cs ++ exponent, rfl, hc⟩
  | array items =>
    obtain ⟨blanks, list, -, -, rfl⟩ := h
    exact ⟨'[', _, rfl, by decide, by decide, by decide⟩
  | object values =>
    obtain ⟨blanks, list, -, -, rfl⟩ := h
    exact ⟨'{', _, rfl, by decide, by decide, by decide⟩

/-! ### Steps that pass texts and steps that get stuck in them -/

/-- The step comes to an end, but if it matches then only up to the mark of an exponent. -/
def Stuck (step : Step (Except Diagnostic)) (ahead : List Char) : Prop :=
  ∀ c : Cursor, c.ahead = ahead →
    ∃ a, step c = .ok a ∧ (a.success = true → ∃ mark ∈ marks, a.cursor.ahead.head? = some mark)

theorem Step.Refuses.stuck {step : Step (Except Diagnostic)} (h : step.Refuses ahead) :
    Stuck step ahead := by
  intro c hc
  obtain ⟨stop, v, hstep⟩ := h c hc
  exact ⟨_, hstep, nofun⟩

/-- The step reads every text of an entry, or gets stuck in every one. -/
def Meets (step : Step (Except Diagnostic)) (entry : List Char → Prop) (exponent : Bool) : Prop :=
  ∀ text, entry text → Starts text ∧
    if exponent then ∀ rest, Follows rest → Stuck step (text ++ rest)
    else ∃ v, ∀ rest, Follows rest → step.Reads text rest v

variable {step item : Step (Except Diagnostic)} {entry : List Char → Prop}
  {entries : List (List Char → Prop)} {exponents : List Bool}

/-- Entries without exponents are read. -/
theorem readsAs_of_meets (h : List.Forall₂ (Meets item) entries exponents)
    (hne : exponents.any id = false) :
    List.Forall₂ (ReadsAs item) entries (entries.map fun _ _ => True) := by
  induction h with
  | nil => exact .nil
  | @cons entry exponent entries exponents hentry _ ih =>
    rw [List.any_cons, Bool.or_eq_false_iff] at hne
    refine .cons (fun text htext => ?_) (ih hne.2)
    obtain ⟨hstarts, hmeets⟩ := hentry text htext
    obtain rfl : exponent = false := hne.1
    obtain ⟨v, hread⟩ := hmeets
    exact ⟨hstarts.begins, v, trivial, hread⟩

/-- No bracket that closes a list comes next. -/
def Blocked (ahead : List Char) : Prop :=
  ∀ c ∈ ahead.head?, Unicode.space.contains c = false ∧ c ≠ ']' ∧ c ≠ '}'

theorem Starts.blocked (h : Starts text) (rest : List Char) : Blocked (text ++ rest) := by
  obtain ⟨c, cs, rfl, hc⟩ := h
  rintro _ ⟨⟩
  exact hc

theorem blocked_of_mark {mark : Char} (hm : mark ∈ marks) (h : ahead.head? = some mark) :
    Blocked ahead := by
  intro c hc
  obtain rfl : mark = c := Option.some.inj (h.symm.trans hc)
  simp only [marks, List.mem_cons, List.not_mem_nil, or_false] at hm
  obtain rfl | rfl := hm <;> decide

/-- At an entry in which the item gets stuck, a list comes to an end in front of the entry or of
the mark in it. -/
theorem blocked_of_stuck (hstarts : Starts text) (hstuck : Stuck item (text ++ rest)) {c : Cursor}
    (hc : c.ahead = text ++ rest) (tries : Nat) (items : List Value) :
    ∃ a, repetitionFrom item (some (matchPattern "\\s*,\\s*")) 0 true (tries + 1) items c = .ok a ∧
      Blocked a.cursor.ahead := by
  obtain ⟨a, ha, hmark⟩ := hstuck c hc
  cases hs : a.success with
  | false =>
    -- The entry does not match: the list is over in front of it.
    refine ⟨⟨true, c, .list items.reverse⟩, ?_, hc ▸ hstarts.blocked rest⟩
    rw [repetitionFrom, ha]
    simp [hs, finish, bind, Except.bind, pure, Except.pure]
  | true =>
    -- It matches up to a mark, which is no comma: the list is over behind what matched.
    obtain ⟨mark, hmark, hhead⟩ := hmark hs
    have hblocked := blocked_of_mark hmark hhead
    have hcomma : Step.Refuses (matchPattern "\\s*,\\s*") ([] ++ a.cursor.ahead) := by
      refine refuses_separator means_comma (by decide) blank_nil (fun c hc => (hblocked c hc).1) ?_
      rw [hhead]
      rintro ⟨⟩
      exact absurd hmark (by decide)
    obtain ⟨stop, v, hstop⟩ := hcomma a.cursor rfl
    refine ⟨⟨true, a.cursor, .list (a.value :: items).reverse⟩, ?_, hblocked⟩
    rw [repetitionFrom, ha]
    simp [hs, finish, Step.optional, hstop, bind, Except.bind, pure, Except.pure]

/-- **A list with an exponent somewhere ends too early.** -/
theorem blocked_listed (h : Listed Unicode.space.contains true entries text)
    (hmeets : List.Forall₂ (Meets item) entries exponents) (he : exponents.any id = true)
    (hr : Closing item rest) {tries : Nat} (items : List Value) {c : Cursor}
    (hc : c.ahead = text ++ rest) (ht : text.length < tries) :
    ∃ a, repetitionFrom item (some (matchPattern "\\s*,\\s*")) 0 true tries items c = .ok a ∧
      Blocked a.cursor.ahead := by
  have hcomma : Unicode.space.contains ',' = false := by decide
  obtain ⟨tries, rfl⟩ := Nat.exists_eq_add_one_of_ne_zero (Nat.ne_zero_of_lt ht)
  -- The induction walks over the entries that are read, up to the first one with an exponent.
  induction h generalizing exponents tries items c with
  | nil =>
    cases hmeets
    cases he
  | @last entry text blanks htext hb =>
    obtain _ | ⟨hentry, _ | _⟩ := hmeets
    rename_i exponent
    obtain rfl : exponent = true := by simpa using he
    obtain ⟨hstarts, hstuck⟩ := hentry text htext
    rw [List.append_assoc] at hc
    exact blocked_of_stuck hstarts (hstuck _ (hr.follows hb)) hc tries items
  | @trailing entry text blanks blanks' htext _ hb hb' =>
    obtain _ | ⟨hentry, _ | _⟩ := hmeets
    rename_i exponent
    obtain rfl : exponent = true := by simpa using he
    obtain ⟨hstarts, hstuck⟩ := hentry text htext
    rw [List.append_assoc] at hc
    refine blocked_of_stuck hstarts (hstuck _ ?_) hc tries items
    rw [List.append_assoc]
    exact follows_separator hb (by decide)
  | @cons entry next entries text blanks blanks' more htext hb hb' hm ih =>
    obtain _ | ⟨hentry, hentries⟩ := hmeets
    rename_i exponent exponents
    obtain ⟨hstarts, hmeets⟩ := hentry text htext
    rw [List.append_assoc] at hc
    have hmore := Cursor.ahead_advance hc
    rw [List.append_assoc] at hc
    have hfollows : Follows ((blanks ++ ',' :: blanks') ++ (more ++ rest)) := by
      rw [List.append_assoc]
      exact follows_separator hb (by decide)
    cases exponent with
    | true => exact blocked_of_stuck hstarts (hmeets _ hfollows) hc tries items
    | false =>
      obtain ⟨v, hread⟩ := hmeets
      have hbegins : Begins more := by
        cases hentries with
        | cons hnext _ => exact begins_of_listed hm fun _ ht => (hnext _ ht).1.begins
      obtain ⟨tries, rfl⟩ : ∃ n, tries = n + 1 := ⟨tries - 1, by simp at ht; omega⟩
      rw [repetitionFrom_of_reads (hread _ hfollows)
        (reads_separator means_comma hcomma hb hb' (hbegins.unblank rest)) (by simp) hc]
      exact ih hentries (by simpa using he) (v :: items) hmore tries (by simp at ht ⊢; omega)

theorem refuses_closing {source : String} {c : Char} (hm : Means source (closing c))
    (h : ∀ d ∈ ahead.head?, Unicode.space.contains d = false ∧ d ≠ c) :
    Step.Refuses (matchPattern source) ahead := by
  have hrow : Expression.RefusesRow [blanks, .chars (.singleton c)] ([] ++ ahead) := by
    refine refusesRow_star (by simp) (fun d hd => (h d hd).1) (by simp) (refusesRow_cons
      (refuses_chars fun d hd => ?_))
    rw [contains_singleton, decide_eq_false_iff_not]
    exact (h d hd).2
  exact refuses_pattern hm (refuses_concat hrow)

/-- **A list with an exponent somewhere is refused between brackets.** -/
theorem refuses_bracketed {sourceOpen sourceClose : String} {c d : Char}
    (hopen : Means sourceOpen (opening c)) (hclose : Means sourceClose (closing d))
    (hd : d = ']' ∨ d = '}') (h : Bracketed Unicode.space.contains true c d entries text)
    (hmeets : List.Forall₂ (Meets item) entries exponents) (he : exponents.any id = true)
    (hend : ∀ rest, item.Refuses (d :: rest)) (rest : List Char) :
    (bracketStep sourceOpen sourceClose
      (Step.repetition item (some (matchPattern "\\s*,\\s*")) 0 none)).Refuses (text ++ rest) := by
  obtain ⟨blanks, list, hb, hlist, rfl⟩ := h
  have hclosing : Closing item (d :: rest) := ⟨hend rest, d, rest, rfl, hd⟩
  have hunblank : Unblank (list ++ d :: rest) := by
    cases hmeets with
    | nil => cases he
    | cons hentry _ =>
      exact (begins_of_listed hlist fun _ ht => (hentry _ ht).1.begins).unblank _
  have htext : c :: blanks ++ list ++ [d] ++ rest = (c :: blanks) ++ (list ++ d :: rest) := by simp
  rw [htext]
  refine refuses_three (reads_opening hopen hb hunblank) fun start hstart => ?_
  have htries : list.length < max 0 1 + (list ++ d :: rest).length + 1 := by
    rw [List.length_append]
    omega
  obtain ⟨a, ha, hblocked⟩ := blocked_listed hlist hmeets he hclosing [] hstart htries
  refine ⟨a, by rw [Step.repetition, hstart]; exact ha, fun _ => refuses_closing hclose fun e he => ?_⟩
  obtain ⟨hspace, hbracket, hbrace⟩ := hblocked e he
  exact ⟨hspace, by obtain rfl | rfl := hd <;> assumption⟩

/-- A property gets stuck in its value. -/
theorem meets_entry {limit depth : Nat} {value : List Char → Prop} {exponent : Bool}
    (h : Meets (grammar.call limit (depth + 3) "propertyValue") value exponent) :
    Meets (grammar.call limit (depth + 4) "property")
      (Paired Json.Read.isBlank StringText value) exponent := by
  rintro _ ⟨key, blanks, blanks', body, hkey, hb, hb', hbody, rfl⟩
  obtain ⟨raw, hname⟩ := reads_stringName hkey limit depth
  obtain ⟨hstarts, hmeets⟩ := h body hbody
  have hcolon : ∀ rest, Step.Reads (matchPattern "\\s*:\\s*") (blanks ++ ':' :: blanks')
      (body ++ rest) _ := fun rest => reads_separator means_colon (by decide)
    (blank_of_isBlank hb) (blank_of_isBlank hb') (hstarts.begins.unblank rest)
  constructor
  · obtain ⟨c, cs, rfl, hc⟩ := hkey.starts
    exact ⟨c, cs ++ (blanks ++ ':' :: blanks') ++ body, by simp, hc⟩
  · cases exponent with
    | false =>
      obtain ⟨v, hread⟩ := hmeets
      refine ⟨.map [("Name", .text raw), ("Value", v)], fun rest hr => ?_⟩
      rw [call_property, List.append_assoc]
      exact reads_three (hname _) (hcolon rest) (hread rest hr)
    | true =>
      intro rest hr c hc
      have hkey : c.ahead = key ++ ((blanks ++ ':' :: blanks') ++ (body ++ rest)) := by
        simpa using hc
      have hcolon' := Cursor.ahead_advance hkey
      obtain ⟨a, ha, hmark⟩ := hmeets rest hr _ (Cursor.ahead_advance hcolon')
      rw [call_property, Step.sequence, sequenceFrom_of_reads (hname _) hkey,
        sequenceFrom_of_reads (hcolon rest) hcolon']
      simp only [sequenceFrom, ha, bind, Except.bind, Step.optional]
      cases hs : a.success with
      | false => exact ⟨_, rfl, fun h => absurd h Bool.false_ne_true⟩
      | true => exact ⟨_, rfl, fun _ => hmark hs⟩

/-! ### Forms -/

namespace Form

variable (limit depth : Nat)

theorem meets_word : Meets (grammar.call limit (depth + 3) "propertyValue") word.Text false := by
  intro text h
  refine ⟨starts_of_text h, ?_⟩
  have hread : ∀ literal : Literal, Literal.Read limit (depth + 3) literal → literal.Written text →
      ∃ v, ∀ rest, Follows rest →
        (grammar.call limit (depth + 3) "propertyValue").Reads text rest v := by
    intro literal hliteral hw
    obtain ⟨-, v, -, hv⟩ := hliteral text hw
    exact ⟨v, hv⟩
  simp only [Text, List.mem_cons, List.not_mem_nil, or_false] at h
  obtain rfl | rfl | rfl := h
  · exact hread _ (Literal.read_boolean limit depth "true") ⟨by simp, rfl⟩
  · exact hread _ (Literal.read_boolean limit depth "false") ⟨by simp, rfl⟩
  · exact hread _ (Literal.read_null limit depth "null") ⟨by simp, rfl⟩

theorem meets_string : Meets (grammar.call limit (depth + 3) "propertyValue") string.Text false := by
  intro text h
  obtain ⟨raw, hread⟩ := reads_string h limit depth
  refine ⟨starts_of_text h, .map [("String", .text raw)], fun rest _ => ?_⟩
  rw [call_propertyValue]
  exact reads_choice (chooses_head nofun (hread rest))

/-- A number is read up to its exponent. -/
theorem meets_number (exponent : Bool) :
    Meets (grammar.call limit (depth + 3) "propertyValue") (number exponent).Text exponent := by
  intro text h
  refine ⟨starts_of_text h, ?_⟩
  cases exponent with
  | false =>
    refine ⟨_, fun rest hr => reads_number_propertyValue h (fun c hc => ⟨?_, ?_⟩) limit depth⟩
    · exact hr.contains_eq_false (show isInner Unicode.digit = true by decide) c hc
    · rintro rfl
      have := hr.contains_eq_false (show isInner (.singleton '.') = true by decide) _ hc
      simp [contains_singleton] at this
  | true =>
    obtain ⟨decimal, exponent, hdecimal, ⟨mark, sign, ds, hmark, -, -, rfl⟩, rfl⟩ := h
    -- The decimal is read as the whole number, and what comes next is the mark.
    intro rest _ c hc
    rw [List.append_assoc] at hc
    refine ⟨_, reads_number_propertyValue hdecimal ?_ limit depth c hc, fun _ => ⟨mark, hmark, ?_⟩⟩
    · rintro _ ⟨⟩
      simp only [marks, List.mem_cons, List.not_mem_nil, or_false] at hmark
      obtain rfl | rfl := hmark <;> decide
    · rw [Cursor.ahead_advance hc]
      rfl

variable {limit depth}

theorem any_hasExponent (forms : List Form) :
    (forms.map hasExponent).any id = anyHasExponent forms := by
  induction forms with
  | nil => rfl
  | cons form forms ih => rw [List.map_cons, List.any_cons, ih, anyHasExponent, id]

/-- What starts with a bracket is no value if it is neither an object nor an array. -/
theorem refuses_propertyValue_of_bracket {c : Char} (hc : c = '[' ∨ c = '{') {tail : List Char}
    (hobject : (grammar.call limit (depth + 2) "object").Refuses (c :: tail))
    (harray : (grammar.call limit (depth + 2) "array").Refuses (c :: tail)) :
    (grammar.call limit (depth + 3) "propertyValue").Refuses (c :: tail) := by
  have hhead : ∀ d ∈ ['"', '\'', '/', 't', 'f', 'n', 'u'], (c :: tail).head? ≠ some d := by
    obtain rfl | rfl := hc <;> simp
  rw [call_propertyValue, markedKinds, call_numberValue, call_boolValue, call_nullValue,
    call_identifier]
  refine refuses_choice ?_
  simp only [List.forall_mem_append, List.forall_mem_cons, List.not_mem_nil, false_imp_iff,
    implies_true, and_true]
  refine ⟨⟨refuses_stringValue ⟨hhead _ (by simp), hhead _ (by simp)⟩ limit depth,
    refuses_regexValue (hhead _ (by simp)) limit _, hobject, harray⟩, refuses_number ?_,
    refuses_boolean (goesOn_of_head? (by decide) (by decide) ⟨hhead 't' (by simp), hhead 'f' (by simp)⟩),
    refuses_null (goesOn_of_head? (by decide) (by decide) ⟨hhead 'n' (by simp), hhead 'u' (by simp)⟩),
    refuses_identifier ?_⟩
  · rintro _ ⟨⟩
    obtain rfl | rfl := hc <;> decide
  · rintro _ ⟨⟩
    obtain rfl | rfl := hc <;> decide

/-- An array is read, or it is refused for an exponent. -/
theorem meets_array {items : List Form}
    (h : List.Forall₂ (Meets (grammar.call limit (depth + 3) "propertyValue")) (itemTexts items)
      (items.map hasExponent)) :
    Meets (grammar.call limit (depth + 6) "propertyValue") (array items).Text
      (array items).hasExponent := by
  intro text hw
  refine ⟨starts_of_text hw, ?_⟩
  have hw : Bracketed Unicode.space.contains true '[' ']' (itemTexts items) text :=
    Bracketed.mono (fun _ => contains_of_isBlank) hw
  have hany := any_hasExponent items
  rw [hasExponent]
  cases he : anyHasExponent items with
  | false =>
    obtain ⟨values, -, hread⟩ := reads_bracketed means_openBracket means_closeBracket (.inl rfl) hw
      (readsAs_of_meets h (hany.trans he)) (refuses_propertyValue (.inl rfl) limit depth)
    obtain ⟨blanks, list, -, -, rfl⟩ := hw
    refine ⟨.map [("Array", .list values)], fun rest _ => ?_⟩
    rw [call_propertyValue, markedKinds, call_array, call_valueList]
    exact reads_choice (chooses_skip (refuses_stringValue ⟨by simp, by simp⟩ limit (depth + 3))
      (chooses_skip (refuses_regexValue (by simp) limit (depth + 4))
      (chooses_skip (refuses_object (by simp) limit (depth + 4))
      (chooses_head (by rintro ⟨⟩) (hread rest)))))
  | true =>
    intro rest _
    have hrefuses := refuses_bracketed means_openBracket means_closeBracket (.inl rfl) hw h
      (hany.trans he) (refuses_propertyValue (.inl rfl) limit depth) rest
    obtain ⟨blanks, list, -, -, rfl⟩ := hw
    refine Step.Refuses.stuck (refuses_propertyValue_of_bracket (.inl rfl) ?_ ?_)
    · exact refuses_object (by simp) limit (depth + 4)
    · rw [call_array, call_valueList]
      exact hrefuses

/-- The object is read, or it is refused for an exponent. -/
theorem object_of_meets {values : List Form}
    (h : List.Forall₂ (Meets (grammar.call limit (depth + 4) "property")) (entryTexts values)
      (values.map hasExponent)) (hw : (object values).Text text) :
    if anyHasExponent values then
      ∀ rest, (grammar.call limit (depth + 6) "object").Refuses (text ++ rest)
    else ∃ v, ∀ rest, (grammar.call limit (depth + 6) "object").Reads text rest v := by
  have hw : Bracketed Unicode.space.contains true '{' '}' (entryTexts values) text :=
    Bracketed.mono (fun _ => contains_of_isBlank) hw
  have hany := any_hasExponent values
  rw [call_object, call_propertyList]
  cases he : anyHasExponent values with
  | false =>
    obtain ⟨vs, -, hread⟩ := reads_bracketed means_openBrace means_closeBrace (.inr rfl) hw
      (readsAs_of_meets h (hany.trans he)) (Literal.refuses_property limit depth)
    exact ⟨.list vs, hread⟩
  | true =>
    exact refuses_bracketed means_openBrace means_closeBrace (.inr rfl) hw h (hany.trans he)
      (Literal.refuses_property limit depth)

theorem meets_object {values : List Form}
    (h : List.Forall₂ (Meets (grammar.call limit (depth + 4) "property")) (entryTexts values)
      (values.map hasExponent)) :
    Meets (grammar.call limit (depth + 7) "propertyValue") (object values).Text
      (object values).hasExponent := by
  intro text hw
  refine ⟨starts_of_text hw, ?_⟩
  have hobject := object_of_meets h hw
  obtain ⟨blanks, list, -, -, rfl⟩ := hw
  rw [hasExponent]
  cases he : anyHasExponent values with
  | false =>
    rw [he] at hobject
    obtain ⟨v, hread⟩ := hobject
    refine ⟨.map [("Object", v)], fun rest _ => ?_⟩
    rw [call_propertyValue, markedKinds]
    exact reads_choice (chooses_skip (refuses_stringValue ⟨by simp, by simp⟩ limit (depth + 4))
      (chooses_skip (refuses_regexValue (by simp) limit (depth + 5))
      (chooses_head (by rintro ⟨⟩) (hread rest))))
  | true =>
    rw [he] at hobject
    intro rest _
    refine Step.Refuses.stuck (refuses_propertyValue_of_bracket (.inr rfl) (hobject rest) ?_)
    exact refuses_array (by simp) limit (depth + 5)

theorem three_le_valuesReferences (forms : List Form) : 3 ≤ valuesReferences forms := by
  induction forms with
  | nil => exact Nat.le_refl 3
  | cons form forms ih => exact Nat.le_trans ih (Nat.le_max_right ..)

theorem three_le_references (form : Form) : 3 ≤ form.references := by
  cases form <;> simp only [references] <;> omega

mutual

/-- **A form is read if it has no exponent, and the notation gets stuck in it if it has one**, if
there are references enough. -/
theorem meets_of_le (form : Form) {depth : Nat} (h : form.references ≤ depth) :
    Meets (grammar.call limit depth "propertyValue") form.Text form.hasExponent := by
  have hthree := form.three_le_references
  obtain ⟨d, rfl⟩ : ∃ d, depth = d + 3 := ⟨depth - 3, by omega⟩
  cases form with
  | word => exact meets_word limit d
  | string => exact meets_string limit d
  | number exponent => exact meets_number limit d exponent
  | array items =>
    have hitems := three_le_valuesReferences items
    rw [references] at h
    obtain ⟨d, rfl⟩ : ∃ d', d = d' + 3 := ⟨d - 3, by omega⟩
    exact meets_array (meets_items items (by omega))
  | object values =>
    have hvalues := three_le_valuesReferences values
    rw [references] at h
    obtain ⟨d, rfl⟩ : ∃ d', d = d' + 4 := ⟨d - 4, by omega⟩
    exact meets_object (meets_entries values (by omega))

theorem meets_items (forms : List Form) {depth : Nat} (h : valuesReferences forms ≤ depth) :
    List.Forall₂ (Meets (grammar.call limit depth "propertyValue")) (itemTexts forms)
      (forms.map hasExponent) := by
  cases forms with
  | nil => exact .nil
  | cons form forms =>
    rw [valuesReferences, Nat.max_le] at h
    exact .cons (meets_of_le form h.1) (meets_items forms h.2)

theorem meets_entries (forms : List Form) {depth : Nat} (h : valuesReferences forms ≤ depth) :
    List.Forall₂ (Meets (grammar.call limit (depth + 1) "property")) (entryTexts forms)
      (forms.map hasExponent) := by
  cases forms with
  | nil => exact .nil
  | cons form forms =>
    have hrest := three_le_valuesReferences forms
    rw [valuesReferences, Nat.max_le] at h
    have htail := meets_entries forms h.2
    obtain ⟨d, rfl⟩ : ∃ d, depth = d + 3 := ⟨depth - 3, by omega⟩
    exact .cons (meets_entry (meets_of_le form h.1)) htail

end

end Form

/-! ### Objects -/

/-- What the rule for texts makes of an object of JSON, with references enough. -/
theorem document_of_le {values : List Form} (limit : Nat) {depth : Nat} (ht : ObjectText values text)
    (h : (Form.object values).references ≤ depth) :
    if Form.anyHasExponent values then (grammar.call limit (depth + 1) "document").Refuses text
    else ∃ v, (grammar.call limit (depth + 1) "document").Reads text [] v := by
  obtain ⟨before, body, after, hb, hbody, ha, rfl⟩ := ht
  have hvalues := Form.three_le_valuesReferences values
  rw [Form.references] at h
  obtain ⟨d, rfl⟩ : ∃ d, depth = d + 6 := ⟨depth - 6, by omega⟩
  have hmeets : List.Forall₂ (Meets (grammar.call limit (d + 4) "property")) _ _ :=
    Form.meets_entries values (by omega)
  have hobject := Form.object_of_meets hmeets hbody
  have hbegins := (Form.starts_of_text hbody).begins
  have hbefore : ∀ rest, Step.Reads (matchPattern "\\s*") before (body ++ rest) _ := fun rest =>
    reads_pattern means_blanks rfl (reads_blanks (blank_of_isBlank hb) (hbegins.unblank rest))
  rw [call_document]
  cases he : Form.anyHasExponent values with
  | false =>
    rw [he] at hobject
    obtain ⟨v, hread⟩ := hobject
    have hafter : Step.Reads (matchPattern "\\s*") after [] _ :=
      reads_pattern means_blanks rfl (reads_blanks (blank_of_isBlank ha) nofun)
    exact ⟨v, reads_bracketStep (hbefore _) (hread _) hafter⟩
  | true =>
    rw [he] at hobject
    refine refuses_three (hbefore after) fun c hc => ?_
    obtain ⟨stop, v, hstop⟩ := hobject after c hc
    exact ⟨_, hstop, nofun⟩

/-- **Every object of JSON whose numbers have no exponents is a text of the notation, and no other
one is.** On the text of an object that opens at most 249 brackets, whatever its strings, its
numbers, its words and its blanks are and however it nests, a run comes to an end. It matches, and
the whole text, if and only if no number in the object has an exponent. -/
theorem run_json_iff {p : Parser} (hp : parser = .ok p) {values : List Form} {text : String}
    (ht : ObjectText values text.toList) (ho : openings text.toList ≤ 249) :
    ∃ o, p.run "document" text = .ok o ∧
      (o.isComplete text = true ↔ Form.anyHasExponent values = false) := by
  have hdocument := document_of_le (max defaultMaxDepth (Form.object values).references) ht
    (Nat.le_max_right defaultMaxDepth _)
  cases he : Form.anyHasExponent values with
  | false =>
    rw [he] at hdocument
    obtain ⟨v, hread⟩ := hdocument
    have hcall := hread (.start text) (List.append_nil _).symm
    refine ⟨_, run_of_call hp ho (Nat.le_max_left ..) hcall, iff_of_true ?_ rfl⟩
    have hoffset : ((Cursor.start text).advance text.toList.length).offset = text.utf8ByteSize := by
      rw [Cursor.offset_advance]
      simp [Cursor.start]
    simp [Outcome.isComplete, Outcome.ofAttempt, hoffset]
  | true =>
    rw [he] at hdocument
    obtain ⟨stop, v, hcall⟩ := hdocument (.start text) rfl
    refine ⟨_, run_of_call hp ho (Nat.le_max_left ..) hcall, iff_of_false ?_ Bool.noConfusion⟩
    simp [Outcome.isComplete, Outcome.ofAttempt]

/-- An object with an exponent. -/
def exponentText : String := "\x7b\"a\":1e5\x7d"

/-- An object without one. -/
def decimalText : String := "\x7b\"a\":[-0.5,\"\\u00e9\"]\x7d"

theorem objectText_exponentText : ObjectText [.number true] exponentText.toList := by
  have hkey : StringText ['"', 'a', '"'] :=
    ⟨['a'], .plain (by decide) (by decide) (by decide) .nil, rfl⟩
  have hnumber : (Form.number true).Text ['1', 'e', '5'] :=
    ⟨['1'], ['e', '5'], ⟨[], ['1'], [], .inl rfl, by decide, by decide, .inl rfl, rfl⟩,
      ⟨'e', [], ['5'], by decide, .inl rfl, by decide, rfl⟩, rfl⟩
  have hobject : (Form.object [.number true]).Text _ := .singleton (.intro hkey hnumber)
  exact ⟨[], _, [], blank_nil, hobject, blank_nil, by decide⟩

theorem objectText_decimalText :
    ObjectText [.array [.number false, .string]] decimalText.toList := by
  have hkey : StringText ['"', 'a', '"'] :=
    ⟨['a'], .plain (by decide) (by decide) (by decide) .nil, rfl⟩
  have hnumber : (Form.number false).Text ['-', '0', '.', '5'] :=
    ⟨['-'], ['0'], ['.', '5'], .inr rfl, by decide, by decide, .inr ⟨['5'], by decide, rfl⟩, rfl⟩
  have hstring : Form.string.Text ['"', '\\', 'u', '0', '0', 'e', '9', '"'] :=
    ⟨_, .code (show ['0', '0', 'e', '9'].length = 4 from rfl) (List.all_eq_true.1 (by decide)) .nil,
      rfl⟩
  have harray : (Form.array [.number false, .string]).Text _ := .pair hnumber hstring
  have hobject : (Form.object [.array [.number false, .string]]).Text _ :=
    .singleton (.intro hkey harray)
  exact ⟨[], _, [], blank_nil, hobject, blank_nil, by decide⟩

theorem run_json_iff_sample : ∃ p, parser = .ok p ∧
    ObjectText [.array [.number false, .string]] decimalText.toList ∧
    openings decimalText.toList ≤ 249 ∧
    (∃ o, p.run "document" decimalText = .ok o ∧ o.isComplete decimalText = true) ∧
    ObjectText [.number true] exponentText.toList ∧ openings exponentText.toList ≤ 249 ∧
    ∃ o, p.run "document" exponentText = .ok o ∧ o.isComplete exponentText = false := by
  obtain ⟨p, hp⟩ := exists_parser_eq
  have hfew : openings decimalText.toList ≤ 249 := by decide
  have hfew' : openings exponentText.toList ≤ 249 := by decide
  obtain ⟨o, ho, hcomplete⟩ := run_json_iff hp objectText_decimalText hfew
  obtain ⟨o', ho', hcomplete'⟩ := run_json_iff hp objectText_exponentText hfew'
  refine ⟨p, hp, objectText_decimalText, hfew, ⟨o, ho, hcomplete.2 rfl⟩, objectText_exponentText,
    hfew', o', ho', ?_⟩
  exact Bool.eq_false_iff.2 fun h => Bool.noConfusion (hcomplete'.1 h)

/-- The object with an exponent is a text of JSON, but no text of the notation. -/
theorem not_complete_exponentText : ObjectText [.number true] exponentText.toList ∧
    openings exponentText.toList = 1 ∧ ∃ p, parser = .ok p ∧
      p.run "document" exponentText = .ok ⟨false, 6, .map []⟩ := by
  obtain ⟨p, hp⟩ := exists_parser_eq
  refine ⟨objectText_exponentText, by decide, p, hp, ?_⟩
  rw [Parser.run_eq_call hp]
  decide +kernel

end DataGrammar.Notation
