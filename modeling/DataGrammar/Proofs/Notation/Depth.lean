import DataGrammar.Proofs.Matching.Settling
import DataGrammar.Proofs.Notation.Document
import DataGrammar.Proofs.Notation.Refusal
import DataGrammar.Proofs.Notation.Tree
import Mathlib.Data.List.TakeWhile

/-!
# How deep texts of the notation go

A rule of the notation comes back to itself only behind a bracket that it has passed. So the
references that are active at once are bounded by the brackets that a text opens, wherever they
stand in it and whether it matches or not.

* `Opens n c`: from the place on, the text opens at most `n` brackets.
* `settles_bracketStep`: between brackets there is one bracket less to open.
* `settles_propertyValue`: with four references for every bracket, and three more, a value is never
  given up.
* `definitions_within_limit`: texts that open at most 249 brackets never reach the limit.
-/

namespace DataGrammar.Notation

open Pattern Description Step

/-! ### Brackets -/

/-- How many brackets a text opens. -/
def openings (text : List Char) : Nat := text.countP fun c => c = '{' ∨ c = '['

/-- From the place on, the text opens at most `n` brackets. -/
def Opens (n : Nat) (c : Cursor) : Prop := openings c.ahead ≤ n

theorem lasts_opens (n : Nat) : Cursor.Lasts (Opens n) := fun hreach h =>
  Nat.le_trans hreach.ahead_suffix.sublist.countP_le h

variable {source : String} {c : Char} {n : Nat}

/-- Of the brackets that the text opened from somewhere on, one is passed. -/
def Opened (n : Nat) (c : Cursor) : Prop := ∃ m, n = m + 1 ∧ Opens m c

theorem lasts_opened (n : Nat) : Cursor.Lasts (Opened n) := by
  rintro c d hreach ⟨m, hm, h⟩
  exact ⟨m, hm, lasts_opens m hreach h⟩

/-- A bracket that is opened is passed. -/
theorem opened_of_opening (hm : Means source (opening c)) (hc : c = '{' ∨ c = '[') {start : Cursor}
    {a : Attempt} (hstart : Opens n start) (ha : matchPattern source start = .ok a)
    (hsuccess : a.success = true) : Opened n a.cursor := by
  by_cases hhead : start.ahead.head? = some c
  · -- The blanks behind the bracket are passed as well, but they open nothing.
    obtain ⟨rest, hrest⟩ := List.head?_eq_some_iff.1 hhead
    have hreach : (start.advance 1).Reaches a.cursor := by
      have hblank : Blank Unicode.space.contains (rest.takeWhile Unicode.space.contains) :=
        fun d hd => List.mem_takeWhile_imp hd
      have hunblank : Unblank (rest.dropWhile Unicode.space.contains) := fun d hd => by
        have hdrop := List.head?_dropWhile_not Unicode.space.contains rest
        rw [Option.mem_def.1 hd] at hdrop
        simpa using hdrop
      rw [reads_opening hm hblank hunblank start (by
        rw [hrest, List.cons_append, List.takeWhile_append_dropWhile])] at ha
      cases ha
      rw [List.length_cons, Nat.add_comm, Cursor.advance_add]
      exact Cursor.reaches_advance _ _
    have hahead : (start.advance 1).ahead = rest := by
      have hrest : start.ahead = [c] ++ rest := by simpa using hrest
      exact Cursor.ahead_advance hrest
    have hcount : openings start.ahead = openings rest + 1 := by
      rw [hrest, openings, List.countP_cons_of_pos (by simpa using hc), ← openings]
    unfold Opens at hstart
    refine ⟨n - 1, by omega, lasts_opens _ hreach ?_⟩
    unfold Opens
    rw [hahead]
    omega
  · obtain ⟨stop, v, hrefuse⟩ := refuses_opening hm hhead start rfl
    rw [hrefuse] at ha
    cases ha
    cases hsuccess

/-- Between brackets there is one bracket less to open. -/
theorem settles_bracketStep {sourceOpen sourceClose : String} {e : Expression}
    (hopen : Means sourceOpen (opening c)) (hc : c = '{' ∨ c = '[')
    (hclose : Means sourceClose e) {list : Step (Except Diagnostic)}
    (h : ∀ m, n = m + 1 → Settles (Opens m) list) :
    Settles (Opens n) (bracketStep sourceOpen sourceClose list) := by
  refine settles_guarded (lasts_opened n) (settles_matchPattern hopen.1 _)
    (fun start a hstart ha => opened_of_opening hopen hc hstart ha) ?_
  simp only [List.forall_mem_cons, List.not_mem_nil, false_imp_iff, implies_true, and_true]
  refine ⟨?_, settles_matchPattern hclose.1 _⟩
  rintro start ⟨m, hm, hstart⟩
  exact h m hm start hstart

/-! ### Rules -/

section

variable (limit : Nat) {depth : Nat}

theorem settles_stringValue (place : Cursor → Prop) (h : 2 ≤ depth) :
    Settles place (grammar.call limit depth "stringValue") := by
  obtain ⟨d, rfl⟩ : ∃ d, depth = d + 2 := ⟨depth - 2, by omega⟩
  rw [call_stringValue, call_doubleQuoteName, call_singleQuoteName]
  refine settles_choice ?_ _ _
  simp only [List.forall_mem_cons, List.not_mem_nil, false_imp_iff, implies_true, and_true]
  exact ⟨settles_matchPattern means_doubleQuoteName.1 _, settles_matchPattern means_singleQuoteName.1 _⟩

theorem settles_propertyName (place : Cursor → Prop) (h : 3 ≤ depth) :
    Settles place (grammar.call limit depth "propertyName") := by
  obtain ⟨d, rfl⟩ : ∃ d, depth = d + 2 := ⟨depth - 2, by omega⟩
  have hstring : Settles place (grammar.call limit (d + 1) "stringValue") :=
    settles_stringValue limit place (by omega)
  rw [call_propertyName, call_identifier]
  refine settles_choice ?_ _ _
  simp only [List.forall_mem_cons, List.not_mem_nil, false_imp_iff, implies_true, and_true]
  exact ⟨settles_matchPattern means_identifier.1 _, hstring⟩

/-- Entries with commas between them. -/
theorem settles_commaSeparated {item : Step (Except Diagnostic)} (h : Settles (Opens n) item) :
    Settles (Opens n) (Step.repetition item (some (matchPattern "\\s*,\\s*")) 0 none) := by
  exact settles_repetition (lasts_opens n) h
    (settles_some (settles_matchPattern means_comma.1 _)) 0 none

/-- With one bracket less to open there are four references less to make. -/
theorem settles_object (h : 4 * n + 2 ≤ depth)
    (hvalue : ∀ m d, n = m + 1 → 4 * m + 3 ≤ d →
      Settles (Opens m) (grammar.call limit d "propertyValue")) :
    Settles (Opens n) (grammar.call limit depth "object") := by
  obtain ⟨d, rfl⟩ : ∃ d, depth = d + 1 := ⟨depth - 1, by omega⟩
  rw [call_object]
  refine settles_bracketStep means_openBrace (.inl rfl) means_closeBrace fun m hm => ?_
  obtain ⟨d, rfl⟩ : ∃ d', d = d' + 2 := ⟨d - 2, by omega⟩
  rw [call_propertyList, call_property]
  refine settles_commaSeparated (settles_sequence (lasts_opens m) settles_none ?_ none)
  simp only [List.forall_mem_cons, List.not_mem_nil, false_imp_iff, implies_true, and_true]
  exact ⟨settles_propertyName limit _ (by omega), settles_matchPattern means_colon.1 _,
    hvalue m d hm (by omega)⟩

theorem settles_array (h : 4 * n + 2 ≤ depth)
    (hvalue : ∀ m d, n = m + 1 → 4 * m + 3 ≤ d →
      Settles (Opens m) (grammar.call limit d "propertyValue")) :
    Settles (Opens n) (grammar.call limit depth "array") := by
  obtain ⟨d, rfl⟩ : ∃ d, depth = d + 1 := ⟨depth - 1, by omega⟩
  rw [call_array]
  refine settles_bracketStep means_openBracket (.inr rfl) means_closeBracket fun m hm => ?_
  obtain ⟨d, rfl⟩ : ∃ d', d = d' + 1 := ⟨d - 1, by omega⟩
  rw [call_valueList]
  exact settles_commaSeparated (hvalue m d hm (by omega))

/-- **A value is never given up** if there are four references for every bracket, and three more. -/
theorem settles_propertyValue (h : 4 * n + 3 ≤ depth) :
    Settles (Opens n) (grammar.call limit depth "propertyValue") := by
  -- The rules come back to values by four references, behind a bracket: the induction is on the
  -- brackets that are left, not on the references.
  induction n using Nat.strong_induction_on generalizing depth with
  | _ n ih =>
    have hvalue : ∀ m d, n = m + 1 → 4 * m + 3 ≤ d →
        Settles (Opens m) (grammar.call limit d "propertyValue") :=
      fun m d hm hd => ih m (by omega) hd
    obtain ⟨d, rfl⟩ : ∃ d, depth = d + 2 := ⟨depth - 2, by omega⟩
    have htwo : 2 ≤ d + 1 := by omega
    have hbracket : 4 * n + 2 ≤ d + 1 := by omega
    have hstring := settles_stringValue limit (Opens n) htwo
    have hobject := settles_object limit hbracket hvalue
    have harray := settles_array limit hbracket hvalue
    rw [call_propertyValue, markedKinds, call_regexValue, call_numberValue, call_boolValue,
      call_nullValue, call_identifier]
    refine settles_choice ?_ _ _
    simp only [List.forall_mem_append, List.forall_mem_cons, List.not_mem_nil, false_imp_iff,
      implies_true, and_true]
    exact ⟨⟨hstring, settles_matchPattern means_regexValue.1 _, hobject, harray⟩,
      settles_matchPattern means_numberValue.1 _, settles_matchPattern means_boolValue.1 _,
      settles_matchPattern means_nullValue.1 _, settles_matchPattern means_identifier.1 _⟩

theorem settles_document (h : 4 * n + 3 ≤ depth) :
    Settles (Opens n) (grammar.call limit depth "document") := by
  obtain ⟨d, rfl⟩ : ∃ d, depth = d + 1 := ⟨depth - 1, by omega⟩
  have hbracket : 4 * n + 2 ≤ d := by omega
  have hobject := settles_object limit hbracket fun m d _ hd => settles_propertyValue limit hd
  rw [call_document]
  refine settles_sequence (lasts_opens n) settles_none ?_ none
  simp only [List.forall_mem_cons, List.not_mem_nil, false_imp_iff, implies_true, and_true]
  exact ⟨settles_matchPattern means_blanks.1 _, hobject, settles_matchPattern means_blanks.1 _⟩

end

/-! ### Texts -/

/-- A run on a text that opens at most 249 brackets comes to an end. -/
theorem exists_run_eq {p : Parser} (hp : parser = .ok p) {text : String}
    (h : openings text.toList ≤ 249) : ∃ o, p.run "document" text = .ok o := by
  have hdepth : 4 * 249 + 3 ≤ defaultMaxDepth + 1 := by decide
  have hsettles := settles_document defaultMaxDepth hdepth
  obtain ⟨a, ha, -⟩ := hsettles (.start text) h
  rw [Parser.run_eq_call hp, ha]
  exact ⟨_, rfl⟩

/-- A run on such a text ends like one with more references. -/
theorem run_of_call {p : Parser} (hp : parser = .ok p) {text : String}
    (h : openings text.toList ≤ 249) {maxDepth : Nat} (hle : defaultMaxDepth ≤ maxDepth) {a : Attempt}
    (ha : grammar.call maxDepth (maxDepth + 1) "document" (.start text) = .ok a) :
    p.run "document" text = .ok (.ofAttempt a) := by
  have hcompile : ∀ n, Parser.compile grammar n = .ok (p.withMaxDepth n) := fun n => by
    rw [Parser.compile_withMaxDepth grammar defaultMaxDepth n]
    exact congrArg (Except.map _) hp
  have hp' : p.withMaxDepth defaultMaxDepth = p := Except.ok.inj ((hcompile _).symm.trans hp)
  have hrun : (p.withMaxDepth maxDepth).run "document" text = .ok (.ofAttempt a) := by
    rw [Parser.run_eq_call (hcompile maxDepth), ha]
    rfl
  have hless := Parser.run_of_le hle hrun
  rw [hp'] at hless
  refine hless.resolve_right fun hlimit => ?_
  obtain ⟨o, ho⟩ := exists_run_eq hp h
  rw [hlimit] at ho
  cases ho

theorem maxDepth_eq {p : Parser} (hp : parser = .ok p) : p.maxDepth = defaultMaxDepth := by
  obtain ⟨rules, rfl, -⟩ := Parser.compile_eq_ok hp
  rfl

/-- What is said of a text that is no grammar is not that the limit was reached. -/
theorem Refused.ne_recursionLimit {c : Cause} (h : Refused c) (limit : Nat) :
    c ≠ .recursionLimit limit := by
  cases h with
  | mismatch o =>
    unfold Notation.mismatch
    split <;> nofun
  | _ => nofun

/-- **Texts that open at most 249 brackets never reach the limit**, whether they are grammars or
not, however long they are, and wherever the brackets stand: with the limit of a thousand active
references, a run on such a text comes to an end, and reading the rules off it is never given up
for the limit. -/
theorem definitions_within_limit {text : String} (h : openings text.toList ≤ 249) :
    (∃ p o, parser = .ok p ∧ p.maxDepth = 1000 ∧ p.run "document" text = .ok o) ∧
    ∀ name e, definitions name text = .error e → ∀ limit, e.cause ≠ .recursionLimit limit := by
  obtain ⟨p, hp⟩ := exists_parser_eq
  obtain ⟨o, ho⟩ := exists_run_eq hp h
  refine ⟨⟨p, o, hp, maxDepth_eq hp, ho⟩, fun name e he limit => ?_⟩
  have hrefused := cause_of_definitions hp ho
    (fun hs => (isObject_of_run hp ho hs).isSome_properties?) he
  exact hrefused.ne_recursionLimit limit

/-- Brackets that are opened one in the other, as the value of a property. -/
def nestedText (n : Nat) : String := "\x7ba:" ++ .ofList (List.replicate n '[')

theorem openings_nestedText (n : Nat) : openings (nestedText n).toList = n + 1 := by
  have htext : (nestedText n).toList = ['{', 'a', ':'] ++ List.replicate n '[' := by
    simp [nestedText]
  rw [htext, openings, List.countP_append, List.countP_replicate, Nat.add_comm]
  rfl

theorem definitions_within_limit_sample :
    openings (nestedText 248).toList ≤ 249 ∧
    (∃ p o, parser = .ok p ∧ p.maxDepth = 1000 ∧ p.run "document" (nestedText 248) = .ok o) ∧
    openings "]\x7b[".toList ≤ 249 ∧
    ∃ e, definitions "grammar" "]\x7b[" = .error e ∧ ∀ limit, e.cause ≠ .recursionLimit limit := by
  have hnested : openings (nestedText 248).toList ≤ 249 := (openings_nestedText 248).le
  have hfew : openings "]\x7b[".toList ≤ 249 := by decide
  have hfails : ∃ e, definitions "grammar" "]\x7b[" = .error e := by
    obtain ⟨p, hp⟩ := exists_parser_eq
    have hrun : p.run "document" "]\x7b[" = .ok ⟨false, 0, .map []⟩ := by
      rw [Parser.run_eq_call hp]
      decide +kernel
    rw [definitions, hp]
    simp only [bind, Except.bind, hrun]
    exact ⟨_, rfl⟩
  obtain ⟨e, he⟩ := hfails
  exact ⟨hnested, (definitions_within_limit hnested).1, hfew, e, he,
    (definitions_within_limit hfew).2 _ e he⟩

end DataGrammar.Notation
