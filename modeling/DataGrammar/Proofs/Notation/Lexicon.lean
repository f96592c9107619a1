import DataGrammar.Proofs.Matching.Reading
import DataGrammar.Proofs.Notation.Written

/-!
# The patterns of the notation

What the patterns in the grammar of the notation mean as expressions, and which texts they read in
front of what may follow. Patterns that are tried on a text for another one refuse it, mostly by
its first character.

* `Follows`: what comes next may follow a name or a literal.
* `reads_enclosed`, `reads_identifier`, `reads_digits`, `reads_boolean`, `reads_null`: the texts of
  names and of literals without parts.
* `exists_of_matchPattern`: nothing else is read between quotes or slashes.
* `reads_separator`, `reads_opening`, `reads_closing`: what stands between parts.
-/

namespace DataGrammar

namespace CharSet

/-- No interval of one set meets one of the other. -/
def apart (a b : CharSet) : Bool := a.intervals.all fun i => !b.meets i.1 i.2

theorem exists_of_memberOf {code : Nat} {intervals : List (Nat × Nat)}
    (h : memberOf code intervals = true) : ∃ i ∈ intervals, i.1 ≤ code ∧ code ≤ i.2 := by
  induction intervals with
  | nil => cases h
  | cons i rest ih =>
    obtain ⟨lo, hi⟩ := i
    rw [memberOf] at h
    split at h
    · cases h
    · split at h
      · exact ⟨(lo, hi), List.mem_cons_self .., by omega⟩
      · obtain ⟨j, hj, hcode⟩ := ih h
        exact ⟨j, List.mem_cons_of_mem _ hj, hcode⟩

/-- Sets that are apart have no character in common. -/
theorem contains_eq_false {a b : CharSet} (h : a.apart b = true) {c : Char}
    (hc : a.contains c = true) : b.contains c = false := by
  refine Bool.eq_false_iff.2 fun hb => ?_
  obtain ⟨i, hi, hci⟩ := exists_of_memberOf hc
  obtain ⟨j, hj, hcj⟩ := exists_of_memberOf hb
  have hmeets : b.meets i.1 i.2 = true :=
    List.any_eq_true.2 ⟨j, hj, by simp only [Bool.and_eq_true, decide_eq_true_eq]; omega⟩
  have := List.all_eq_true.1 h i hi
  simp [hmeets] at this

end CharSet

namespace Notation

open Pattern Expression

/-! ### Sets of characters -/

/-- Letters and the underscore. -/
def lead : CharSet := ⟨[(65, 90), (95, 95), (97, 122)]⟩

/-- Letters, digits and the underscore. -/
def tail : CharSet := ⟨[(48, 57), (65, 90), (95, 95), (97, 122)]⟩

/-- All characters but a backslash and one before it. -/
def plain (close : Char) : CharSet :=
  ⟨[(0, close.toNat - 1), (close.toNat + 1, 91), (93, CharSet.maxCode)]⟩

/-- All characters but the line feed. -/
def inLine : CharSet := ⟨[(0, 9), (11, CharSet.maxCode)]⟩

/-- The signs of numbers. -/
def sign : CharSet := ⟨[(43, 43), (45, 45)]⟩

/-- What may follow a name or a literal, besides blanks. -/
def followers : List Char := [',', ':', ']', '}']

/-- What comes next may follow a name or a literal. -/
def Follows (rest : List Char) : Prop :=
  ∀ c ∈ rest.head?, Unicode.space.contains c = true ∨ c ∈ followers

/-- None of the characters that may follow a name or a literal is in the set. -/
def isInner (set : CharSet) : Bool :=
  Unicode.space.apart set && followers.all fun c => !set.contains c

theorem Follows.contains_eq_false {rest : List Char} (h : Follows rest) {set : CharSet}
    (hs : isInner set = true) : ∀ c ∈ rest.head?, set.contains c = false := by
  intro c hc
  rw [isInner, Bool.and_eq_true, List.all_eq_true] at hs
  obtain hspace | hmem := h c hc
  · exact CharSet.contains_eq_false hs.1 hspace
  · simpa using hs.2 c hmem

theorem toNat_le_maxCode (c : Char) : c.toNat ≤ 1114111 := by
  have h : c.toNat.isValidChar := c.valid
  rcases h with h | h <;> omega

theorem contains_plain {close c : Char} (hq : c ≠ close) (hb : c ≠ '\\')
    (h : 0 < close.toNat ∧ close.toNat < 91) : (plain close).contains c = true := by
  have hq : c.toNat ≠ close.toNat := fun h => hq (Char.toNat_inj.1 h)
  have hb : c.toNat ≠ 92 := fun h => hb (Char.toNat_inj.1 h)
  have hmax := toNat_le_maxCode c
  simp only [plain, CharSet.contains, CharSet.memberOf, CharSet.maxCode]
  grind

theorem contains_inLine {c : Char} (h : c ≠ '\n') : inLine.contains c = true := by
  have h : c.toNat ≠ 10 := fun h' => h (Char.toNat_inj.1 h')
  have hmax := toNat_le_maxCode c
  simp only [inLine, CharSet.contains, CharSet.memberOf, CharSet.maxCode]
  grind

/-- What holds of all ASCII characters, and of no other ones, can be computed. -/
theorem eq_of_ascii {p q : Char → Bool} (h : ∀ n < 128, p (.ofNat n) = q (.ofNat n))
    (hp : ∀ c : Char, 128 ≤ c.toNat → p c = false) (hq : ∀ c : Char, 128 ≤ c.toNat → q c = false)
    (c : Char) : p c = q c := by
  rcases Nat.lt_or_ge c.toNat 128 with hc | hc
  · rw [← Char.ofNat_toNat c]
    exact h _ hc
  · rw [hp c hc, hq c hc]

theorem contains_eq_false_of_le {set : CharSet} (h : set.isAscii = true) {c : Char}
    (hc : 128 ≤ c.toNat) : set.contains c = false := by
  refine Bool.eq_false_iff.2 fun hs => ?_
  obtain ⟨i, hi, -, hle⟩ := CharSet.exists_of_memberOf hs
  have := List.all_eq_true.1 h i hi
  simp only [decide_eq_true_eq] at this
  omega

theorem isAlphanum_eq_false {c : Char} (hc : 128 ≤ c.toNat) : c.isAlphanum = false := by
  have hc : 128 ≤ c.val.toNat := hc
  delta Char.isAlphanum Char.isAlpha Char.isUpper Char.isLower Char.isDigit
  simp only [ge_iff_le, UInt32.le_iff_toNat_le, Bool.or_eq_false_iff, Bool.and_eq_false_iff,
    decide_eq_false_iff_not, Char.reduceVal, UInt32.reduceToNat]
  omega

theorem ne_underscore {c : Char} (hc : 128 ≤ c.toNat) : c ≠ '_' := by
  rintro rfl
  exact absurd hc (by decide)

theorem contains_tail (c : Char) : tail.contains c = Unicode.isAsciiWord c := by
  refine eq_of_ascii (by decide) (fun c hc => contains_eq_false_of_le rfl hc)
    (fun c hc => ?_) c
  simp [Unicode.isAsciiWord, isAlphanum_eq_false hc, ne_underscore hc]

theorem contains_lead (c : Char) : lead.contains c = (c.isAlpha || c = '_') := by
  refine eq_of_ascii (q := fun c => c.isAlpha || c = '_') (by decide)
    (fun c hc => contains_eq_false_of_le rfl hc) (fun c hc => ?_) c
  have := isAlphanum_eq_false hc
  simp only [Char.isAlphanum, Bool.or_eq_false_iff] at this
  simp [this.1, ne_underscore hc]

/-! ### Expressions -/

/-- A character between quotes or slashes, or one after a backslash. -/
def unit (close : Char) : Expression :=
  .alternation [.chars (plain close), .concat [.chars (.singleton '\\'), .chars inLine]]

/-- A text between two quotes or slashes. -/
def enclosed (close : Char) : Expression :=
  .concat ([.chars (.singleton close)] ++ .capture 1 (star (unit close)) ::
    [.chars (.singleton close)])

/-- An identifier. -/
def identifier : Expression := .concat [.chars lead, star (.chars tail)]

/-- A decimal number. -/
def number : Expression :=
  .concat [optional (.chars sign), .alternation [
    .concat [plus (.chars Unicode.digit), optional (.chars (.singleton '.')),
      star (.chars Unicode.digit)],
    .concat [star (.chars Unicode.digit), optional (.chars (.singleton '.')),
      plus (.chars Unicode.digit)]]]

/-- One of two words. -/
def either (first second : String) : Expression :=
  .alternation [word first.toList, word second.toList]

/-- The end of a word. -/
def wordEnd : Expression := .look (.wordBoundary true)

/-- Any number of blanks. -/
def blanks : Expression := star (.chars Unicode.space)

/-- A character with blanks on both sides. -/
def separator (c : Char) : Expression := .concat [blanks, .chars (.singleton c), blanks]

/-- A character with blanks behind it. -/
def opening (c : Char) : Expression := .concat [.chars (.singleton c), blanks]

/-- A character with blanks before it. -/
def closing (c : Char) : Expression := .concat [blanks, .chars (.singleton c)]

/-- The patterns of the notation with what they mean. -/
def lexicon : List (String × Expression) := [
  ("\"((?:[^\"\\\\]|\\\\.)*)\"", enclosed '"'),
  ("'((?:[^'\\\\]|\\\\.)*)'", enclosed '\''),
  ("/((?:[^/\\\\]|\\\\.)*)/", enclosed '/'),
  ("[A-Za-z_][A-Za-z0-9_]*", identifier),
  ("[-+]?(?:\\d+\\.?\\d*|\\d*\\.?\\d+)", number),
  ("(?:true|false)\\b", .concat [either "true" "false", wordEnd]),
  ("(null|undefined)\\b", .concat ([] ++ .capture 1 (either "null" "undefined") :: [wordEnd])),
  ("\\s*,\\s*", separator ','),
  ("\\s*:\\s*", separator ':'),
  ("\\\x7b\\s*", opening '{'),
  ("\\s*\\\x7d", closing '}'),
  ("\\[\\s*", opening '['),
  ("\\s*\\]", closing ']'),
  ("\\s*", blanks)]

/-- What the patterns are compiled to is computed. -/
theorem compile_of_mem : ∀ p ∈ lexicon,
    (compile p.1).toOption = some ⟨.ofExpression p.2, p.2.hasCapture⟩ ∧ p.2.proper = true := by
  decide +kernel

/-- All patterns of the notation mean what is said. -/
theorem means_of_mem {source : String} {e : Expression} (h : (source, e) ∈ lexicon) :
    Means source e := by
  obtain ⟨hcompile, hproper⟩ := compile_of_mem _ h
  exact means_of_toOption ⟨hcompile, hproper⟩

theorem means_doubleQuoteName : Means "\"((?:[^\"\\\\]|\\\\.)*)\"" (enclosed '"') :=
  means_of_mem (by simp [lexicon])

theorem means_singleQuoteName : Means "'((?:[^'\\\\]|\\\\.)*)'" (enclosed '\'') :=
  means_of_mem (by simp [lexicon])

theorem means_regexValue : Means "/((?:[^/\\\\]|\\\\.)*)/" (enclosed '/') :=
  means_of_mem (by simp [lexicon])

theorem means_identifier : Means "[A-Za-z_][A-Za-z0-9_]*" identifier :=
  means_of_mem (by simp [lexicon])

theorem means_numberValue : Means "[-+]?(?:\\d+\\.?\\d*|\\d*\\.?\\d+)" number :=
  means_of_mem (by simp [lexicon])

theorem means_boolValue : Means "(?:true|false)\\b" (.concat [either "true" "false", wordEnd]) :=
  means_of_mem (by simp [lexicon])

theorem means_nullValue : Means "(null|undefined)\\b"
    (.concat ([] ++ .capture 1 (either "null" "undefined") :: [wordEnd])) :=
  means_of_mem (by simp [lexicon])

theorem means_comma : Means "\\s*,\\s*" (separator ',') := means_of_mem (by simp [lexicon])

theorem means_colon : Means "\\s*:\\s*" (separator ':') := means_of_mem (by simp [lexicon])

theorem means_openBrace : Means "\\\x7b\\s*" (opening '{') := means_of_mem (by simp [lexicon])

theorem means_closeBrace : Means "\\s*\\\x7d" (closing '}') := means_of_mem (by simp [lexicon])

theorem means_openBracket : Means "\\[\\s*" (opening '[') := means_of_mem (by simp [lexicon])

theorem means_closeBracket : Means "\\s*\\]" (closing ']') := means_of_mem (by simp [lexicon])

theorem means_blanks : Means "\\s*" blanks := means_of_mem (by simp [lexicon])

/-! ### Texts -/

variable {source : String} {rest ahead : List Char}

open Outlook (accept below)
open Description (matchPattern matchPattern_of_means reads_pattern reads_capture refuses_pattern)

/-- The characters between two quotes or slashes, one by one or after a backslash. -/
inductive Units (close : Char) : List Char → Prop
  | nil : Units close []
  | plain {c : Char} {body : List Char} (hc : c ≠ close) (hb : c ≠ '\\') (h : Units close body) :
    Units close (c :: body)
  | pair {c : Char} {body : List Char} (hc : c ≠ '\n') (h : Units close body) :
    Units close ('\\' :: c :: body)

theorem QuotedBody.units {quote : Char} {content body : List Char}
    (h : QuotedBody quote content body) : Units quote body := by
  induction h with
  | nil => exact .nil
  | plain hq hb _ ih => exact .plain hq hb ih
  | escape he _ ih =>
    refine .pair ?_ ih
    rintro rfl
    simp [escapes] at he

theorem Slashed.units {pattern body : List Char} (h : Slashed pattern body) :
    Units '/' body := by
  induction h with
  | nil => exact .nil
  | plain hs hb _ ih => exact .plain hs hb ih
  | slash _ ih => exact .pair (by decide) ih
  | pair _ hn _ ih => exact .pair hn ih

section Enclosed

variable {close : Char} {body : List Char}

/-- Quotes and slashes. -/
def enclosing : List Char := ['"', '\'', '/']

theorem contains_plain_of_mem (h : close ∈ enclosing) : (plain close).contains close = false ∧
    (plain close).contains '\\' = false ∧ close ≠ '\\' ∧
    0 < close.toNat ∧ close.toNat < 91 := by
  simp only [enclosing, List.mem_cons, List.not_mem_nil, or_false] at h
  rcases h with rfl | rfl | rfl <;> decide

theorem refuses_unit (hc : close ∈ enclosing) : (unit close).Refuses (close :: rest) := by
  obtain ⟨hp, -, hb, -⟩ := contains_plain_of_mem hc
  refine refuses_alternation ?_
  simp only [List.forall_mem_cons, List.not_mem_nil, false_imp_iff, implies_true, and_true]
  refine ⟨refuses_chars (by simpa using hp), refuses_concat (refusesRow_cons (refuses_chars ?_))⟩
  simpa [contains_singleton] using hb

/-- The characters between two quotes or slashes are read up to the closing one. -/
theorem reads_units (hc : close ∈ enclosing) (h : Units close body) :
    (star (unit close)).Reads body (close :: rest) := by
  obtain ⟨hp, hbackslash, hb, hcode⟩ := contains_plain_of_mem hc
  induction h with
  | nil => exact reads_star_nil (refuses_unit hc)
  | @plain c body hcl hbs _ ih =>
    exact reads_star_cons (List.cons_ne_nil c [])
      (reads_alternation_head (reads_chars (contains_plain hcl hbs hcode))) ih
  | @pair c body hn _ ih =>
    refine reads_star_cons (List.cons_ne_nil '\\' [c])
      (reads_alternation_tail (refuses_chars ?_) (reads_alternation_head (reads_concat ?_))) ih
    · simpa using hbackslash
    · exact readsRow_char (by decide) (readsRow_char (contains_inLine hn) readsRow_nil)

/-- **A text between quotes or slashes is read.** -/
theorem reads_enclosed (hm : Means source (enclosed close)) (hc : close ∈ enclosing)
    (h : Units close body) : Step.Reads (matchPattern source) (close :: body ++ [close]) rest
      (.text (.ofList body)) := by
  have hclose : ∀ rest, ReadsRow [.chars (.singleton close)] [close] rest := fun rest =>
    readsRow_singleton (reads_chars (by simp [contains_singleton]))
  exact reads_capture hm (hclose _) (reads_units hc h) fun _ => hclose rest _

theorem refuses_enclosed (hm : Means source (enclosed close)) (h : ahead.head? ≠ some close) :
    Step.Refuses (matchPattern source) ahead := by
  refine refuses_pattern hm (refuses_concat (refusesRow_cons (refuses_chars fun c hc => ?_)))
  rw [contains_singleton, decide_eq_false_iff_not]
  rintro rfl
  exact h hc

theorem outlook_unit (after : Outlook) (place : Place) : (unit close).outlook after place =
    ((chars (plain close)).outlook after place).or
      ((chars (.singleton '\\')).outlook ((chars inLine).outlook after) place) := by
  rw [← Option.or_none (o := (chars (.singleton '\\')).outlook _ _)]
  rfl

/-- Where something comes of a character between quotes or slashes, it is ahead. -/
theorem exists_of_outlook_unit (hc : close ∈ enclosing) {after : Outlook} {place : Place}
    (h : ((unit close).outlook after place).isSome) :
    ∃ text next, place.ahead = text ++ next.ahead ∧
      (∀ {body}, Units close body → Units close (text ++ body)) ∧ (after next).isSome := by
  obtain ⟨hp, hbackslash, -⟩ := contains_plain_of_mem hc
  rw [outlook_unit, Option.isSome_or, Bool.or_eq_true] at h
  rcases h with h | h
  · obtain ⟨c, rest, hahead, hplain, hafter⟩ := exists_of_outlook_chars h
    refine ⟨[c], ⟨some c, rest, _⟩, hahead, .plain ?_ ?_, hafter⟩
    · rintro rfl
      rw [hp] at hplain
      cases hplain
    · rintro rfl
      rw [hbackslash] at hplain
      cases hplain
  · obtain ⟨b, rest, hahead, hb, h⟩ := exists_of_outlook_chars h
    obtain ⟨c, rest', hrest, hline, hafter⟩ := exists_of_outlook_chars h
    obtain rfl : b = '\\' := by simpa [contains_singleton] using hb
    obtain rfl : rest = c :: rest' := hrest
    refine ⟨['\\', c], ⟨some c, rest', _⟩, hahead, .pair ?_, hafter⟩
    rintro rfl
    exact absurd hline (by decide)

/-- Where something comes of characters between quotes or slashes, they are ahead. -/
theorem exists_of_outlook_units (hc : close ∈ enclosing) {after : Outlook} {place : Place}
    (h : ((star (unit close)).outlook after place).isSome) : ∃ body next,
      Units close body ∧ place.ahead = body ++ next.ahead ∧ (after next).isSome := by
  induction hn : place.ahead.length using Nat.strong_induction_on generalizing place with
  | _ n ih =>
    rw [outlook_star, Option.isSome_or, Bool.or_eq_true] at h
    rcases h with h | h
    · obtain ⟨text, next, hahead, hunits, hrounds⟩ := exists_of_outlook_unit hc h
      rw [below] at hrounds
      split at hrounds
      · next hlt =>
        obtain ⟨body, next', hbody, hnext, hafter⟩ := ih _ (hn ▸ hlt) hrounds rfl
        refine ⟨text ++ body, next', hunits hbody, ?_, hafter⟩
        rw [hahead, hnext, List.append_assoc]
      · cases hrounds
    · exact ⟨[], place, .nil, rfl, h⟩

/-- **Only a text between quotes or slashes is read.** -/
theorem exists_of_matchPattern (hm : Means source (enclosed close)) (hc : close ∈ enclosing)
    {c : Cursor} {a : Attempt} (ha : matchPattern source c = .ok a) (hs : a.success = true) :
    ∃ body, Units close body ∧ a.value = .text (.ofList body) := by
  have hmatch : ((enclosed close).find? c.behind c.ahead).isSome := by
    rw [matchPattern_of_means hm] at ha
    cases hfind : (enclosed close).find? c.behind c.ahead with
    | some m => rfl
    | none =>
      rw [hfind] at ha
      cases ha
      cases hs
  rw [find?, Option.isSome_map, enclosed, outlook, List.singleton_append, outlookRow] at hmatch
  obtain ⟨b, rest, hahead, hb, hmatch⟩ := exists_of_outlook_chars hmatch
  rw [outlookRow, outlook, if_pos rfl, Ending.opening, Option.isSome_map] at hmatch
  obtain ⟨body, next, hunits, hrest, hclosing⟩ := exists_of_outlook_units hc hmatch
  rw [Ending.closing, Option.isSome_map, outlookRow] at hclosing
  obtain ⟨d, rest', hnext, hd, -⟩ := exists_of_outlook_chars hclosing
  obtain rfl : b = close := by simpa [contains_singleton] using hb
  obtain rfl : d = b := by simpa [contains_singleton] using hd
  have htext : c.ahead = (d :: body ++ [d]) ++ rest' := by
    rw [show c.ahead = d :: rest from hahead, show rest = body ++ next.ahead from hrest, hnext]
    simp
  rw [reads_enclosed hm hc hunits c htext] at ha
  cases ha
  exact ⟨body, hunits, rfl⟩

end Enclosed

/-! ### Identifiers, numbers and words -/

theorem contains_of_isIdentifier {text : List Char} (h : isIdentifier text = true) :
    ∃ c cs, text = c :: cs ∧ lead.contains c = true ∧ ∀ d ∈ cs, tail.contains d = true := by
  cases text with
  | nil => cases h
  | cons c cs =>
    simp only [isIdentifier, Bool.and_eq_true, List.all_eq_true] at h
    refine ⟨c, cs, rfl, by rw [contains_lead]; exact h.1, fun d hd => ?_⟩
    rw [contains_tail]
    exact h.2 d hd

theorem contains_tail_of_isIdentifier {text : List Char} (h : isIdentifier text = true) :
    ∀ c ∈ text, tail.contains c = true := by
  obtain ⟨c, cs, rfl, hc, hcs⟩ := contains_of_isIdentifier h
  refine List.forall_mem_cons.2 ⟨?_, hcs⟩
  rw [contains_lead, Bool.or_eq_true] at hc
  rw [contains_tail, Unicode.isAsciiWord, Char.isAlphanum, Bool.or_eq_true, Bool.or_eq_true]
  exact hc.imp_left .inl

theorem isWord_of_contains_tail {c : Char} (h : tail.contains c = true) :
    Unicode.isWord c = true := by
  rcases Nat.lt_or_ge c.toNat 128 with hc | hc
  · have hascii : ∀ n < 128, tail.contains (.ofNat n) = true →
        Unicode.isWord (.ofNat n) = true := by decide
    rw [← Char.ofNat_toNat c] at h ⊢
    exact hascii _ hc h
  · rw [contains_eq_false_of_le rfl hc] at h
    cases h

theorem reads_identifier {text : List Char} (h : isIdentifier text = true) (hr : Follows rest) :
    Step.Reads (matchPattern "[A-Za-z_][A-Za-z0-9_]*") text rest (.text (.ofList text)) := by
  obtain ⟨c, cs, rfl, hc, hcs⟩ := contains_of_isIdentifier h
  have htail : isInner tail = true := by decide
  have hstar := reads_star_set hcs (hr.contains_eq_false htail)
  refine reads_pattern means_identifier rfl (reads_concat ?_)
  exact readsRow_char hc (readsRow_singleton hstar)

theorem refuses_identifier (h : ∀ c ∈ ahead.head?, lead.contains c = false) :
    Step.Refuses (matchPattern "[A-Za-z_][A-Za-z0-9_]*") ahead :=
  refuses_pattern means_identifier (refuses_concat (refusesRow_cons (refuses_chars h)))

theorem contains_digit {c : Char} (h : c.isDigit = true) : Unicode.digit.contains c = true := by
  have h : 48 ≤ c.toNat ∧ c.toNat ≤ 57 := by
    simpa [Char.isDigit, UInt32.le_iff_toNat_le] using h
  simp only [CharSet.contains, Unicode.digit, CharSet.memberOf]
  rw [if_neg (by omega), if_pos (by omega)]

theorem reads_digits {text : List Char} (hne : text ≠ []) (h : ∀ c ∈ text, c.isDigit = true)
    (hr : Follows rest) :
    Step.Reads (matchPattern "[-+]?(?:\\d+\\.?\\d*|\\d*\\.?\\d+)") text rest
      (.text (.ofList text)) := by
  obtain ⟨c, cs, rfl⟩ := List.exists_cons_of_ne_nil hne
  have h : ∀ d ∈ c :: cs, Unicode.digit.contains d = true := fun d hd => contains_digit (h d hd)
  obtain ⟨hc, hcs⟩ := List.forall_mem_cons.1 h
  have hdigit := hr.contains_eq_false (show isInner Unicode.digit = true by decide)
  have hpoint := hr.contains_eq_false (show isInner (.singleton '.') = true by decide)
  refine reads_pattern means_numberValue rfl (reads_concat ?_)
  refine readsRow_nil_cons (reads_optional_nil (refuses_chars ?_)) (readsRow_singleton ?_)
  · rintro _ ⟨⟩
    exact CharSet.contains_eq_false (by decide) hc
  · refine reads_alternation_head (reads_concat (readsRow_cons_nil ?_ ?_))
    · exact reads_plus (reads_chars hc) (reads_star_set hcs hdigit)
    · exact readsRow_nil_cons (reads_optional_nil (refuses_chars hpoint))
        (readsRow_singleton (reads_star_nil (refuses_chars hdigit)))

/-- No number starts with this. -/
theorem refuses_number (h : ∀ c ∈ ahead.head?, sign.contains c = false ∧
      Unicode.digit.contains c = false ∧ (CharSet.singleton '.').contains c = false) :
    Step.Refuses (matchPattern "[-+]?(?:\\d+\\.?\\d*|\\d*\\.?\\d+)") ahead := by
  have hdigit : (Expression.chars Unicode.digit).Refuses ahead :=
    refuses_chars fun c hc => (h c hc).2.1
  refine refuses_pattern means_numberValue (refuses_concat ?_)
  refine refusesRow_optional (refuses_chars fun c hc => (h c hc).1) (refusesRow_cons ?_)
  refine refuses_alternation ?_
  simp only [List.forall_mem_cons, List.not_mem_nil, false_imp_iff, implies_true, and_true]
  refine ⟨refuses_concat (refusesRow_cons (refuses_plus hdigit)), refuses_concat ?_⟩
  have hnone : ∀ c ∈ ([] : List Char), Unicode.digit.contains c = true := by simp
  refine refusesRow_star hnone (fun c hc => (h c hc).2.1) (by simp) ?_
  exact refusesRow_optional (refuses_chars fun c hc => (h c hc).2.2)
    (refusesRow_cons (refuses_plus hdigit))

section Words

variable {first second : String}

theorem Follows.isWordAt (h : Follows rest) : isWordAt true rest.head? = false := by
  cases rest with
  | nil => rfl
  | cons c rest =>
    have hword : isInner Unicode.word = true := by decide +kernel
    exact h.contains_eq_false hword c rfl

/-- The word ends in a character of words. -/
def endsInWord (word : String) : Bool := word.toList.getLast?.any Unicode.isWord

theorem isWordAt_of_endsInWord {word : String} (h : endsInWord word = true)
    (behind : Option Char) : isWordAt true (lastOf behind word.toList) = true := by
  rw [lastOf_eq]
  unfold endsInWord at h
  cases hc : word.toList.getLast? with
  | none => simp [hc] at h
  | some c => simpa [hc, Pattern.isWordAt] using h

/-- A word ends before what may follow a literal. -/
theorem readsRowAt_wordEnd {behind : Option Char} (hb : isWordAt true behind = true)
    (hr : Follows rest) : ReadsRowAt behind [wordEnd] [] rest := by
  intro passed after _
  have hholds : (Look.wordBoundary true).holds behind rest.head? = true := by
    simp [Look.holds, hb, hr.isWordAt]
  exact if_pos hholds

/-- A word does not end before one more of its characters. -/
theorem outlook_wordEnd_eq_none {behind : Option Char} (hb : isWordAt true behind = true)
    (ha : isWordAt true ahead.head? = true) (passed : Nat) (after : Outlook) :
    outlookRow [wordEnd] after ⟨behind, ahead, passed⟩ = none := by
  have hholds : (Look.wordBoundary true).holds behind ahead.head? = false := by
    simp [Look.holds, hb, ha]
  exact if_neg (Bool.eq_false_iff.1 hholds)

theorem reads_either {text : String} (h : text = first ∨ text = second)
    (hne : ∀ t u, second.toList ++ t ≠ first.toList ++ u) :
    (either first second).Reads text.toList rest := by
  rcases h with rfl | rfl
  · exact reads_alternation_head (reads_word _ _)
  · refine reads_alternation_tail (fun behind passed after => ?_)
      (reads_alternation_head (reads_word _ _))
    exact outlook_word_eq_none fun t ht => absurd ht (hne _ _)

/-- Neither of the words is ahead, or it goes on. -/
def GoesOn (first second : String) (ahead : List Char) : Prop :=
  ∀ rest, ahead = first.toList ++ rest ∨ ahead = second.toList ++ rest →
    isWordAt true rest.head? = true

theorem outlook_either_eq_none (h₁ : endsInWord first = true)
    (h₂ : endsInWord second = true)
    (h : GoesOn first second ahead) {after : Outlook} (behind : Option Char) (passed : Nat)
    (hafter : ∀ place : Place, isWordAt true place.behind = true →
      isWordAt true place.ahead.head? = true → after place = none) :
    (either first second).outlook after ⟨behind, ahead, passed⟩ = none := by
  simp only [either, outlook, outlookBranches]
  rw [outlook_word_eq_none fun rest hrest => hafter _ (isWordAt_of_endsInWord h₁ behind) (h rest (.inl hrest)),
    outlook_word_eq_none fun rest hrest => hafter _ (isWordAt_of_endsInWord h₂ behind) (h rest (.inr hrest))]
  rfl

/-- An identifier that is neither of the words goes on after them. -/
theorem goesOn_of_isIdentifier {text : List Char} (h : isIdentifier text = true)
    (hr : Follows rest) (hf : isIdentifier first.toList = true)
    (hs : isIdentifier second.toList = true) (hne : text ≠ first.toList ∧ text ≠ second.toList) :
    GoesOn first second (text ++ rest) := by
  have hword : ∀ word : List Char, isIdentifier word = true → text ≠ word → ∀ more,
      text ++ rest = word ++ more → isWordAt true more.head? = true := by
    intro word hw hne more hmore
    rcases List.append_eq_append_iff.1 hmore with ⟨t, rfl, rfl⟩ | ⟨t, rfl, rfl⟩
    · -- the word would go on where the identifier ends
      cases t with
      | nil => exact absurd (List.append_nil text).symm hne
      | cons c t =>
        have htail := contains_tail_of_isIdentifier hw c (by simp)
        rw [hr.contains_eq_false (show isInner tail = true by decide) c rfl] at htail
        cases htail
    · cases t with
      | nil => exact absurd (List.append_nil word) hne
      | cons c t => exact isWord_of_contains_tail (contains_tail_of_isIdentifier h c (by simp))
  rintro more (hmore | hmore)
  · exact hword _ hf hne.1 more hmore
  · exact hword _ hs hne.2 more hmore

/-- What starts with none of their letters does not start with the words. -/
theorem goesOn_of_head? (hf : first.toList ≠ []) (hs : second.toList ≠ [])
    (h : ahead.head? ≠ first.toList.head? ∧ ahead.head? ≠ second.toList.head?) :
    GoesOn first second ahead := by
  rintro rest (rfl | rfl)
  · exact absurd (List.head?_append_of_ne_nil _ hf) h.1
  · exact absurd (List.head?_append_of_ne_nil _ hs) h.2

end Words

theorem reads_boolean {spelling : String} (h : spelling ∈ ["true", "false"]) (hr : Follows rest) :
    Step.Reads (matchPattern "(?:true|false)\\b") spelling.toList rest (.text spelling) := by
  have h : spelling = "true" ∨ spelling = "false" := by simpa using h
  have hend : endsInWord spelling = true := by
    rcases h with rfl | rfl <;> decide
  have heither : (either "true" "false").Reads spelling.toList rest :=
    reads_either h (by intro t u htu; cases htu)
  have hrow : ReadsRow [either "true" "false", wordEnd] spelling.toList rest := by
    intro behind passed after hafter
    have hword := readsRowAt_wordEnd (isWordAt_of_endsInWord hend behind) hr
      (passed + spelling.toList.length) after hafter
    have hsome : (outlookRow [wordEnd] after
        (Place.past behind passed spelling.toList rest)).isSome := by
      rw [Place.past, ← List.nil_append rest, hword]
      exact hafter
    rw [outlookRow, heither _ _ _ hsome]
    exact hword
  have hread : Step.Reads (matchPattern "(?:true|false)\\b") spelling.toList rest
      (.text (.ofList spelling.toList)) := reads_pattern means_boolValue rfl (reads_concat hrow)
  rwa [String.ofList_toList] at hread

theorem refuses_boolean (h : GoesOn "true" "false" ahead) :
    Step.Refuses (matchPattern "(?:true|false)\\b") ahead := by
  refine refuses_pattern means_boolValue (refuses_concat fun behind passed after => ?_)
  exact outlook_either_eq_none (by decide) (by decide) h behind passed
    fun place hb ha => outlook_wordEnd_eq_none hb ha _ _

theorem reads_null {spelling : String} (h : spelling ∈ ["null", "undefined"]) (hr : Follows rest) :
    Step.Reads (matchPattern "(null|undefined)\\b") spelling.toList rest (.text spelling) := by
  have h : spelling = "null" ∨ spelling = "undefined" := by simpa using h
  have hend : endsInWord spelling = true := by
    rcases h with rfl | rfl <;> decide
  have heither : (either "null" "undefined").Reads spelling.toList ([] ++ rest) :=
    reads_either h (by intro t u htu; cases htu)
  have hread : Step.Reads (matchPattern "(null|undefined)\\b") ([] ++ (spelling.toList ++ [])) rest
      (.text (.ofList spelling.toList)) :=
    reads_capture means_nullValue readsRow_nil heither
      fun behind => readsRowAt_wordEnd (isWordAt_of_endsInWord hend _) hr
  rwa [List.nil_append, List.append_nil, String.ofList_toList] at hread

theorem refuses_null (h : GoesOn "null" "undefined" ahead) :
    Step.Refuses (matchPattern "(null|undefined)\\b") ahead := by
  refine refuses_pattern means_nullValue (refuses_concat fun behind passed after => ?_)
  rw [List.nil_append, outlookRow, outlook, if_pos rfl]
  rw [outlook_either_eq_none (by decide) (by decide) h behind passed
    fun place hb ha => ?_]
  · rfl
  · simp only [outlook_wordEnd_eq_none hb ha]
    rfl

/-! ### Between parts -/

section Between

variable {c : Char} {before after : List Char}

/-- What comes next is no blank. -/
def Unblank (rest : List Char) : Prop := ∀ d ∈ rest.head?, Unicode.space.contains d = false

theorem reads_blanks (hb : Blank Unicode.space.contains before) (hr : Unblank rest) :
    blanks.Reads before rest := reads_star_set hb hr

theorem contains_self (c : Char) : (CharSet.singleton c).contains c = true := by
  simp [contains_singleton]

theorem reads_separator (hm : Means source (separator c))
    (hc : Unicode.space.contains c = false) (hb : Blank Unicode.space.contains before)
    (ha : Blank Unicode.space.contains after) (hr : Unblank rest) :
    Step.Reads (matchPattern source) (before ++ c :: after) rest
      (.text (.ofList (before ++ c :: after))) := by
  refine reads_pattern hm rfl (reads_concat (readsRow_cons ?_ ?_))
  · exact reads_blanks hb (by rintro _ ⟨⟩; exact hc)
  · exact readsRow_char (contains_self c) (readsRow_singleton (reads_blanks ha hr))

theorem refuses_separator (hm : Means source (separator c))
    (hc : Unicode.space.contains c = false) (hb : Blank Unicode.space.contains before)
    (hr : Unblank rest) (hne : rest.head? ≠ some c) :
    Step.Refuses (matchPattern source) (before ++ rest) := by
  have hother : ∀ ahead : List Char, ahead.head? ≠ some c →
      RefusesRow [.chars (.singleton c), blanks] ahead := by
    refine fun ahead ha => refusesRow_cons (refuses_chars fun d hd => ?_)
    rw [contains_singleton, decide_eq_false_iff_not]
    rintro rfl
    exact ha hd
  refine refuses_pattern hm (refuses_concat ?_)
  refine refusesRow_star hb hr (fun d hd tail => hother _ ?_) (hother _ hne)
  rintro ⟨⟩
  rw [hb _ hd] at hc
  cases hc

theorem reads_opening (hm : Means source (opening c)) (hb : Blank Unicode.space.contains after)
    (hr : Unblank rest) :
    Step.Reads (matchPattern source) (c :: after) rest (.text (.ofList (c :: after))) :=
  reads_pattern hm rfl (reads_concat
    (readsRow_char (contains_self c) (readsRow_singleton (reads_blanks hb hr))))

theorem refuses_opening (hm : Means source (opening c)) (h : ahead.head? ≠ some c) :
    Step.Refuses (matchPattern source) ahead := by
  refine refuses_pattern hm (refuses_concat (refusesRow_cons (refuses_chars fun d hd => ?_)))
  rw [contains_singleton, decide_eq_false_iff_not]
  rintro rfl
  exact h hd

theorem reads_closing (hm : Means source (closing c)) (hc : Unicode.space.contains c = false)
    (hb : Blank Unicode.space.contains before) :
    Step.Reads (matchPattern source) (before ++ [c]) rest (.text (.ofList (before ++ [c]))) :=
  reads_pattern hm rfl (reads_concat (readsRow_cons
    (reads_blanks hb (by rintro _ ⟨⟩; exact hc)) (readsRow_singleton (reads_chars (contains_self c)))))

end Between

end Notation
end DataGrammar
