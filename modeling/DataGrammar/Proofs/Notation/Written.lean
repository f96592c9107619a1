import DataGrammar.Notation.Reading
import DataGrammar.Proofs.Text.Listed
import Mathlib.Tactic.Common

/-!
# Texts of literals

How a literal may be written. Quotes are of either kind, and a character in them stands for itself
or is escaped. Names and words may be bare where they are identifiers. There may be blanks around
commas and colons and inside of brackets, and a comma after the last entry.

* `Quoted`, `Slashed`: texts in quotes and patterns between slashes.
* `Literal.Written l text`: the text is one of a literal.
* `unescape_of_quoted`, `unslash_of_slashed`: reading such texts gives back what was written.
* `Literal.references`: how many references are active at once while a literal is read.
-/

namespace DataGrammar.Notation

/-! ### Characters -/

/-- The letters of escapes, with what they stand for. -/
def escapes : List (Char × Char) :=
  [('n', '\n'), ('t', '\t'), ('r', '\r'), ('\\', '\\'), ('"', '"'), ('\'', '\''), ('/', '/')]

/-- The characters between two quotes and what they stand for. A character is written as it is,
unless it is a backslash or the quote, or as an escape. -/
inductive QuotedBody (quote : Char) : (content body : List Char) → Prop
  | nil : QuotedBody quote [] []
  | plain {c : Char} {content body : List Char} (hq : c ≠ quote) (hb : c ≠ '\\')
    (h : QuotedBody quote content body) : QuotedBody quote (c :: content) (c :: body)
  | escape {letter c : Char} {content body : List Char} (he : (letter, c) ∈ escapes)
    (h : QuotedBody quote content body) :
    QuotedBody quote (c :: content) ('\\' :: letter :: body)

/-- A text in quotes. -/
def Quoted (content text : List Char) : Prop :=
  ∃ quote body, (quote = '"' ∨ quote = '\'') ∧ QuotedBody quote content body ∧
    text = quote :: body ++ [quote]

/-- The characters between two slashes and the pattern they stand for, which consists of plain
characters and pairs of a backslash and a character. A slash has a backslash before it; so no pair
of the pattern is a backslash and a slash, and none is a backslash and a line feed. -/
inductive Slashed : (pattern body : List Char) → Prop
  | nil : Slashed [] []
  | plain {c : Char} {pattern body : List Char} (hs : c ≠ '/') (hb : c ≠ '\\')
    (h : Slashed pattern body) : Slashed (c :: pattern) (c :: body)
  | slash {pattern body : List Char} (h : Slashed pattern body) :
    Slashed ('/' :: pattern) ('\\' :: '/' :: body)
  | pair {c : Char} {pattern body : List Char} (hs : c ≠ '/') (hn : c ≠ '\n')
    (h : Slashed pattern body) : Slashed ('\\' :: c :: pattern) ('\\' :: c :: body)

/-- A letter or an underscore, followed by letters, digits and underscores. -/
def isIdentifier : List Char → Bool
  | [] => false
  | c :: cs => (c.isAlpha || c = '_') && cs.all Unicode.isAsciiWord

/-- The identifiers that mean something else as a value. -/
def reserved : List String := ["true", "false", "null", "undefined"]

/-- A name: an identifier or a text in quotes. -/
def NameWritten (name : String) (text : List Char) : Prop :=
  (isIdentifier name.toList = true ∧ text = name.toList) ∨ Quoted name.toList text

/-! ### Literals -/

namespace Literal

mutual

/-- The text is one of the literal. Of numbers these are digits. -/
def Written : Literal → List Char → Prop
  | .string content, text => Quoted content.toList text
  | .regex body, text =>
    (∃ pattern, Slashed pattern body.toList) ∧ text = '/' :: body.toList ++ ['/']
  | .number spelling, text =>
    spelling ≠ "" ∧ (∀ c ∈ spelling.toList, c.isDigit = true) ∧ text = spelling.toList
  | .boolean spelling, text => spelling ∈ ["true", "false"] ∧ text = spelling.toList
  | .null spelling, text => spelling ∈ ["null", "undefined"] ∧ text = spelling.toList
  | .word content, text =>
    isIdentifier content.toList = true ∧ content ∉ reserved ∧ text = content.toList
  | .object properties, text =>
    Bracketed Unicode.space.contains true '{' '}' (writtenProperties properties) text
  | .array items, text => Bracketed Unicode.space.contains true '[' ']' (writtenItems items) text

/-- The texts of items. -/
def writtenItems : List Literal → List (List Char → Prop)
  | [] => []
  | literal :: rest => literal.Written :: writtenItems rest

/-- The texts of properties. -/
def writtenProperties : List (String × Literal) → List (List Char → Prop)
  | [] => []
  | (name, literal) :: rest =>
    Paired Unicode.space.contains (NameWritten name) literal.Written :: writtenProperties rest

end

mutual

/-- How many references are active at once while a literal is read. -/
def references : Literal → Nat
  | .object properties => propertiesReferences properties + 4
  | .array items => itemsReferences items + 3
  | _ => 3

/-- The most of what items take, or what the look for another one takes. -/
def itemsReferences : List Literal → Nat
  | [] => 3
  | literal :: rest => max literal.references (itemsReferences rest)

/-- The most of what the values of properties take, or what the look for another name takes. -/
def propertiesReferences : List (String × Literal) → Nat
  | [] => 3
  | (_, literal) :: rest => max literal.references (propertiesReferences rest)

end

end Literal

/-! ### What the texts stand for -/

theorem unescape_escape {letter c : Char} (h : (letter, c) ∈ escapes) (rest : List Char) :
    unescape ('\\' :: letter :: rest) = c :: unescape rest := by
  simp only [escapes, List.mem_cons, Prod.mk.injEq, List.not_mem_nil, or_false] at h
  rcases h with ⟨rfl, rfl⟩ | ⟨rfl, rfl⟩ | ⟨rfl, rfl⟩ | ⟨rfl, rfl⟩ | ⟨rfl, rfl⟩ | ⟨rfl, rfl⟩ | ⟨rfl, rfl⟩
  all_goals rfl

theorem unescape_plain {c : Char} (h : c ≠ '\\') (rest : List Char) :
    unescape (c :: rest) = c :: unescape rest := by
  conv_lhs => unfold unescape
  split <;> simp_all

/-- **What is in quotes is read back.** -/
theorem unescape_of_quoted {quote : Char} {content body : List Char}
    (h : QuotedBody quote content body) : unescape body = content := by
  induction h with
  | nil => rfl
  | plain _ hb _ ih => rw [unescape_plain hb, ih]
  | escape he _ ih => rw [unescape_escape he, ih]

theorem unslash_plain {c : Char} {rest : List Char} (h : c = '\\' → rest.head? ≠ some '/') :
    Description.unslash (c :: rest) = c :: Description.unslash rest := by
  conv_lhs => unfold Description.unslash
  split <;> simp_all

theorem Slashed.head?_ne {pattern body : List Char} (h : Slashed pattern body) :
    body.head? ≠ some '/' := by
  cases h <;> simp_all

/-- **What is between slashes is read back.** -/
theorem unslash_of_slashed {pattern body : List Char} (h : Slashed pattern body) :
    Description.unslash body = pattern := by
  induction h with
  | nil => rfl
  | plain _ hb _ ih => rw [unslash_plain (fun h => absurd h hb), ih]
  | slash _ ih => exact congrArg _ ih
  | pair hs _ h ih =>
    rw [unslash_plain (by simpa using hs), unslash_plain (fun _ => h.head?_ne), ih]

theorem unescape_of_forall {text : List Char} (h : ∀ c ∈ text, c ≠ '\\') : unescape text = text := by
  induction text with
  | nil => rfl
  | cons c rest ih =>
    obtain ⟨hc, hr⟩ := List.forall_mem_cons.1 h
    rw [unescape_plain hc, ih hr]

theorem isIdentifier_ne_backslash {text : List Char} (h : isIdentifier text = true) :
    ∀ c ∈ text, c ≠ '\\' := by
  cases text with
  | nil => simp
  | cons c cs =>
    simp only [isIdentifier, Bool.and_eq_true, List.all_eq_true] at h
    rintro d hd rfl
    rcases List.mem_cons.1 hd with rfl | hd
    · exact absurd h.1 (by decide)
    · exact absurd (h.2 _ hd) (by decide)

end DataGrammar.Notation
