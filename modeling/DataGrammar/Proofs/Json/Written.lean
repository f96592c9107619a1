import DataGrammar.Json.Numeral
import DataGrammar.Number.Literal
import DataGrammar.Proofs.Text.Listed
import DataGrammar.Text.Hexadecimal

/-!
# Texts of JSON values

How a JSON value may be written. A character of a string stands for itself or is escaped by a
letter or by its code, which takes two escapes where it has more than 16 bits. There may be blanks
around commas and colons and inside of brackets, but no comma after the last entry.

* `TextWritten`: strings.
* `Json.Written j text`: the text is one of a value.
* `Json.depth`: how deep arrays and objects nest in a value.
-/

namespace DataGrammar.Json

/-! ### Characters -/

/-- The letters of escapes, with what they stand for. -/
def escapes : List (Char × Char) :=
  [('"', '"'), ('\\', '\\'), ('/', '/'), ('b', '\x08'), ('f', '\x0c'), ('n', '\n'), ('r', '\r'),
    ('t', '\t')]

/-- Four hexadecimal digits. -/
def Hex (code : Nat) (digits : List Char) : Prop :=
  digits.length = 4 ∧ hexValue? digits = some code

/-- The first one of the two codes of a character. -/
def leading (c : Char) : Nat := 0xD800 + (c.toNat - 0x10000) / 0x400

/-- The second one of the two codes of a character. -/
def trailing (c : Char) : Nat := 0xDC00 + (c.toNat - 0x10000) % 0x400

/-- The characters of a string and what they stand for. -/
inductive TextBody : (content body : List Char) → Prop
  | nil : TextBody [] []
  | plain {c : Char} {content body : List Char} (hq : c ≠ '"') (hb : c ≠ '\\')
    (hc : 0x20 ≤ c.toNat) (h : TextBody content body) : TextBody (c :: content) (c :: body)
  | escape {letter c : Char} {content body : List Char} (he : (letter, c) ∈ escapes)
    (h : TextBody content body) : TextBody (c :: content) ('\\' :: letter :: body)
  | code {c : Char} {content digits body : List Char} (hd : Hex c.toNat digits)
    (h : TextBody content body) : TextBody (c :: content) ('\\' :: 'u' :: (digits ++ body))
  | pair {c : Char} {content high low body : List Char} (hc : 0x10000 ≤ c.toNat)
    (hh : Hex (leading c) high) (hl : Hex (trailing c) low) (h : TextBody content body) :
    TextBody (c :: content) ('\\' :: 'u' :: (high ++ '\\' :: 'u' :: (low ++ body)))

/-- A string. -/
def TextWritten (content : String) (text : List Char) : Prop :=
  ∃ body, TextBody content.toList body ∧ text = '"' :: (body ++ ['"'])

/-- A whole number in decimal digits. No zero stands before another digit. -/
def Whole (n : Nat) (text : List Char) : Prop :=
  text ≠ [] ∧ (∀ c ∈ text, c.isDigit = true) ∧ (text.head? = some '0' → text = ['0']) ∧
    Number.digitsValue text = n

/-! ### Values -/

mutual

/-- The text is one of the value. Of numbers these are whole ones without a sign. -/
def Written : Json → List Char → Prop
  | .null, chars => chars = ['n', 'u', 'l', 'l']
  | .boolean true, chars => chars = ['t', 'r', 'u', 'e']
  | .boolean false, chars => chars = ['f', 'a', 'l', 's', 'e']
  | .integer n, chars => ∃ m : Nat, n = m ∧ m ≤ Numeral.greatest ∧ Whole m chars
  | .float .., _ => False
  | .text content, chars => TextWritten content chars
  | .array items, chars => Bracketed Read.isBlank false '[' ']' (writtenItems items) chars
  | .object entries, chars => Bracketed Read.isBlank false '{' '}' (writtenEntries entries) chars

/-- The texts of items. -/
def writtenItems : List Json → List (List Char → Prop)
  | [] => []
  | j :: rest => j.Written :: writtenItems rest

/-- The texts of entries. -/
def writtenEntries : List (String × Json) → List (List Char → Prop)
  | [] => []
  | (key, j) :: rest =>
    Paired Read.isBlank (TextWritten key) j.Written :: writtenEntries rest

end

mutual

/-- How deep arrays and objects nest. -/
def depth : Json → Nat
  | .array items => itemsDepth items + 1
  | .object entries => entriesDepth entries + 1
  | _ => 0

/-- The most of what items take. -/
def itemsDepth : List Json → Nat
  | [] => 0
  | j :: rest => max j.depth (itemsDepth rest)

/-- The most of what the values of entries take. -/
def entriesDepth : List (String × Json) → Nat
  | [] => 0
  | (_, j) :: rest => max j.depth (entriesDepth rest)

end

end DataGrammar.Json
