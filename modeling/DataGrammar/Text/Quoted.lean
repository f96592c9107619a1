import DataGrammar.Unicode.Property
/-!
# Quoted text

Messages show text between double quotes. Characters that cannot be seen are escaped there, and so
are quotes, backslashes and characters that would join the one before them.
-/

namespace DataGrammar.Quoted

/-- The characters that leave a mark of their own: all but controls, format characters, unassigned
ones, and blanks other than the space. -/
def printable : CharSet :=
  let seen := Unicode.Category.letters ++ Unicode.Category.marks ++ Unicode.Category.numbers ++
    Unicode.Category.punctuation ++ Unicode.Category.symbols
  (Unicode.Category.union seen).union (.singleton ' ')

/-- The characters that stand for themselves, unless they have an escape of their own. -/
def plain : CharSet := printable.diff Unicode.Property.graphemeExtend.members

/-- A character between double quotes. -/
def character (c : Char) : List Char :=
  match c with
  | '\x00' => ['\\', '0']
  | '\t' => ['\\', 't']
  | '\r' => ['\\', 'r']
  | '\n' => ['\\', 'n']
  | '\\' | '"' => ['\\', c]
  | c =>
    if plain.contains c then [c]
    else ['\\', 'u', '{'] ++ Nat.toDigits 16 c.toNat ++ ['}']

end DataGrammar.Quoted

namespace DataGrammar

/-- A text in double quotes. -/
def quoted (text : String) : String :=
  .ofList ('"' :: text.toList.flatMap Quoted.character ++ ['"'])

end DataGrammar
