import DataGrammar.Unicode.Class
/-!
# Trimming

`trim` removes the white space at both ends of a text.
-/

namespace DataGrammar

/-- Remove the white space at the start of a text. -/
def trimStart (chars : List Char) : List Char := chars.dropWhile Unicode.space.contains

/-- Remove the white space at the end of a text. -/
def trimEnd (chars : List Char) : List Char := (trimStart chars.reverse).reverse

/-- Remove the white space at both ends of a text. -/
def trim (text : String) : String := .ofList (trimEnd (trimStart text.toList))

end DataGrammar
