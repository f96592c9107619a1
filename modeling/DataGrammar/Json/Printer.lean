import DataGrammar.Json.Tree
import DataGrammar.Number.Shortest
/-!
# Writing JSON

`Json.compact` writes a value without blanks, and `Json.pretty` writes one item or entry per line,
indented by two blanks for each array and object around it.
-/

namespace DataGrammar.Json

/-- The escape of a control character by its code. -/
def codeEscape (c : Char) : List Char :=
  let digits := Nat.toDigits 16 c.toNat
  ['\\', 'u'] ++ List.replicate (4 - digits.length) '0' ++ digits

/-- A character of a string. Quotes, backslashes and control characters are escaped. -/
def escape (c : Char) : List Char :=
  match c with
  | '"' => ['\\', '"']
  | '\\' => ['\\', '\\']
  | '\x08' => ['\\', 'b']
  | '\x0c' => ['\\', 'f']
  | '\n' => ['\\', 'n']
  | '\r' => ['\\', 'r']
  | '\t' => ['\\', 't']
  | c => if c.toNat < 0x20 then codeEscape c else [c]

/-- A string in quotes. -/
def string (s : String) : List Char := '"' :: s.toList.flatMap escape ++ ['"']

/-- A scalar; nothing for arrays and objects. -/
def scalar : Json → List Char
  | .null => ['n', 'u', 'l', 'l']
  | .boolean b => (if b then "true" else "false").toList
  | .integer n => (toString n).toList
  | .float negative m =>
    match m with
    | .finite .. => (Binary.double.compact negative m).toList
    | _ => ['n', 'u', 'l', 'l']
  | .text s => string s
  | .array _ | .object _ => []

mutual

/-- The characters of a value without blanks. -/
def compactChars : Json → List Char
  | .array items => '[' :: compactItems items
  | .object entries => '{' :: compactEntries entries
  | j => scalar j

/-- The items of an array and its closing bracket. -/
def compactItems : List Json → List Char
  | [] => [']']
  | [j] => compactChars j ++ [']']
  | j :: rest => compactChars j ++ ',' :: compactItems rest

/-- The entries of an object and its closing brace. -/
def compactEntries : List (String × Json) → List Char
  | [] => ['}']
  | [(key, j)] => string key ++ ':' :: compactChars j ++ ['}']
  | (key, j) :: rest => string key ++ ':' :: compactChars j ++ ',' :: compactEntries rest

end

/-- A value without blanks. -/
def compact (j : Json) : String := .ofList j.compactChars

/-- A line feed and the blanks of a depth. -/
def newline (depth : Nat) : List Char := '\n' :: List.replicate (2 * depth) ' '

mutual

/-- The characters of a value at a depth, line by line. -/
def prettyChars (depth : Nat) : Json → List Char
  | .array [] => ['[', ']']
  | .object [] => ['{', '}']
  | .array (j :: rest) => '[' :: prettyItems depth (j :: rest)
  | .object (e :: rest) => '{' :: prettyEntries depth (e :: rest)
  | j => scalar j

/-- The items of an array and its closing bracket. -/
def prettyItems (depth : Nat) : List Json → List Char
  | [] => newline depth ++ [']']
  | [j] => newline (depth + 1) ++ prettyChars (depth + 1) j ++ newline depth ++ [']']
  | j :: rest => newline (depth + 1) ++ prettyChars (depth + 1) j ++ ',' :: prettyItems depth rest

/-- The entries of an object and its closing brace. -/
def prettyEntries (depth : Nat) : List (String × Json) → List Char
  | [] => newline depth ++ ['}']
  | [(key, j)] =>
    newline (depth + 1) ++ string key ++ ':' :: ' ' :: prettyChars (depth + 1) j ++
      newline depth ++ ['}']
  | (key, j) :: rest =>
    newline (depth + 1) ++ string key ++ ':' :: ' ' :: prettyChars (depth + 1) j ++
      ',' :: prettyEntries depth rest

end

/-- A value line by line. -/
def pretty (j : Json) : String := .ofList (j.prettyChars 0)

end DataGrammar.Json
