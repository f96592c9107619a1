import DataGrammar.Text.Hexadecimal
import DataGrammar.Yaml.Folding
/-!
# Quoted scalars

Between single quotes the only escape is a quote written twice. Between double quotes a backslash
starts an escape; before a line break it stands for nothing and joins the lines.
-/

namespace DataGrammar.Yaml.Scan

/-- The character that a letter stands for after a backslash. -/
def escape? : Char → Option Char
  | '0' => some '\x00'
  | 'a' => some '\x07'
  | 'b' => some '\x08'
  | 't' | '\t' => some '\t'
  | 'n' => some '\n'
  | 'v' => some '\x0b'
  | 'f' => some '\x0c'
  | 'r' => some '\r'
  | 'e' => some '\x1b'
  | ' ' => some ' '
  | '"' => some '"'
  | '/' => some '/'
  | '\\' => some '\\'
  | 'N' => some '\x85'
  | '_' => some '\xa0'
  | 'L' => some '\u2028'
  | 'P' => some '\u2029'
  | _ => none

/-- How many hexadecimal digits follow a letter after a backslash. -/
def escapeDigits? : Char → Option Nat
  | 'x' => some 2
  | 'u' => some 4
  | 'U' => some 8
  | _ => none

/-- Read an escape, whose backslash is next. -/
def readEscape : Scan Char := do
  pass 1
  let letter ← (← next?)
  pass 1
  match escapeDigits? letter with
  | none => escape? letter
  | some count => do
    let digits := (← ahead).take count
    guard (digits.length = count)
    pass count
    (hexValue? digits).bind charOfCode?

/-- Read a quoted scalar up to its closing quote. -/
def readQuoted (quote : Char) : (fuel : Nat) → Scan (List Char)
  | 0 => failure
  | fuel + 1 => do
    guard (!(← get).atAnyMarker)
    match ← ahead with
    | [] => failure
    | c :: rest =>
      if c = quote then
        pass 1
        if quote = '\'' && rest.head? = some quote then
          pass 1
          return c :: (← readQuoted quote fuel)
        else return []
      else if quote = '"' && c = '\\' then
        if rest.head?.any isBreak then
          pass 1
          passBreak
          let breaks ← readMoreBreaks 0
          return breaks ++ (← readQuoted quote fuel)
        else
          let c ← readEscape
          return c :: (← readQuoted quote fuel)
      else if isGap c then
        let gap ← readGap 0
        return gap.fold ++ (← readQuoted quote fuel)
      else
        pass 1
        return c :: (← readQuoted quote fuel)

/-- Read a quoted scalar, whose opening quote is next. -/
def readQuotedScalar (quote : Char) : Scan (List Char) := do
  pass 1
  readQuoted quote ((← ahead).length + 1)

end DataGrammar.Yaml.Scan
