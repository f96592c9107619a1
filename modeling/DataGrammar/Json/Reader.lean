import DataGrammar.Json.Numeral
import DataGrammar.Text.Hexadecimal
/-!
# Reading JSON

`Json.ofText` reads a text that holds one value and blanks. The reader passes over the text once,
and the first fault on the way is the one that is reported.
-/

namespace DataGrammar.Json

open Read

/-- Read the four bytes of a hexadecimal escape. -/
def readHex : Read Nat := do
  let digits := (← ahead).take 4
  if utf8Length digits < 4 then failAt .endInText ((← offset) + utf8Length digits)
  else
    match hexValue? digits with
    | some n => do pass 4; return n
    | none => failAt .invalidEscape ((← offset) + 4)

/-- Whether a code is the first one of a pair of surrogates. -/
def isLeading (code : Nat) : Bool := 0xD800 ≤ code && code ≤ 0xDBFF

/-- Whether a code is the second one of a pair of surrogates. -/
def isTrailing (code : Nat) : Bool := 0xDC00 ≤ code && code ≤ 0xDFFF

/-- Pass a character that must come next between the two escapes of a pair. -/
def expectInPair (c : Char) : Read Unit := do
  match ← next? with
  | none => fail .endInText
  | some d => if d = c then pass 1 else failAt .missingSurrogate ((← offset) + 1)

/-- Read the digits of an escape, and the escape after it if it takes two. -/
def readCode : Read Char := do
  let code ← readHex
  if isTrailing code then fail .loneSurrogate
  else if isLeading code then do
    expectInPair '\\'
    expectInPair 'u'
    let second ← readHex
    if isTrailing second then
      return .ofNat ((code - 0xD800) * 0x400 + (second - 0xDC00) + 0x10000)
    else fail .loneSurrogate
  else return .ofNat code

/-- Read what follows a backslash. -/
def readEscape : Read Char := do
  match ← next? with
  | none => fail .endInText
  | some '"' => do pass 1; return '"'
  | some '\\' => do pass 1; return '\\'
  | some '/' => do pass 1; return '/'
  | some 'b' => do pass 1; return '\x08'
  | some 'f' => do pass 1; return '\x0c'
  | some 'n' => do pass 1; return '\n'
  | some 'r' => do pass 1; return '\r'
  | some 't' => do pass 1; return '\t'
  | some 'u' => do pass 1; readCode
  | some _ => failAt .invalidEscape ((← offset) + 1)

/-- Read the characters of a string up to its closing quote; `fuel` exceeds what is left of the
text. -/
def readChars : (fuel : Nat) → Read (List Char)
  | 0 => fail .endInText
  | fuel + 1 => do
    match ← next? with
    | none => fail .endInText
    | some '"' => do pass 1; return []
    | some '\\' => do
      pass 1
      let c ← readEscape
      return c :: (← readChars fuel)
    | some c =>
      if c.toNat < 0x20 then failAt .controlCharacter ((← offset) + 1)
      else do
        pass 1
        return c :: (← readChars fuel)

/-- Read a string, whose opening quote is next. -/
def readString : Read String := do
  pass 1
  return .ofList (← readChars ((← ahead).length + 1))

/-- Pass the rest of a word. -/
def expectWord : List Char → Read Unit
  | [] => return ()
  | c :: rest => do
    match ← next? with
    | none => fail .endInValue
    | some d =>
      if d = c then do pass 1; expectWord rest
      else failAt .expectedWord ((← offset) + 1)

/-- Whether another item of an array comes, after one has come already or not. -/
def anotherItem (first : Bool) : Read Bool := do
  match ← token? with
  | none => failNext .endInArray
  | some ']' => return false
  | some c =>
    if first then return true
    else if c = ',' then do
      pass 1
      match ← token? with
      | none => failNext .endInValue
      | some ']' => failNext .trailingComma
      | some _ => return true
    else failNext .expectedCommaOrBracket

/-- Whether another key of an object comes, after one has come already or not. -/
def anotherKey (first : Bool) : Read Bool := do
  match ← token? with
  | none => failNext .endInObject
  | some '}' => return false
  | some c =>
    if first then
      if c = '"' then return true else failNext .keyWithoutQuotes
    else if c = ',' then do
      pass 1
      match ← token? with
      | none => failNext .endInValue
      | some '"' => return true
      | some '}' => failNext .trailingComma
      | some _ => failNext .keyWithoutQuotes
    else failNext .expectedCommaOrBrace

/-- Pass the colon after a key. -/
def expectColon : Read Unit := do
  match ← token? with
  | none => failNext .endInObject
  | some ':' => pass 1
  | some _ => failNext .expectedColon

/-- Read the items of an array up to its closing bracket; `fuel` exceeds what is left of the
text. -/
def readItems {α : Type} (item : Read α) : (fuel : Nat) → (first : Bool) → Read (List α)
  | 0, _ => failNext .endInArray
  | fuel + 1, first => do
    if ← anotherItem first then
      let a ← item
      return a :: (← readItems item fuel false)
    else return []

/-- Read the entries of an object up to its closing brace; `fuel` exceeds what is left of the
text. -/
def readEntries {α : Type} (value : Read α) :
    (fuel : Nat) → (first : Bool) → Read (List (String × α))
  | 0, _ => failNext .endInObject
  | fuel + 1, first => do
    if ← anotherKey first then
      let key ← readString
      expectColon
      let a ← value
      return (key, a) :: (← readEntries value fuel false)
    else return []

/-- Read a value in which arrays and objects nest at most `depth` deep. -/
def readValue (depth : Nat) : Read Json := do
  match ← token? with
  | none => failNext .endInValue
  | some 'n' => do
    pass 1
    expectWord ['u', 'l', 'l']
    return .null
  | some 't' => do
    pass 1
    expectWord ['r', 'u', 'e']
    return .boolean true
  | some 'f' => do
    pass 1
    expectWord ['a', 'l', 's', 'e']
    return .boolean false
  | some '-' => do
    pass 1
    Numeral.read true
  | some '"' => return .text (← readString)
  | some '[' =>
    match depth with
    | 0 => failNext .tooDeep
    | depth + 1 => do
      pass 1
      let items ← readItems (readValue depth) ((← ahead).length + 1) true
      pass 1
      return .array items
  | some '{' =>
    match depth with
    | 0 => failNext .tooDeep
    | depth + 1 => do
      pass 1
      let entries ← readEntries (readValue depth) ((← ahead).length + 1) true
      pass 1
      return .object entries
  | some c => if c.isDigit then Numeral.read false else failNext .expectedValue

/-- Only blanks may follow. -/
def expectEnd : Read Unit := do
  if (← token?).isSome then failNext .trailingCharacters

/-- How deep arrays and objects may nest. -/
def maxDepth : Nat := 127

/-- Read a text that holds one value. -/
def ofText (text : String) : Except Error Json :=
  (do
    let v ← readValue maxDepth
    expectEnd
    return v : Read Json).run' (.start text)

end DataGrammar.Json
