import DataGrammar.Text.Hexadecimal
import DataGrammar.Yaml.Scan
import DataGrammar.Yaml.Token
/-!
# Anchors, tags and directives

The names that nodes and documents bear. Tags are bytes: an escape of a percent sign and two
hexadecimal digits stands for any byte, as long as the bytes look like UTF-8.
-/

namespace DataGrammar.Yaml.Scan

/-- Read a name. -/
def readName : Scan (List Char) := do
  let name ← takeWhile isNameChar
  guard (!name.isEmpty)
  return name

/-- Read the name of an anchor, after its mark, which is next. -/
def readAnchor : Scan (List Char) := do
  pass 1
  let name ← readName
  guard ((← next?).all fun c => isGap c || ['?', ':', ',', ']', '}', '%', '@', '\x60'].contains c)
  return name

/-- Read the bytes of one character written as escapes; `count` of them follow a first one. -/
def readTrailing : (count : Nat) → Scan (List UInt8)
  | 0 => return []
  | count + 1 => do
    let byte ← readByte
    guard (byte &&& 0xc0 == 0x80)
    return byte :: (← readTrailing count)
where
  /-- Read the byte of an escape. -/
  readByte : Scan UInt8 := do
    expect '%'
    let digits := (← ahead).take 2
    guard (digits.length = 2)
    let n ← hexValue? digits
    pass 2
    return .ofNat n

/-- Read one character written as escapes. -/
def readEscapes : Scan (List UInt8) := do
  let first ← readTrailing.readByte
  if first &&& 0x80 == 0 then return [first]
  else if first &&& 0xe0 == 0xc0 then return first :: (← readTrailing 1)
  else if first &&& 0xf0 == 0xe0 then return first :: (← readTrailing 2)
  else if first &&& 0xf8 == 0xf0 then return first :: (← readTrailing 3)
  else failure

/-- Read the bytes of a tag, of which `p` tells the characters. -/
def readTagBytes (p : Char → Bool) : (fuel : Nat) → Scan (List UInt8)
  | 0 => failure
  | fuel + 1 => do
    match (← next?).filter p with
    | none => return []
    | some '%' => do
      let bytes ← readEscapes
      return bytes ++ (← readTagBytes p fuel)
    | some c => do
      pass 1
      return c.toUInt8 :: (← readTagBytes p fuel)

/-- Read a tag, or the rest of one that starts with `start`; of the two together something must
be there. A zero byte ends the tag. -/
def readTagText (p : Char → Bool) (start : List Char) : Scan (List UInt8) := do
  let before := (← ahead).length
  let bytes ← readTagBytes p (before + 1)
  guard (!start.isEmpty || (← ahead).length < before)
  return ((start.drop 1).map Char.toUInt8 ++ bytes).takeWhile (· ≠ 0)

/-- Read a handle: an exclamation mark, a name and another mark, of which the last two may be
missing. -/
def readHandle : Scan (List Char) := do
  expect '!'
  let name ← takeWhile isNameChar
  if (← next?) = some '!' then
    pass 1
    return '!' :: name ++ ['!']
  else return '!' :: name

/-- A handle has both its marks. -/
def isClosed (handle : List Char) : Bool := 1 < handle.length && handle.getLast? == some '!'

/-- Read a tag, whose mark is next. A mark that stands alone is a tag of its own. -/
def readTag (inFlow : Bool) : Scan TagToken := do
  let tag ←
    if (← ahead)[1]? = some '<' then
      pass 2
      let bytes ← readTagText isAddressChar []
      expect '>'
      pure ⟨[], bytes⟩
    else
      let handle ← readHandle
      if isClosed handle then pure ⟨handle, ← readTagText isTagChar []⟩
      else
        match ← readTagText isTagChar handle with
        | [] => pure ⟨[], ['!'.toUInt8]⟩
        | bytes => pure ⟨['!'], bytes⟩
  guard ((← next?).all fun c => isGap c || (inFlow && c == ','))
  return tag

/-- Read one of the two numbers of a version. -/
def readVersionNumber : Scan Nat := do
  let digits ← takeWhile Char.isDigit
  guard (0 < digits.length && digits.length ≤ 9)
  return digits.foldl (fun n c => n * 10 + (c.toNat - 0x30)) 0

/-- Read a directive, whose mark is next, with the rest of its line. -/
def readDirective : Scan Directive := do
  pass 1
  let name ← readName
  guard (atGap (← ahead))
  let _ ← takeWhile isBlank
  let d ←
    if name = ['Y', 'A', 'M', 'L'] then
      let major ← readVersionNumber
      expect '.'
      pure (.version major (← readVersionNumber))
    else if name = ['T', 'A', 'G'] then
      let handle ← readHandle
      guard (isClosed handle || handle = ['!'])
      guard ((← next?).any isBlank)
      let _ ← takeWhile isBlank
      let beginning ← readTagText isAddressChar []
      guard (atGap (← ahead))
      pure (.handle handle beginning)
    else failure
  endLine
  return d

end DataGrammar.Yaml.Scan
