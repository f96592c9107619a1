/-!
# Characters of YAML

Which characters a stream may hold and what they are there. The line breaks of a stream are made
alike before it is read, so of the breaks only the line feed and the two separators of Unicode are
left.
-/

namespace DataGrammar.Yaml

/-- A stream may hold this character. -/
def isAllowed (c : Char) : Bool :=
  c == '\t' || c == '\n' || c == '\r' || c == '\x85' || (' ' ≤ c && c ≤ '~') ||
    ('\xa0' ≤ c && c ≤ '\ufffd') || 0xffff < c.toNat

/-- Write the line breaks of ASCII, and the next line character, as line feeds. -/
def unifyBreaks : List Char → List Char
  | '\r' :: '\n' :: rest => '\n' :: unifyBreaks rest
  | c :: rest => (if c = '\r' ∨ c = '\x85' then '\n' else c) :: unifyBreaks rest
  | [] => []

/-- A space or a tab. -/
def isBlank (c : Char) : Bool := c == ' ' || c == '\t'

/-- A line break. -/
def isBreak (c : Char) : Bool := c == '\n' || c == '\u2028' || c == '\u2029'

/-- A blank or a line break. -/
def isGap (c : Char) : Bool := isBlank c || isBreak c

/-- A gap or the end of the stream is next. -/
def atGap (ahead : List Char) : Bool := ahead.head?.all isGap

/-- A line break or the end of the stream is next. -/
def atLineEnd (ahead : List Char) : Bool := ahead.head?.all isBreak

/-- A character of the names of anchors, tag handles and directives. -/
def isNameChar (c : Char) : Bool := c.isAlphanum || c == '_' || c == '-'

/-- A character that ends a plain scalar in a flow collection. -/
def isFlowIndicator (c : Char) : Bool :=
  c == ',' || c == '[' || c == ']' || c == '{' || c == '}'

/-- An ASCII character of a tag that is no flow indicator. -/
def isTagChar (c : Char) : Bool :=
  isNameChar c || [';', '/', '?', ':', '@', '&', '=', '+', '$', '.', '%', '!', '~', '*', '\'', '(',
    ')'].contains c

/-- A character of a tag between angle brackets or of the beginning of tags. -/
def isAddressChar (c : Char) : Bool := isTagChar c || c == ',' || c == '[' || c == ']'

/-- A plain scalar does not start with this character, unless it is one of three that are followed
by something. -/
def isIndicator (c : Char) : Bool :=
  isFlowIndicator c || ['-', '?', ':', '#', '&', '*', '!', '|', '>', '\'', '"', '%', '@',
    '\x60'].contains c

end DataGrammar.Yaml
