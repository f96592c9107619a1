/-!
# Tokens of YAML

A stream is a list of tokens. Blocks have no brackets in the text, so their starts and ends are
tokens that stand for indentation, and so are the marks of keys that go without a question mark.
-/

namespace DataGrammar.Yaml

/-- How a scalar is written. -/
inductive ScalarStyle where
  | plain
  /-- Between quotes or as a block. -/
  | marked
  deriving DecidableEq, Repr

/-- A tag as it is written: the handle that stands for the beginning of tags, and the bytes after
it. A tag in angle brackets has no handle. -/
structure TagToken where
  handle : List Char
  suffix : List UInt8
  deriving DecidableEq, Repr

/-- A directive, which concerns the next document. -/
inductive Directive where
  | version (major minor : Nat)
  /-- A handle stands for the beginning of tags. -/
  | handle (name : List Char) (beginning : List UInt8)
  deriving DecidableEq, Repr

/-- A token. -/
inductive Token where
  | directive (d : Directive)
  | documentStart
  | documentEnd
  | blockSequence
  | blockMapping
  /-- The end of a block. -/
  | blockEnd
  | flowSequence
  | flowSequenceEnd
  | flowMapping
  | flowMappingEnd
  /-- A hyphen. -/
  | item
  /-- A comma. -/
  | comma
  /-- A key follows. -/
  | key
  /-- A colon. -/
  | value
  /-- An alias: a node with this anchor stands here too. -/
  | reference (name : List Char)
  | anchor (name : List Char)
  | tag (t : TagToken)
  | scalar (style : ScalarStyle) (text : List Char)
  deriving DecidableEq, Repr

end DataGrammar.Yaml
