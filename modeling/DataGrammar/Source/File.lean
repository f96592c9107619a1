import DataGrammar.Source.Loading
/-!
# Grammar files

A directory is seen as the files in it. `Directory.read` reads a text by its path, and
`Directory.grammar` loads a grammar, in the format that its path tells.
-/

namespace DataGrammar

/-- Why a file cannot be read as text. -/
inductive FileFault where
  | notFound
  /-- Something before the end of a path is no directory. -/
  | notDirectory
  /-- The path leads to a directory. -/
  | isDirectory
  | nameTooLong
  /-- A path that holds NUL. -/
  | invalidName
  /-- The content is not UTF-8. -/
  | invalidText
  deriving DecidableEq, Repr

/-- The wording. -/
def FileFault.message : FileFault → String
  | .notFound => "No such file or directory (os error 2)"
  | .notDirectory => "Not a directory (os error 20)"
  | .isDirectory => "Is a directory (os error 21)"
  | .nameTooLong => "File name too long (os error 36)"
  | .invalidName => "file name contained an unexpected NUL byte"
  | .invalidText => "stream did not contain valid UTF-8"

/-- The diagnostic of a file that cannot be read. -/
def FileFault.diagnostic (f : FileFault) (path : String) : Diagnostic :=
  Diagnostic.ofCause (.io path f.message)

/-- The text of which bytes are the UTF-8 form. -/
def decodeText (bytes : ByteArray) : Except FileFault String :=
  match String.fromUTF8? bytes with
  | some text => .ok text
  | none => .error .invalidText

/-- The files in a directory by their paths from it, and no directories but those that lead to
them. -/
structure Directory where
  files : List (String × ByteArray)

/-- The parts of a path; empty parts and dots lead nowhere. -/
def pathParts (path : String) : List (List Char) :=
  (splitAt '/' path.toList).filter fun part => part ≠ [] ∧ part ≠ ['.']

namespace Directory

/-- The file at a place. -/
def find? (d : Directory) (place : List (List Char)) : Option ByteArray :=
  (d.files.find? fun f => pathParts f.1 = place).map Prod.snd

/-- There is a directory at a place, since some file lies below it. -/
def leadsOn (d : Directory) (place : List (List Char)) : Bool :=
  d.files.any fun f => place.isPrefixOf (pathParts f.1)

/-- What is found outside the directory: nothing but the directories around it. -/
def outside (path : List (List Char)) : FileFault :=
  if path.all fun p => p = [] ∨ p = ['.'] ∨ p = ['.', '.'] then .isDirectory else .notFound

/-- Follow a path from a place. -/
def follow (d : Directory) : (place path : List (List Char)) → Except FileFault ByteArray
  | _, [] => .error .isDirectory
  | place, part :: rest =>
    if part = [] ∨ part = ['.'] then d.follow place rest
    else if part = ['.', '.'] then
      if place = [] then .error (outside rest) else d.follow place.dropLast rest
    else if 255 < utf8Length part then .error .nameTooLong
    else
      let place := place ++ [part]
      match d.find? place with
      | some bytes => if rest = [] then .ok bytes else .error .notDirectory
      | none => if d.leadsOn place then d.follow place rest else .error .notFound

/-- The bytes of the file at a path. -/
def bytes (d : Directory) (path : String) : Except FileFault ByteArray :=
  if path.toList.contains '\x00' then .error .invalidName
  else if path = "" then .error .notFound
  else if 4096 ≤ path.utf8ByteSize then .error .nameTooLong
  else
    match splitAt '/' path.toList with
    | [] :: rest => .error (outside rest)
    | parts => d.follow [] parts

/-- The text of the file at a path. -/
def read (d : Directory) (path : String) : Except FileFault String := do
  decodeText (← d.bytes path)

end Directory

/-- The rules of the grammar in a file, given what reading the file gave. -/
def GrammarFormat.ofFile (path : String) (content : Except FileFault String) :
    Except Diagnostic Definitions :=
  match content with
  | .ok text => (GrammarFormat.ofPath path).definitions path text
  | .error f => .error (f.diagnostic path)

/-- Load the grammar in a file. -/
def Directory.grammar (d : Directory) (path : String) : Except Diagnostic Definitions :=
  GrammarFormat.ofFile path (d.read path)

/-- Load and compile the grammar in a file. -/
def Directory.parser (d : Directory) (path : String) : Except Diagnostic Parser := do
  Parser.compile (← d.grammar path) defaultMaxDepth

end DataGrammar
