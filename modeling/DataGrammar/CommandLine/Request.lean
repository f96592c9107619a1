import DataGrammar.Description
/-!
# Requests on the command line

`Request.ofArguments` reads the arguments of a command line. They are read from left to right: the
first one that makes no sense ends the reading, and so does one that asks for help or the version.
-/

namespace DataGrammar.CommandLine

/-- What a command does. -/
inductive Command where
  /-- Match a rule against an input. -/
  | parse
  /-- Compile a grammar and list its rules. -/
  | check
  deriving DecidableEq, Repr

/-- What help is about. -/
inductive Topic where
  | program
  | command (c : Command)
  /-- Help itself. -/
  | help
  deriving DecidableEq, Repr

/-- Where the input of a run comes from. -/
inductive InputSource where
  | text (content : String)
  | file (path : String)
  | standard
  deriving DecidableEq, Repr

/-- What a command line asks for. -/
inductive Request where
  | help (topic : Topic)
  | version
  | parse (grammar rule : String) (input : InputSource) (complete pretty : Bool)
  | check (grammar : String)
  deriving DecidableEq, Repr

/-- The form of an argument. -/
inductive Argument where
  /-- Two hyphens: no options follow. -/
  | escape
  /-- An option by its name, with a value attached or not. -/
  | long (name : String) (value : Option String)
  /-- Options of one letter each. -/
  | short (letters : List Char)
  | value (content : String)
  deriving DecidableEq, Repr

/-- Tell the form of an argument. -/
def Argument.ofText (text : String) : Argument :=
  match text.toList with
  | ['-', '-'] => .escape
  | '-' :: '-' :: rest =>
    let name := String.ofList (rest.takeWhile (· ≠ '='))
    match rest.dropWhile (· ≠ '=') with
    | [] => .long name none
    | _ :: attached => .long name (some (.ofList attached))
  | '-' :: letter :: rest => .short (letter :: rest)
  | _ => .value text

/-- What letters ask for. -/
inductive Letters where
  /-- Nothing but more messages. -/
  | verbose
  | help
  | version
  | invalid
  deriving DecidableEq, Repr

/-- Read letters from the left; only the program itself has a version. -/
def readLetters (hasVersion : Bool) : List Char → Letters
  | [] => .verbose
  | 'v' :: rest => readLetters hasVersion rest
  | 'h' :: _ => .help
  | 'V' :: _ => if hasVersion then .version else .invalid
  | _ :: _ => .invalid

/-- What has been read of the arguments of a command. -/
structure Reading where
  values : List String := []
  input : Option String := none
  file : Option String := none
  complete : Bool := false
  pretty : Bool := false

namespace Reading

/-- Add a value. The first one is the path of the grammar, which is not empty; `parse` takes the
rule after it. -/
def addValue? (c : Command) (r : Reading) (value : String) : Option Reading :=
  match c, r.values with
  | _, [] => if value = "" then none else some { r with values := [value] }
  | .parse, [grammar] => some { r with values := [grammar, value] }
  | _, _ => none

/-- Add values. -/
def addValues? (c : Command) : Reading → List String → Option Reading
  | r, [] => some r
  | r, value :: rest => (r.addValue? c value).bind fun r => addValues? c r rest

/-- Set a flag, which must not be set already. -/
def setFlag? (c : Command) (r : Reading) (name : String) : Option Reading :=
  match c, name with
  | _, "verbose" => some r
  | .parse, "complete" => if r.complete then none else some { r with complete := true }
  | .parse, "pretty" => if r.pretty then none else some { r with pretty := true }
  | _, _ => none

/-- Set an option with a value, which must not be set already. A path is not empty. -/
def setOption? (c : Command) (r : Reading) (name value : String) : Option Reading :=
  match c, name with
  | .parse, "input" => if r.input.isSome then none else some { r with input := some value }
  | .parse, "file" =>
    if r.file.isSome || value = "" then none else some { r with file := some value }
  | _, _ => none

/-- Whether an option of a command takes a value. -/
def takesValue (c : Command) (name : String) : Bool :=
  c = .parse && (name = "input" || name = "file")

/-- The request that arguments amount to: nothing may be missing, and there is one input. -/
def request? (c : Command) (r : Reading) : Option Request :=
  match c, r.values, r.input, r.file with
  | .check, [grammar], _, _ => some (.check grammar)
  | .parse, [grammar, rule], some text, none =>
    some (.parse grammar rule (.text text) r.complete r.pretty)
  | .parse, [grammar, rule], none, some path =>
    some (.parse grammar rule (.file path) r.complete r.pretty)
  | .parse, [grammar, rule], none, none =>
    some (.parse grammar rule .standard r.complete r.pretty)
  | _, _, _, _ => none

end Reading

/-- Read the arguments of a command. -/
def readCommand (c : Command) : List String → Reading → Option Request
  | [], r => r.request? c
  | argument :: rest, r =>
    match Argument.ofText argument with
    | .escape => (r.addValues? c rest).bind (Reading.request? c)
    | .value v => (r.addValue? c v).bind (readCommand c rest)
    | .short letters =>
      match readLetters false letters with
      | .verbose => readCommand c rest r
      | .help => some (.help (.command c))
      | .version | .invalid => none
    | .long name (some v) => (r.setOption? c name v).bind (readCommand c rest)
    | .long name none =>
      if name = "help" then some (.help (.command c))
      else if Reading.takesValue c name then
        match rest with
        | value :: rest =>
          match Argument.ofText value with
          | .value v => (r.setOption? c name v).bind (readCommand c rest)
          | _ => none
        | [] => none
      else (r.setFlag? c name).bind (readCommand c rest)

/-- The command of a name. -/
def Command.ofName? : String → Option Command
  | "parse" => some .parse
  | "check" => some .check
  | _ => none

/-- The topic of names after `help`. -/
def Topic.ofNames? : List String → Option Topic
  | [] => some .program
  | ["help"] => some .help
  | [name] => (Command.ofName? name).map .command
  | _ => none

/-- Read the arguments of a command line; nothing if they make no sense. -/
def Request.ofArguments : List String → Option Request
  | [] => none
  | argument :: rest =>
    match Argument.ofText argument with
    | .escape => none
    | .value "help" => (Topic.ofNames? rest).map .help
    | .value name => (Command.ofName? name).bind fun c => readCommand c rest {}
    | .short letters =>
      match readLetters true letters with
      | .verbose => Request.ofArguments rest
      | .help => some (.help .program)
      | .version => some .version
      | .invalid => none
    | .long "help" none => some (.help .program)
    | .long "version" none => some .version
    | .long "verbose" none => Request.ofArguments rest
    | .long _ _ => none

end DataGrammar.CommandLine
