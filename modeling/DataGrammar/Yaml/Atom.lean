import DataGrammar.Number.Literal
import DataGrammar.Text.Hexadecimal
import DataGrammar.Yaml.Node
/-!
# What scalars of YAML stand for

A plain scalar without a tag is null, a truth value or a number if it looks like one. A tag can ask
for one of these, and then the scalar must look like it. All other scalars are text.
-/

namespace DataGrammar.Yaml

/-- What a scalar stands for. -/
inductive Atom where
  | null
  | boolean (value : Bool)
  | integer (negative : Bool) (magnitude : Nat)
  | float (negative : Bool) (magnitude : Binary.Magnitude)
  | text (content : String)
  deriving Repr

namespace Atom

/-- The value of digits in a radix up to 16. -/
def digits? (radix : Nat) (digits : List Char) : Option Nat :=
  if digits.isEmpty then none
  else digits.foldlM (fun n c => ((hexDigit? c).filter (· < radix)).map (n * radix + ·)) 0

/-- There are several digits and the first is zero. -/
def hasLeadingZero (digits : List Char) : Bool :=
  1 < digits.length && digits.head? == some '0' && digits.all Char.isDigit

/-- A whole number without its sign. Decimal numbers have no leading zeros. -/
def magnitude? : List Char → Option Nat
  | '0' :: 'x' :: rest => digits? 16 rest
  | '0' :: 'o' :: rest => digits? 8 rest
  | '0' :: 'b' :: rest => digits? 2 rest
  | digits => if hasLeadingZero digits then none else digits? 10 digits

/-- A whole number of up to 128 bits. -/
def integer? (text : String) : Option Atom :=
  let (negative, rest) := Number.splitSign text.toList
  ((magnitude? rest).filter fun n => if negative then n ≤ Nat.pow 2 127 else n < Nat.pow 2 128).map
    (.integer negative ·)

/-- The names of a number that is not finite. -/
def nameOfSpecial? (text : String) : Option Atom :=
  if [".inf", ".Inf", ".INF", "+.inf", "+.Inf", "+.INF"].contains text then
    some (.float false .infinite)
  else if ["-.inf", "-.Inf", "-.INF"].contains text then some (.float true .infinite)
  else if [".nan", ".NaN", ".NAN"].contains text then some (.float false .nan)
  else none

/-- A floating point number; one that is too large to be finite does not count. -/
def float? (text : String) : Option Atom :=
  let (negative, rest) := Number.splitSign text.toList
  nameOfSpecial? text <|> (Number.decimal? rest).bind fun (digits, exponent) =>
    match Binary.double.roundDecimal digits exponent with
    | .infinite => none
    | m => some (.float negative m)

/-- A truth value. -/
def boolean? (text : String) : Option Atom :=
  if ["true", "True", "TRUE"].contains text then some (.boolean true)
  else if ["false", "False", "FALSE"].contains text then some (.boolean false)
  else none

/-- Null. -/
def null? (text : String) : Option Atom :=
  if ["null", "Null", "NULL", "~"].contains text then some .null else none

/-- What a plain scalar without a tag stands for. -/
def ofPlain (text : String) : Atom :=
  let leadingZero := hasLeadingZero (Number.splitSign text.toList).2
  let atom := null? text <|> boolean? text <|> integer? text <|>
    if leadingZero then none else float? text
  if text = "" then .null else atom.getD (.text text)

end Atom

namespace Tag

/-- A tag of the standard schema. -/
def standard (name : String) : Tag := ("tag:yaml.org,2002:" ++ name).toUTF8.toList

/-- A tag of an application: it starts with an exclamation mark. -/
def isLocal : Tag → Bool
  | first :: _ => first == '!'.toUInt8
  | [] => false

/-- A tag of an application that is proper text. Nothing that bears one can be read, since no
application is known here. -/
def isForeign : Tag → Bool
  | first :: rest => isLocal [first] && (String.fromUTF8? ⟨rest.toArray⟩).isSome
  | [] => false

end Tag

/-- What a scalar stands for, if it can be read. -/
def Atom.ofScalar? (tag : Option Tag) (style : ScalarStyle) (text : String) : Option Atom :=
  match tag with
  | none => some (if style = .plain then .ofPlain text else .text text)
  | some t =>
    if t.isForeign then none
    else if t = Tag.standard "bool" then boolean? text
    else if t = Tag.standard "int" then integer? text
    else if t = Tag.standard "float" then float? text
    else if t = Tag.standard "null" then null? text
    else some (if t.isLocal && style = .plain then .ofPlain text else .text text)

end DataGrammar.Yaml
