import DataGrammar.Coercion.Mismatch
import DataGrammar.Parser
import DataGrammar.Number.Literal
import DataGrammar.Text.Trim
/-!
# Coercion

`Target.coerce` turns the untyped result of a run into typed data. It is lenient: text that does
not read as the wanted scalar gives zero, what is not a list gives no items, and what is not a map
gives no entries. It fails only with a `Mismatch`.
-/

namespace DataGrammar

namespace Value

/-- The content of a text; nothing for other values. -/
def textOrEmpty (v : Value) : String := v.text?.getD ""

/-- The items of a list; none for other values. -/
def items (v : Value) : List Value := v.list?.getD []

/-- The entries of a map; none for other values. -/
def mapEntries (v : Value) : List (String × Value) := v.map?.getD []

end Value

namespace Coercion

/-- The truth value that a text reads as, false by default. -/
def boolean (v : Value) : Bool := v.text?.map trim = some "true"

/-- The integer of a type that a text reads as, zero by default. -/
def integer (signed : Bool) (bits : Nat) (v : Value) : Int :=
  (v.text?.bind fun t => Number.integer? signed bits (trim t)).getD 0

/-- The floating point number that a text reads as, zero by default. -/
def float (f : Binary.Format) (v : Value) : Datum :=
  match v.text?.bind fun t => Number.float? f (trim t) with
  | some (negative, m) => .float f negative m
  | none => .float f false (.finite 0 0)

/-- The first character of a text, NUL by default. -/
def character (v : Value) : Char := v.textOrEmpty.toList.head?.getD '\x00'

/-- What a message calls a value that is of no use. -/
def found : Value → String
  | .null => "unit value"
  | .text s => "string " ++ quoted s
  | .list _ => "sequence"
  | .map _ => "map"

/-- Refuse a key that a mapping cannot have. -/
def checkKey (target : KeyTarget) (key : String) : Except Mismatch Unit :=
  match target with
  | .text => .ok ()
  | .character => if key.toList.length = 1 then .ok () else .error (.noCharacter key)
  | .integer name => .error (.wrongType ("string " ++ quoted key) name)

/-- Read the entries of a map into fields, in the order of the entries; `read` reads the field of
a key, if there is one. -/
def readEntries (read : String → Value → Option (Except Mismatch Datum)) (closed : Bool)
    (keys : List String) : List (String × Value) → Except Mismatch (List (String × Datum))
  | [] => .ok []
  | (key, v) :: rest =>
    match read key v with
    | some result => do
      let d ← result
      let ds ← readEntries read closed keys rest
      return (key, d) :: ds
    | none =>
      if closed then .error (.unknownField key keys) else readEntries read closed keys rest

/-- The fields of a record in the order of their declaration, from those that were read. -/
def complete (read : List (String × Datum)) :
    List (Field × Target) → Except Mismatch (List (String × Datum))
  | [] => .ok []
  | (field, target) :: rest => do
    let d ← match read.find? fun e => e.1 = field.key with
      | some (_, d) => .ok d
      | none =>
        match field.default with
        | some d => .ok d
        | none => if target.isOptional then .ok .absent else .error (.missingField field.key)
    let ds ← complete read rest
    return (field.label, d) :: ds

/-- The variant that a value names, and its content if there is one. -/
def tag : Value → Except Mismatch (String × Option Value)
  | .text name => .ok (name, none)
  | .map [(name, content)] => .ok (name, some content)
  | v => .error (.noVariant v.typeName)

/-- A variant that is only named must carry no data. -/
def bare (name : String) : VariantShape → Except Mismatch Datum
  | .unit => .ok (.variant name .unit .unit)
  | shape => .error (.bareVariant shape)

end Coercion

namespace Target

open Coercion

mutual

/-- Coerce a value. -/
def coerce : Target → Value → Except Mismatch Datum
  | .boolean, v => .ok (.boolean (Coercion.boolean v))
  | .integer signed bits, v => .ok (.integer (Coercion.integer signed bits v))
  | .wide name, v => .error (.wrongType (found v) name)
  | .float f, v => .ok (Coercion.float f v)
  | .character, v => .ok (.character (Coercion.character v))
  | .text, v => .ok (.text v.textOrEmpty)
  | .unit, _ => .ok .unit
  | .bytes, v => .ok (.bytes (v.textOrEmpty.toList.flatMap String.utf8EncodeChar))
  | .value, v => .ok (.value v)
  | .ignored, _ => .ok .ignored
  | .optional content, v => if v.isNull then .ok .absent else .present <$> content.coerce v
  | .list item, v => .list <$> v.items.mapM item.coerce
  | .tuple targets expected, v => .list <$> coerceItems targets expected 0 v.items
  | .wrapped content, v => content.coerce v
  | .mapping key item, v =>
    .mapping <$> v.mapEntries.mapM fun e => do
      checkKey key e.1
      let d ← item.coerce e.2
      return (e.1, d)
  | .record closed fields, v => do
    let keys := fields.map fun f => f.1.key
    let read ← readEntries (coerceField fields) closed keys v.mapEntries
    return .record (← complete read fields)
  | .choice variants, v => do
    let (name, content) ← tag v
    match coerceVariant variants name content with
    | some result => result
    | none => .error (.unknownVariant name (variants.map Prod.fst))

/-- Coerce as many items as there are targets; `count` came before. -/
def coerceItems : List Target → (expected : String) → (count : Nat) → List Value →
    Except Mismatch (List Datum)
  | [], _, _, _ => .ok []
  | _ :: _, expected, count, [] => .error (.tooFew count expected)
  | target :: targets, expected, count, v :: vs => do
    let d ← target.coerce v
    let ds ← coerceItems targets expected (count + 1) vs
    return d :: ds

/-- Coerce the field of a key. -/
def coerceField : List (Field × Target) → (key : String) → Value → Option (Except Mismatch Datum)
  | [], _, _ => none
  | (field, target) :: rest, key, v =>
    if field.key = key then some (target.coerce v) else coerceField rest key v

/-- Coerce the content of the variant of a name. -/
def coerceVariant : List (String × VariantShape × Target) → (name : String) → Option Value →
    Option (Except Mismatch Datum)
  | [], _, _ => none
  | (n, shape, target) :: rest, name, content =>
    if n = name then
      match content with
      | some v => some (.variant name shape <$> target.coerce v)
      | none => some (bare name shape)
    else coerceVariant rest name content

end

end Target

/-- A run whose result was coerced. -/
structure TypedOutcome where
  /-- Whether the rule matched. -/
  success : Bool
  /-- The bytes up to which the grammar matched. -/
  position : Nat
  /-- The typed result. -/
  result : Datum

/-- Coerce a value, or report why it cannot be coerced. -/
def Value.coerce (target : Target) (v : Value) : Except Diagnostic Datum :=
  match target.coerce v with
  | .ok d => .ok d
  | .error m => .error (Cause.coercion m.message)

/-- Match a rule and coerce the result into the target that `target` gives for it. -/
def Parser.runTyped (p : Parser) (target : Value → Target) (rule input : String) :
    Except Diagnostic TypedOutcome := do
  let o ← p.run rule input
  let d ← o.result.coerce (target o.result)
  return ⟨o.success, o.position, d⟩

end DataGrammar
