/-!
# Cursors

A cursor is a place in a text: how many bytes lie before it, the character just before it and
the characters from it on. `Cursor.At text c` says that `c` is such a place of `text`; every
cursor that a run meets is one, so its offset is a character boundary.
-/

namespace DataGrammar

/-- The number of bytes of the UTF-8 form. -/
def utf8Length (chars : List Char) : Nat :=
  chars.foldl (fun n c => n + c.utf8Size) 0

theorem foldl_utf8Size (n : Nat) (chars : List Char) :
    chars.foldl (fun n c => n + c.utf8Size) n = n + utf8Length chars := by
  induction chars generalizing n with
  | nil => rfl
  | cons c cs ih =>
    rw [utf8Length, List.foldl_cons, List.foldl_cons, ih, ih, Nat.zero_add, Nat.add_assoc]

@[simp] theorem utf8Length_nil : utf8Length [] = 0 := rfl

@[simp] theorem utf8Length_cons (c : Char) (cs : List Char) :
    utf8Length (c :: cs) = c.utf8Size + utf8Length cs := by
  rw [utf8Length, List.foldl_cons, foldl_utf8Size, Nat.zero_add]

@[simp] theorem utf8Length_append (a b : List Char) :
    utf8Length (a ++ b) = utf8Length a + utf8Length b := by
  rw [utf8Length, List.foldl_append, foldl_utf8Size, ← utf8Length]

theorem utf8Length_eq_ofList (chars : List Char) :
    utf8Length chars = (String.ofList chars).utf8ByteSize := by
  induction chars with
  | nil => simp [String.ofList_nil]
  | cons c cs ih =>
    rw [← List.singleton_append, String.ofList_append, String.utf8ByteSize_append, ← ih,
      ← String.singleton_eq_ofList, String.utf8ByteSize_singleton, List.singleton_append,
      utf8Length_cons]

@[simp] theorem utf8Length_toList (s : String) : utf8Length s.toList = s.utf8ByteSize := by
  rw [utf8Length_eq_ofList, String.ofList_toList]

/-- A place in a text. -/
structure Cursor where
  /-- The bytes before the cursor. -/
  offset : Nat
  /-- The character just before the cursor. -/
  behind : Option Char
  /-- The characters from the cursor on. -/
  ahead : List Char
  deriving DecidableEq, Repr, Inhabited

namespace Cursor

/-- The start of a text. -/
def start (text : String) : Cursor := ⟨0, none, text.toList⟩

/-- Pass `n` characters, or all there are. -/
def advance : Nat → Cursor → Cursor
  | 0, c => c
  | n + 1, ⟨offset, behind, ahead⟩ =>
    match ahead with
    | [] => ⟨offset, behind, []⟩
    | ch :: rest => advance n ⟨offset + ch.utf8Size, some ch, rest⟩

/-- The next `n` characters as text. -/
def take (n : Nat) (c : Cursor) : String := .ofList (c.ahead.take n)

/-- The cursor stands in `text`: `behind` ends what was passed and `ahead` is what is left. -/
def At (text : String) (c : Cursor) : Prop :=
  ∃ passed, text.toList = passed ++ c.ahead ∧ c.offset = utf8Length passed ∧
    c.behind = passed.getLast?

theorem at_start (text : String) : At text (start text) := ⟨[], rfl, rfl, rfl⟩

theorem At.advance {text : String} {c : Cursor} (h : At text c) (n : Nat) :
    At text (c.advance n) := by
  induction n generalizing c with
  | zero => exact h
  | succ n ih =>
    obtain ⟨offset, behind, ahead⟩ := c
    cases ahead with
    | nil => exact h
    | cons ch rest =>
      obtain ⟨passed, ht, ho, _⟩ := h
      simp only at ht ho
      exact ih ⟨passed ++ [ch], by simp [ht], by simp [ho], by simp⟩

end Cursor
end DataGrammar
