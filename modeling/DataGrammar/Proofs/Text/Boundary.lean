import DataGrammar.Text.Cursor
import Mathlib.Data.List.Basic
import Mathlib.Tactic.Common

/-!
# Cursors and character boundaries

A cursor that stands in a text (`Cursor.At`) is determined by its offset, and its offset is a
character boundary of the text, at most the text's length. Conversely every boundary has a
cursor.

* `Cursor.Reaches c d` says that `d` is `c` or further on; this is the only way in which a
  cursor moves, so whatever holds of the places of a text is kept along it;
* `Cursor.At.isValid`, `Cursor.At.offset_le`, `Cursor.exists_at` link cursors to the boundaries
  of the standard library's strings;
* `Cursor.At.eq_of_offset_eq`: one offset, one cursor.
-/

namespace DataGrammar

/-- A list of characters without bytes is empty. -/
theorem eq_nil_of_utf8Length_eq_zero {chars : List Char} (h : utf8Length chars = 0) :
    chars = [] := by
  cases chars with
  | nil => rfl
  | cons c cs =>
    rw [utf8Length_cons] at h
    have := c.utf8Size_pos
    omega

/-- Two prefixes of one list with as many bytes are the same. -/
theorem eq_of_append_eq_append {a b c d : List Char} (h : a ++ b = c ++ d)
    (hl : utf8Length a = utf8Length c) : a = c ∧ b = d := by
  rcases List.append_eq_append_iff.1 h with ⟨t, rfl, rfl⟩ | ⟨t, rfl, rfl⟩
  · have ht : t = [] := eq_nil_of_utf8Length_eq_zero (by rw [utf8Length_append] at hl; omega)
    simp [ht]
  · have ht : t = [] := eq_nil_of_utf8Length_eq_zero (by rw [utf8Length_append] at hl; omega)
    simp [ht]

/-- A text can be divided at its boundaries only. -/
theorem isValid_of_toList {text : String} {before after : List Char}
    (h : text.toList = before ++ after) : (⟨utf8Length before⟩ : String.Pos.Raw).IsValid text := by
  refine String.Pos.Raw.isValid_iff_exists_take_toList.2 ⟨before.length, ?_⟩
  rw [h, List.take_left, utf8Length_eq_ofList]

namespace Cursor

/-! ### Moving on -/

@[simp] theorem advance_zero (c : Cursor) : c.advance 0 = c := rfl

theorem advance_add (c : Cursor) (i j : Nat) : c.advance (i + j) = (c.advance i).advance j := by
  induction i generalizing c with
  | zero => rw [Nat.zero_add, advance_zero]
  | succ i ih =>
    obtain ⟨offset, behind, ahead⟩ := c
    rw [Nat.succ_add]
    cases ahead with
    | cons ch rest => exact ih _
    | nil =>
      -- at the end of the text nothing moves
      cases j with
      | zero => rfl
      | succ j => rfl

theorem offset_advance (c : Cursor) (n : Nat) :
    (c.advance n).offset = c.offset + utf8Length (c.ahead.take n) := by
  induction n generalizing c with
  | zero => rfl
  | succ n ih =>
    obtain ⟨offset, behind, ahead⟩ := c
    cases ahead with
    | nil => rfl
    | cons ch rest =>
      rw [List.take_succ_cons, utf8Length_cons, ← Nat.add_assoc]
      exact ih _

theorem ahead_advance_eq_drop (c : Cursor) (n : Nat) : (c.advance n).ahead = c.ahead.drop n := by
  induction n generalizing c with
  | zero => rfl
  | succ n ih =>
    obtain ⟨offset, behind, ahead⟩ := c
    cases ahead with
    | nil => rfl
    | cons ch rest => exact ih _

theorem ahead_advance {c : Cursor} {text rest : List Char} (h : c.ahead = text ++ rest) :
    (c.advance text.length).ahead = rest := by
  rw [ahead_advance_eq_drop, h, List.drop_left]

/-- `d` is `c`, or lies further on in the same text. -/
def Reaches (c d : Cursor) : Prop := ∃ n, d = c.advance n

theorem Reaches.refl (c : Cursor) : c.Reaches c := ⟨0, rfl⟩

theorem Reaches.trans {c d e : Cursor} (h : c.Reaches d) (h' : d.Reaches e) : c.Reaches e := by
  obtain ⟨i, rfl⟩ := h
  obtain ⟨j, rfl⟩ := h'
  exact ⟨i + j, (advance_add c i j).symm⟩

theorem reaches_advance (c : Cursor) (n : Nat) : c.Reaches (c.advance n) := ⟨n, rfl⟩

theorem Reaches.offset_le {c d : Cursor} (h : c.Reaches d) : c.offset ≤ d.offset := by
  obtain ⟨n, rfl⟩ := h
  rw [offset_advance]
  omega

theorem At.reaches {text : String} {c d : Cursor} (hc : At text c) (h : c.Reaches d) :
    At text d := by
  obtain ⟨n, rfl⟩ := h
  exact hc.advance n

/-! ### Boundaries -/

variable {text : String} {c d : Cursor}

theorem At.offset_le (h : At text c) : c.offset ≤ text.utf8ByteSize := by
  obtain ⟨passed, ht, ho, -⟩ := h
  rw [ho, ← utf8Length_toList, ht, utf8Length_append]
  omega

/-- The offset of a cursor is a character boundary of the text. -/
theorem At.isValid (h : At text c) : (⟨c.offset⟩ : String.Pos.Raw).IsValid text := by
  obtain ⟨passed, ht, ho, -⟩ := h
  rw [ho]
  exact isValid_of_toList ht

/-- Every character boundary of a text has a cursor. -/
theorem exists_at {offset : Nat} (h : (⟨offset⟩ : String.Pos.Raw).IsValid text) :
    ∃ c, At text c ∧ c.offset = offset := by
  obtain ⟨n, hn⟩ := String.Pos.Raw.isValid_iff_exists_take_toList.1 h
  refine ⟨(start text).advance n, (at_start text).advance n, ?_⟩
  have hs : (start text).offset = 0 := rfl
  have ha : (start text).ahead = text.toList := rfl
  rw [offset_advance, hs, ha, utf8Length_eq_ofList, Nat.zero_add]
  exact hn.symm

/-- The offset determines the cursor. -/
theorem At.eq_of_offset_eq (hc : At text c) (hd : At text d) (h : c.offset = d.offset) :
    c = d := by
  obtain ⟨passed, ht, ho, hb⟩ := hc
  obtain ⟨passed', ht', ho', hb'⟩ := hd
  obtain ⟨hp, ha⟩ := eq_of_append_eq_append (ht.symm.trans ht') (by omega)
  cases c
  cases d
  simp_all

end Cursor
end DataGrammar
