import DataGrammar.Proofs.Text.Boundary

/-!
# Access by offset

A text can be accessed by the offset of its bytes, but only at character boundaries. `Cursor.at?`
gives the cursor at an offset and `slice?` the text between two offsets, or nothing where an
access would be out of place. Cursors of the text never meet that case (`Cursor.At.at?_eq`,
`Cursor.At.slice?_eq`).
-/

namespace DataGrammar

/-- The text between two offsets. -/
def slice? (text : String) (first last : Nat) : Option String :=
  if h : first ≤ last ∧ (⟨first⟩ : String.Pos.Raw).IsValid text ∧
      (⟨last⟩ : String.Pos.Raw).IsValid text then
    some (text.extract ⟨⟨first⟩, h.2.1⟩ ⟨⟨last⟩, h.2.2⟩)
  else none

/-- What lies between two parts of a text is its slice. -/
theorem slice?_of_toList {text : String} {before between after : List Char}
    (h : text.toList = before ++ between ++ after) :
    slice? text (utf8Length before) (utf8Length before + utf8Length between) =
      some (.ofList between) := by
  have hfirst := isValid_of_toList (h.trans (List.append_assoc ..))
  have hlast := isValid_of_toList h
  rw [utf8Length_append] at hlast
  rw [slice?, dif_pos ⟨Nat.le_add_right _ _, hfirst, hlast⟩]
  refine congrArg some (String.toByteArray_inj.1 ?_)
  have htext : text.toByteArray = (String.ofList before).toByteArray ++
      ((String.ofList between).toByteArray ++ (String.ofList after).toByteArray) := by
    rw [← String.toByteArray_append, ← String.toByteArray_append, ← String.ofList_append,
      ← String.ofList_append, ← List.append_assoc, ← h, String.ofList_toList]
  have hsize : ∀ chars, utf8Length chars = (String.ofList chars).toByteArray.size := by
    intro chars
    rw [utf8Length_eq_ofList, String.size_toByteArray]
  rw [String.toByteArray_extract, htext]
  show ByteArray.extract _ (utf8Length before + 0) (utf8Length before + utf8Length between) = _
  rw [ByteArray.extract_append_size_add' (hsize before),
    ByteArray.extract_append_eq_left (hsize between)]

namespace Cursor

/-- The cursor at an offset of a text. -/
def at? (text : String) (offset : Nat) : Option Cursor :=
  ((List.range (text.toList.length + 1)).map fun n => (start text).advance n).find?
    fun c => c.offset = offset

variable {text : String} {c : Cursor}

theorem at_of_at? {offset : Nat} (h : at? text offset = some c) :
    At text c ∧ c.offset = offset := by
  obtain ⟨n, -, rfl⟩ := List.mem_map.1 (List.mem_of_find?_eq_some h)
  exact ⟨(at_start text).advance n, by simpa using List.find?_some h⟩

/-- A cursor of the text is reached from its start, by no more than its characters. -/
theorem At.exists_eq_advance (h : At text c) :
    ∃ n ≤ text.toList.length, c = (start text).advance n := by
  obtain ⟨passed, ht, ho, hb⟩ := h
  refine ⟨passed.length, by rw [ht, List.length_append]; omega, ?_⟩
  refine At.eq_of_offset_eq ⟨passed, ht, ho, hb⟩ ((at_start text).advance _) ?_
  have hs : (start text).offset = 0 := rfl
  have ha : (start text).ahead = text.toList := rfl
  rw [offset_advance, hs, ha, ht, List.take_left, ho, Nat.zero_add]

/-- **A cursor of the text is found by its offset.** -/
theorem At.at?_eq (h : At text c) : at? text c.offset = some c := by
  obtain ⟨n, hn, hc⟩ := h.exists_eq_advance
  have hmem : c ∈ (List.range (text.toList.length + 1)).map fun n => (start text).advance n :=
    List.mem_map.2 ⟨n, List.mem_range.2 (Nat.lt_succ_of_le hn), hc.symm⟩
  cases hat : at? text c.offset with
  | none => simpa using List.find?_eq_none.1 hat c hmem
  | some d =>
    obtain ⟨hd, ho⟩ := at_of_at? hat
    rw [hd.eq_of_offset_eq h ho]

/-- An offset has a cursor exactly if it is a character boundary. -/
theorem isSome_at?_iff {offset : Nat} :
    (at? text offset).isSome ↔ (⟨offset⟩ : String.Pos.Raw).IsValid text := by
  constructor
  · intro h
    obtain ⟨c, hc⟩ := Option.isSome_iff_exists.1 h
    obtain ⟨hat, rfl⟩ := at_of_at? hc
    exact hat.isValid
  · intro h
    obtain ⟨c, hc, rfl⟩ := exists_at h
    rw [hc.at?_eq]
    rfl

/-- **The text between two places** is made of the characters between them. -/
theorem At.slice?_eq (h : At text c) {first last : Nat} (hle : first ≤ last) :
    slice? text (c.advance first).offset (c.advance last).offset =
      some (.ofList ((c.ahead.take last).drop first)) := by
  obtain ⟨passed, ht, ho, -⟩ := h
  have htake : c.ahead.take last = c.ahead.take first ++ (c.ahead.take last).drop first := by
    rw [← Nat.min_eq_left hle, ← List.take_take, Nat.min_eq_left hle, List.take_append_drop]
  have htext : text.toList = passed ++ c.ahead.take first ++ (c.ahead.take last).drop first ++
      c.ahead.drop last := by
    rw [List.append_assoc passed, ← htake, List.append_assoc, List.take_append_drop, ht]
  have hlast : utf8Length (c.ahead.take last) =
      utf8Length (c.ahead.take first) + utf8Length ((c.ahead.take last).drop first) := by
    rw [← utf8Length_append, ← htake]
  rw [offset_advance, offset_advance, ho, hlast, ← Nat.add_assoc, ← utf8Length_append]
  exact slice?_of_toList htext

end Cursor
end DataGrammar
