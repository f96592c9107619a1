import DataGrammar.Proofs.Text.Boundary
import DataGrammar.Text.Position

/-!
# Bytes from lines and columns

A fault is reported by the line and the column of the last byte that was read, and the byte is found
again from these. What is found is that byte, unless it is a line feed, behind which the next line
has begun already.

* `Position.after_append`: the line and the column of a byte of a character.
* `Position.offset_ofOffset`: the byte that is found from these.
* `Position.offset_ofOffset_pred`: it is the last one of the bytes that were read.
-/

namespace DataGrammar.Position

variable {before rest : List Char} {c : Char} {index : Nat}

/-- The last line that begins in a text begins where it ends, or before. -/
theorem lineStart_count_le (before rest : List Char) :
    lineStart (before.count '\n') (before ++ rest) ≤ utf8Length before := by
  induction before with
  | nil => simp [lineStart]
  | cons d before ih =>
    by_cases hd : d = '\n'
    · subst hd
      simp only [List.count_cons_self, List.cons_append, lineStart, if_true, utf8Length_cons]
      omega
    · rw [List.count_cons_of_ne hd, utf8Length_cons]
      cases hcount : before.count '\n' with
      | zero => simp [lineStart]
      | succ breaks =>
        simp only [List.cons_append, lineStart, if_neg hd, hcount ▸ ih, Nat.add_le_add_iff_left]

/-- The line behind a line feed begins after it. -/
theorem lineStart_count_succ (before rest : List Char) :
    lineStart (before.count '\n' + 1) (before ++ '\n' :: rest) = utf8Length before + 1 := by
  induction before with
  | nil =>
    rw [List.count_nil, List.nil_append, lineStart, if_pos rfl, lineStart, utf8Length_nil]
    rfl
  | cons d before ih =>
    by_cases hd : d = '\n'
    · subst hd
      simp only [List.count_cons_self, List.cons_append, lineStart, if_true, utf8Length_cons, ih]
      omega
    · simp only [List.count_cons_of_ne hd, List.cons_append, lineStart, if_neg hd, utf8Length_cons,
        ih]
      omega

/-- A text begins a line where it begins. -/
theorem ite_lineStart (start breaks : Nat) (chars : List Char) :
    (if breaks = 0 then start else start + lineStart breaks chars) =
      start + lineStart breaks chars := by
  cases breaks with
  | zero => simp [lineStart]
  | succ breaks => rw [if_neg (Nat.succ_ne_zero _)]

/-- Nothing more is passed at the byte that is asked for. -/
theorem after_of_le {line start offset : Nat} (h : index ≤ offset) (chars : List Char) :
    after index line start offset chars = ⟨line, index - start⟩ := by
  cases chars with
  | nil => rfl
  | cons c rest => rw [after, if_pos h]

/-- Before the byte that is asked for a character is passed, and the next line begins after it if it
is a line feed. -/
theorem after_cons (line start : Nat) {offset : Nat} (h : offset < index) :
    after index line start offset (c :: rest) =
      if c = '\n' then after index (line + 1) (offset + c.utf8Size) (offset + c.utf8Size) rest
      else after index line start (offset + c.utf8Size) rest := by
  rw [after, if_neg (Nat.not_le.2 h)]

/-- **Lines are counted up to the character that a byte belongs to.** -/
theorem after_append (line start offset : Nat) (hl : offset + utf8Length before < index)
    (hr : index ≤ offset + utf8Length before + c.utf8Size) :
    after index line start offset (before ++ c :: rest) =
      ⟨line + (before ++ [c]).count '\n',
        index - if (before ++ [c]).count '\n' = 0 then start
          else offset + lineStart ((before ++ [c]).count '\n') (before ++ c :: rest)⟩ := by
  -- The line has begun at `start` as long as no line feed is passed, and the column counts from
  -- there; behind a line feed both are those of the text that is left.
  induction before generalizing line start offset with
  | nil =>
    rw [utf8Length_nil, Nat.add_zero] at hl hr
    rw [List.nil_append, List.nil_append, after_cons _ _ hl, after_of_le hr, after_of_le hr,
      List.count_singleton]
    by_cases hc : c = '\n'
    · simp [hc, lineStart]
    · simp [hc]
  | cons d before ih =>
    rw [utf8Length_cons] at hl hr
    have hmore := fun line start => ih line start (offset + d.utf8Size) (by omega) (by omega)
    rw [List.cons_append, List.cons_append, after_cons _ _ (by omega), hmore, hmore]
    by_cases hd : d = '\n'
    · subst hd
      rw [if_pos rfl, List.count_cons_self, if_neg (Nat.succ_ne_zero _), lineStart, if_pos rfl,
        ← Nat.add_assoc offset, ite_lineStart, Nat.add_right_comm line 1, Nat.add_assoc line]
    · rw [if_neg hd, List.count_cons_of_ne hd]
      cases (before ++ [c]).count '\n' with
      | zero => rfl
      | succ breaks =>
        rw [if_neg (Nat.succ_ne_zero _), if_neg (Nat.succ_ne_zero _), lineStart, if_neg hd,
          Nat.add_assoc]

/-- **What is found from the line and the column of a byte** is that byte, as the first one has
column 1. A line feed is the only byte whose line is the next one. -/
theorem offset_ofOffset {text : String} (h : text.toList = before ++ c :: rest)
    (hl : utf8Length before < index) (hr : index ≤ utf8Length before + c.utf8Size) :
    (ofOffset text index).offset text = if c = '\n' then index else index - 1 := by
  have hsize : index ≤ utf8Length (before ++ c :: rest) := by
    rw [utf8Length_append, utf8Length_cons]
    omega
  rw [ofOffset, offset, h, after_append 1 0 0 (by rwa [Nat.zero_add]) (by rwa [Nat.zero_add]),
    ite_lineStart, Nat.zero_add, Nat.add_sub_cancel_left]
  dsimp only
  rw [List.count_append, List.count_singleton]
  by_cases hc : c = '\n'
  · subst hc
    have hbyte : '\n'.utf8Size = 1 := rfl
    have hline := lineStart_count_succ before rest
    simp only [beq_self_eq_true, if_true]
    omega
  · have hline := lineStart_count_le before (c :: rest)
    simp only [beq_iff_eq, if_neg hc, Nat.add_zero]
    omega

/-- Before the first byte, the first byte is found. -/
theorem offset_ofOffset_zero (text : String) : (ofOffset text 0).offset text = 0 := by
  rw [ofOffset, after_of_le (Nat.le_refl 0)]
  simp [offset, lineStart]

/-- Every byte of a text is one of a character. -/
theorem exists_append_of_le {chars : List Char} (h : 0 < index) (hl : index ≤ utf8Length chars) :
    ∃ before c rest, chars = before ++ c :: rest ∧ utf8Length before < index ∧
      index ≤ utf8Length before + c.utf8Size := by
  induction chars generalizing index with
  | nil =>
    rw [utf8Length_nil] at hl
    omega
  | cons d chars ih =>
    rw [utf8Length_cons] at hl
    by_cases hd : index ≤ d.utf8Size
    · exact ⟨[], d, chars, rfl, h, by rw [utf8Length_nil, Nat.zero_add]; exact hd⟩
    · obtain ⟨before, c, rest, rfl, hbefore, hc⟩ :=
        @ih (index - d.utf8Size) (by omega) (by omega)
      refine ⟨d :: before, c, rest, rfl, ?_, ?_⟩
      all_goals
        rw [utf8Length_cons]
        omega

/-- So many bytes of the text are read with a line feed as the last one. -/
def AfterFeed (text : String) (index : Nat) : Prop :=
  ∃ before rest, text.toList = before ++ '\n' :: rest ∧ index = utf8Length before + 1

theorem AfterFeed.isValid {text : String} (h : AfterFeed text index) :
    (⟨index⟩ : String.Pos.Raw).IsValid text := by
  obtain ⟨before, rest, ht, rfl⟩ := h
  have hsplit : text.toList = (before ++ ['\n']) ++ rest := by rw [ht, List.append_assoc]; rfl
  have hlength : utf8Length before + 1 = utf8Length (before ++ ['\n']) := by
    rw [utf8Length_append]
    rfl
  rw [hlength]
  exact isValid_of_toList hsplit

/-- **The last one of the bytes that were read is found**, or the end of the line if that is a line
feed. -/
theorem offset_ofOffset_pred {text : String} (hl : index ≤ text.utf8ByteSize) :
    (ofOffset text index).offset text = index - 1 ∨
      (ofOffset text index).offset text = index ∧ AfterFeed text index := by
  rcases Nat.eq_zero_or_pos index with rfl | h
  · exact .inl (offset_ofOffset_zero text)
  rw [← utf8Length_toList] at hl
  obtain ⟨before, c, rest, ht, hbefore, hc⟩ := exists_append_of_le h hl
  rw [offset_ofOffset ht hbefore hc]
  split
  · next hfeed =>
    subst hfeed
    have hbyte : '\n'.utf8Size = 1 := rfl
    exact .inr ⟨rfl, before, rest, ht, by omega⟩
  · exact .inl rfl

end DataGrammar.Position
