import DataGrammar.Proofs.Text.Position
import Mathlib.Data.List.TakeWhile

/-!
# Bytes behind which a reader stops

A reader reports an error with the number of bytes up to it, which need not be where a character
ends: the byte that is at fault counts, but not what follows of its character. A step of a reader is
described here by what it requires and ensures of the cursor, and by the errors it may stop with.

* `Placed`: behind which bytes of a text an error may lie.
* `Placed.reported`: which byte of the text is then found from the line and the column.
* `Triple`: what a step requires and ensures, and which errors it stops with.
* `Cursor.Behind`, `Cursor.Narrow`, `Cursor.Facing`: what is required and ensured.
-/

namespace DataGrammar

theorem utf8Size_of_le {c d : Char} (h : c ≤ d) (hd : d.utf8Size = 1) : c.utf8Size = 1 :=
  Char.utf8Size_eq_one_iff.2 (UInt32.le_trans h (Char.utf8Size_eq_one_iff.1 hd))

/-- Behind which bytes of a text a fault may lie; `escape` says that it is about an escape. -/
inductive Placed (escape : Prop) (text : List Char) : Nat → Prop
  /-- No byte has been read. -/
  | start : Placed escape text 0
  /-- The first byte of a character. -/
  | byte {before rest : List Char} {c : Char} (h : text = before ++ c :: rest) :
    Placed escape text (utf8Length before + 1)
  /-- The last byte of the text. -/
  | ended : Placed escape text (utf8Length text)
  /-- The four bytes that should be the digits of an escape. -/
  | digits {before rest : List Char} (h : text = before ++ '\\' :: 'u' :: rest)
    (hrest : 4 ≤ utf8Length rest) (he : escape) : Placed escape text (utf8Length before + 6)

theorem Placed.mono {p q : Prop} {text : List Char} {offset : Nat} (h : p → q)
    (hp : Placed p text offset) : Placed q text offset := by
  cases hp with
  | start => exact .start
  | byte ht => exact .byte ht
  | ended => exact .ended
  | digits ht hrest hp => exact .digits ht hrest (h hp)

/-- The byte is the last one of the text, and not the first one of its character. -/
def EndsWithin (text : String) (n : Nat) : Prop :=
  ∃ before c, text.toList = before ++ [c] ∧ 1 < c.utf8Size ∧ n + 1 = text.utf8ByteSize

/-- The byte is the fourth one of those that should be the digits of an escape. -/
def FourthDigit (text : String) (n : Nat) : Prop :=
  ∃ before rest, text.toList = before ++ '\\' :: 'u' :: rest ∧ 4 ≤ utf8Length rest ∧
    n = utf8Length before + 5

/-- Within the last character there is no boundary. -/
theorem EndsWithin.not_isValid {text : String} {n : Nat} (h : EndsWithin text n) :
    ¬ (⟨n⟩ : String.Pos.Raw).IsValid text := by
  obtain ⟨before, c, ht, hc, hn⟩ := h
  intro hvalid
  obtain ⟨d, ⟨passed, hpassed, ho, -⟩, rfl⟩ := Cursor.exists_at hvalid
  rw [← utf8Length_toList, ht, utf8Length_append, utf8Length_cons, utf8Length_nil] at hn
  -- What has been passed does not exceed what is before the character, or is the whole text.
  have happend := List.append_eq_append_iff.1 (ht.symm.trans hpassed)
  rcases happend with ⟨more, rfl, hmore⟩ | ⟨more, rfl, -⟩
  · rw [utf8Length_append] at ho
    rcases List.append_eq_singleton_iff.1 hmore.symm with ⟨rfl, -⟩ | ⟨rfl, -⟩
    · rw [utf8Length_nil] at ho
      omega
    · rw [utf8Length_cons, utf8Length_nil] at ho
      omega
  · rw [utf8Length_append] at hn
    omega

/-- The last byte of a text is a character of its own, or it is within the last character. -/
theorem isValid_or_endsWithin (text : String) :
    (⟨text.utf8ByteSize - 1⟩ : String.Pos.Raw).IsValid text ∨
      EndsWithin text (text.utf8ByteSize - 1) := by
  rcases List.eq_nil_or_concat' text.toList with ht | ⟨before, c, ht⟩
  · left
    rw [← utf8Length_toList, ht]
    exact (Cursor.at_start text).isValid
  · have hsize : text.utf8ByteSize = utf8Length before + c.utf8Size := by
      rw [← utf8Length_toList, ht, utf8Length_append, utf8Length_cons, utf8Length_nil,
        Nat.add_zero]
    by_cases hc : c.utf8Size = 1
    · left
      rw [hsize, hc]
      exact isValid_of_toList ht
    · have hpos := c.utf8Size_pos
      exact .inr ⟨before, c, ht, by omega, by omega⟩

theorem Placed.le {escape : Prop} {text : List Char} {n : Nat} (h : Placed escape text n) :
    n ≤ utf8Length text := by
  cases h with
  | start => exact Nat.zero_le _
  | @byte before rest c ht =>
    have hc := c.utf8Size_pos
    rw [ht, utf8Length_append, utf8Length_cons]
    omega
  | ended => exact Nat.le_refl _
  | digits ht hrest =>
    have hmark : '\\'.utf8Size = 1 ∧ 'u'.utf8Size = 1 := ⟨rfl, rfl⟩
    rw [ht, utf8Length_append, utf8Length_cons, utf8Length_cons]
    omega

/-- **The byte that is reported is the first one of a character**, or the last one of the text, or
the fourth one of those that should be the digits of an escape. -/
theorem Placed.reported {escape : Prop} {text : String} {n : Nat}
    (h : Placed escape text.toList n) :
    (⟨(Position.ofOffset text n).offset text⟩ : String.Pos.Raw).IsValid text ∨
      EndsWithin text ((Position.ofOffset text n).offset text) ∨
      escape ∧ FourthDigit text ((Position.ofOffset text n).offset text) := by
  have hle := h.le
  rw [utf8Length_toList] at hle
  -- One byte less leads from behind a byte to the byte, which is where a character begins only if
  -- it is the first one of its character.
  rcases Position.offset_ofOffset_pred hle with heq | ⟨heq, hfeed⟩
  · rw [heq]
    cases h with
    | start => exact .inl (Cursor.at_start text).isValid
    | byte ht => exact .inl (isValid_of_toList ht)
    | ended =>
      rw [utf8Length_toList]
      exact (isValid_or_endsWithin text).imp_right .inl
    | digits ht hrest he => exact .inr (.inr ⟨he, _, _, ht, hrest, rfl⟩)
  · rw [heq]
    exact .inl hfeed.isValid

/-! ### Steps -/

/-- The step, where it is taken from a cursor as required, gives something and goes on to a cursor
as ensured, or stops with an error of the kind. -/
def Triple {ε α : Type} (kind : ε → Prop) (pre : Cursor → Prop)
    (step : StateT Cursor (Except ε) α) (post : α → Cursor → Prop) : Prop :=
  ∀ c, pre c → match step c with
    | .ok (a, d) => post a d
    | .error e => kind e

namespace Triple

variable {ε α β : Type} {kind : ε → Prop} {pre pre' : Cursor → Prop}
  {step : StateT Cursor (Except ε) α} {f : α → StateT Cursor (Except ε) β}
  {post mid : α → Cursor → Prop} {last : β → Cursor → Prop}

theorem pure {a : α} (h : ∀ c, pre c → post a c) : Triple kind pre (Pure.pure a) post := h

/-- One step after the other. -/
theorem bind (h : Triple kind pre step mid) (hf : ∀ a, Triple kind (mid a) (f a) last) :
    Triple kind pre (step >>= f) last := by
  intro c hc
  have hstep := h c hc
  change match step c >>= fun p => f p.1 p.2 with
    | .ok (b, d) => last b d
    | .error e => kind e
  cases hs : step c with
  | error e =>
    rw [hs] at hstep
    exact hstep
  | ok p =>
    rw [hs] at hstep
    exact hf p.1 p.2 hstep

/-- More may be required. -/
theorem require (h : Triple kind pre step post) (hpre : ∀ c, pre' c → pre c) :
    Triple kind pre' step post := fun c hc => h c (hpre c hc)

/-- Less may be ensured. -/
theorem ensure (h : Triple kind pre step mid) (hpost : ∀ a c, mid a c → post a c) :
    Triple kind pre step post := by
  intro c hc
  have hstep := h c hc
  cases hs : step c with
  | error e =>
    rw [hs] at hstep
    exact hstep
  | ok p =>
    rw [hs] at hstep
    exact hpost p.1 p.2 hstep

/-- What is given may be changed. -/
theorem map (g : α → β) (h : Triple kind pre step fun a => last (g a)) :
    Triple kind pre (step >>= fun a => Pure.pure (g a)) last :=
  bind h fun _ => pure fun _ hc => hc

/-- Which errors the whole of a run may stop with. -/
theorem of_run' (h : Triple kind pre step post) {c : Cursor} (hc : pre c) {e : ε}
    (he : step.run' c = .error e) : kind e := by
  have hstep := h c hc
  change Prod.fst <$> step c = .error e at he
  cases hs : step c with
  | error e' =>
    rw [hs] at hstep he
    exact Except.error.inj he ▸ hstep
  | ok p =>
    rw [hs] at he
    cases he

theorem get : Triple kind pre (MonadState.get : StateT Cursor (Except ε) Cursor)
    fun a c => a = c ∧ pre c := fun _ hc => ⟨rfl, hc⟩

end Triple

/-! ### Cursors -/

namespace Cursor

variable {text : String} {c : Cursor} {d : Char} {word : List Char}

/-- A word has just been passed. -/
def Behind (text : String) (word : List Char) (c : Cursor) : Prop :=
  ∃ passed, text.toList = passed ++ (word ++ c.ahead) ∧ c.offset = utf8Length (passed ++ word) ∧
    c.behind = (passed ++ word).getLast?

/-- The character before the cursor, if there is one, has a single byte. -/
def Narrow (text : String) (c : Cursor) : Prop := At text c ∧ ∀ d ∈ c.behind, d.utf8Size = 1

/-- Besides, this is the next character. -/
def Facing (text : String) (next : Option Char) (c : Cursor) : Prop :=
  Narrow text c ∧ next = c.ahead.head?

theorem At.behind (h : At text c) : Behind text [] c := by
  obtain ⟨passed, ht, ho, hb⟩ := h
  exact ⟨passed, ht, by rw [List.append_nil]; exact ho, by rw [List.append_nil]; exact hb⟩

theorem Behind.at (h : Behind text word c) : At text c := by
  obtain ⟨passed, ht, ho, hb⟩ := h
  exact ⟨passed ++ word, by rw [ht, List.append_assoc], ho, hb⟩

/-- A word is passed character by character. -/
theorem Behind.advance (h : Behind text word c) (hd : some d = c.ahead.head?) :
    Behind text (word ++ [d]) (c.advance 1) := by
  obtain ⟨passed, ht, ho, -⟩ := h
  obtain ⟨offset, behind, ahead⟩ := c
  cases ahead with
  | nil => cases hd
  | cons d' rest =>
    obtain rfl := Option.some.inj hd
    refine ⟨passed, by simp [ht, Cursor.advance], ?_, by simp [Cursor.advance]⟩
    simp only at ho
    simp [Cursor.advance, ho, Nat.add_assoc]

theorem Behind.narrow (h : Behind text (word ++ [d]) c) (hd : d.utf8Size = 1) : Narrow text c := by
  refine ⟨h.at, ?_⟩
  obtain ⟨passed, -, -, hb⟩ := h
  rw [hb, ← List.append_assoc, List.getLast?_concat]
  rintro _ ⟨⟩
  exact hd

/-- Characters of one byte are passed. -/
theorem Narrow.advance (h : Narrow text c) {n : Nat}
    (hn : ∀ d ∈ c.ahead.take n, d.utf8Size = 1) : Narrow text (c.advance n) := by
  induction n generalizing c with
  | zero => exact h
  | succ n ih =>
    obtain ⟨offset, behind, ahead⟩ := c
    cases ahead with
    | nil => exact h
    | cons d rest =>
      refine ih ⟨At.advance h.1 1, ?_⟩ fun d' hd' => hn d' (List.mem_cons_of_mem d hd')
      rintro _ ⟨⟩
      exact hn d (List.mem_cons_self ..)

/-- Characters of a kind are passed as far as they go. -/
theorem Narrow.advance_takeWhile (h : Narrow text c) {p : Char → Bool}
    (hp : ∀ d, p d = true → d.utf8Size = 1) :
    Narrow text (c.advance (c.ahead.takeWhile p).length) := by
  refine h.advance fun d hd => hp d ?_
  rw [← List.prefix_iff_eq_take.1 (List.takeWhile_prefix p)] at hd
  exact List.mem_takeWhile_imp hd

theorem Facing.advance (h : Facing text (some d) c) (hd : d.utf8Size = 1) :
    Narrow text (c.advance 1) :=
  (h.1.1.behind.advance h.2).narrow hd

/-! ### Places of faults -/

variable {escape : Prop}

theorem At.placed_of_nil (h : At text c) (hn : none = c.ahead.head?) :
    Placed escape text.toList c.offset := by
  obtain ⟨passed, ht, ho, -⟩ := h
  rw [List.head?_eq_none_iff.1 hn.symm, List.append_nil] at ht
  rw [ho, ← ht]
  exact .ended

theorem At.placed_succ (h : At text c) (hd : some d = c.ahead.head?) :
    Placed escape text.toList (c.offset + 1) := by
  obtain ⟨passed, ht, ho, -⟩ := h
  obtain ⟨rest, hrest⟩ := List.head?_eq_some_iff.1 hd.symm
  rw [ho]
  exact .byte (hrest ▸ ht)

theorem Narrow.placed (h : Narrow text c) : Placed escape text.toList c.offset := by
  obtain ⟨⟨passed, ht, ho, hb⟩, hd⟩ := h
  rw [ho]
  rcases List.eq_nil_or_concat' passed with rfl | ⟨before, d, rfl⟩
  · exact .start
  · rw [utf8Length_append, utf8Length_cons, hd d (by rw [hb]; simp)]
    rw [List.append_assoc] at ht
    exact .byte ht

end Cursor

end DataGrammar
