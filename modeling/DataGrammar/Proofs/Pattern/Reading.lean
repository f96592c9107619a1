import DataGrammar.Proofs.Pattern.Outlook

/-!
# Texts that expressions read

Where an expression reads a text in front of what follows it, its outlook is that on the place
behind the text, if something comes of that place. Where it refuses what is ahead, nothing comes
of it, whatever would follow. Both are put together from the parts of an expression.

* `Expression.Reads` and `Expression.Refuses`, and `ReadsRow`, `RefusesRow` for rows.
* `Expression.reads_star_cons`, `Expression.reads_star_set`: rounds of an item, and a run of
  characters.
* `Expression.find?_of_readsRow`, `Expression.find?_of_capture`: the match.
-/

namespace DataGrammar.Pattern

open Outlook

/-- The character behind a place after some more characters. -/
def lastOf (behind : Option Char) : List Char → Option Char
  | [] => behind
  | c :: cs => lastOf (some c) cs

theorem lastOf_append (behind : Option Char) (a b : List Char) :
    lastOf behind (a ++ b) = lastOf (lastOf behind a) b := by
  induction a generalizing behind with
  | nil => rfl
  | cons c a ih => exact ih (some c)

theorem lastOf_eq (behind : Option Char) (text : List Char) :
    lastOf behind text = text.getLast?.or behind := by
  induction text generalizing behind with
  | nil => rfl
  | cons c cs ih =>
    rw [lastOf, ih, List.getLast?_cons]
    cases cs.getLast? <;> rfl

/-- The place behind some text. -/
def Place.past (behind : Option Char) (passed : Nat) (text rest : List Char) : Place :=
  ⟨lastOf behind text, rest, passed + text.length⟩

theorem Place.past_append (behind : Option Char) (passed : Nat) (a b rest : List Char) :
    past behind passed (a ++ b) rest = past (lastOf behind a) (passed + a.length) b rest := by
  simp only [past, lastOf_append, List.length_append, Nat.add_assoc]

namespace Expression

/-- The expression reads a text in front of what follows it. -/
def Reads (e : Expression) (text rest : List Char) : Prop :=
  ∀ behind passed (after : Outlook), (after (.past behind passed text rest)).isSome →
    e.outlook after ⟨behind, text ++ rest, passed⟩ = after (.past behind passed text rest)

/-- Expressions in a row read a text in front of what follows it, if this is behind them. -/
def ReadsRowAt (behind : Option Char) (es : List Expression) (text rest : List Char) : Prop :=
  ∀ passed (after : Outlook), (after (.past behind passed text rest)).isSome →
    outlookRow es after ⟨behind, text ++ rest, passed⟩ = after (.past behind passed text rest)

/-- Expressions in a row read a text in front of what follows it. -/
def ReadsRow (es : List Expression) (text rest : List Char) : Prop :=
  ∀ behind, ReadsRowAt behind es text rest

/-- The expression matches nothing that is ahead. -/
def Refuses (e : Expression) (ahead : List Char) : Prop :=
  ∀ behind passed (after : Outlook), e.outlook after ⟨behind, ahead, passed⟩ = none

/-- Expressions in a row match nothing that is ahead. -/
def RefusesRow (es : List Expression) (ahead : List Char) : Prop :=
  ∀ behind passed (after : Outlook), outlookRow es after ⟨behind, ahead, passed⟩ = none

variable {e item : Expression} {es branches : List Expression} {set : CharSet}
  {text more rest ahead : List Char}

/-! ### Characters and rows -/

theorem reads_chars {c : Char} (hc : set.contains c = true) : (chars set).Reads [c] rest := by
  intro behind passed after _
  exact if_pos hc

theorem refuses_chars (h : ∀ c ∈ ahead.head?, set.contains c = false) :
    (chars set).Refuses ahead := by
  intro behind passed after
  cases ahead with
  | nil => rfl
  | cons c rest => exact if_neg (Bool.eq_false_iff.1 (h c rfl))

/-- Where something comes of a character of a set, one is ahead. -/
theorem exists_of_outlook_chars {after : Outlook} {place : Place}
    (h : ((chars set).outlook after place).isSome) : ∃ c rest, place.ahead = c :: rest ∧
      set.contains c = true ∧ (after ⟨some c, rest, place.passed + 1⟩).isSome := by
  rw [outlook] at h
  dsimp only at h
  split at h
  · cases h
  · next c rest hahead =>
    split at h
    · next hc => exact ⟨c, rest, hahead, hc, h⟩
    · cases h

theorem reads_concat (h : ReadsRow es text rest) : (concat es).Reads text rest := h

theorem refuses_concat (h : RefusesRow es ahead) : (concat es).Refuses ahead := h

theorem readsRow_nil : ReadsRow [] [] rest := fun _ _ _ _ => rfl

theorem readsRow_cons (he : e.Reads text (more ++ rest)) (hes : ReadsRow es more rest) :
    ReadsRow (e :: es) (text ++ more) rest := by
  intro behind passed after hafter
  rw [Place.past_append] at hafter ⊢
  have hrow := hes (lastOf behind text) (passed + text.length) after hafter
  rw [outlookRow, List.append_assoc, he _ _ _ (by rw [Place.past, hrow]; exact hafter)]
  exact hrow

theorem readsRow_cons_nil (he : e.Reads text rest) (hes : ReadsRow es [] rest) :
    ReadsRow (e :: es) text rest := by
  have he : e.Reads text ([] ++ rest) := he
  simpa using readsRow_cons he hes

theorem readsRow_nil_cons (he : e.Reads [] (text ++ rest)) (hes : ReadsRow es text rest) :
    ReadsRow (e :: es) text rest := readsRow_cons he hes

/-- A character of a set, before others. -/
theorem readsRow_char {c : Char} (hc : set.contains c = true) (hes : ReadsRow es text rest) :
    ReadsRow (.chars set :: es) (c :: text) rest := readsRow_cons (reads_chars hc) hes

theorem readsRow_singleton (h : e.Reads text rest) : ReadsRow [e] text rest :=
  readsRow_cons_nil h readsRow_nil

theorem refusesRow_cons (h : e.Refuses ahead) : RefusesRow (e :: es) ahead :=
  fun _ _ _ => h _ _ _

/-! ### Branches -/

theorem reads_alternation_head (h : e.Reads text rest) :
    (alternation (e :: es)).Reads text rest := by
  intro behind passed after hafter
  simp only [outlook, outlookBranches, h behind passed after hafter]
  exact Option.or_of_isSome hafter

theorem reads_alternation_tail (he : e.Refuses (text ++ rest))
    (h : (alternation es).Reads text rest) : (alternation (e :: es)).Reads text rest := by
  intro behind passed after hafter
  simp only [outlook, outlookBranches, he behind passed after, Option.none_or]
  exact h behind passed after hafter

theorem refuses_alternation (h : ∀ e ∈ es, e.Refuses ahead) : (alternation es).Refuses ahead := by
  intro behind passed after
  induction es with
  | nil => rfl
  | cons e es ih =>
    obtain ⟨he, hes⟩ := List.forall_mem_cons.1 h
    simp only [outlook, outlookBranches] at ih ⊢
    rw [he, ih hes]
    rfl

/-! ### Rounds -/

/-- Any number of an item, as many as possible. -/
def star (item : Expression) : Expression := repetition 0 none true item

/-- One or more of an item, as many as possible. -/
def plus (item : Expression) : Expression := repetition 1 none true item

/-- An item if possible. -/
def optional (item : Expression) : Expression := repetition 0 (some 1) true item

theorem outlook_star (after : Outlook) (place : Place) :
    (star item).outlook after place =
      (item.outlook (below place.ahead.length ((star item).outlook after)) place).or
        (after place) :=
  endless_eq ..

theorem outlook_star_of_refuses (h : item.Refuses ahead) (behind : Option Char) (passed : Nat)
    (after : Outlook) :
    (star item).outlook after ⟨behind, ahead, passed⟩ = after ⟨behind, ahead, passed⟩ := by
  rw [outlook_star, h]
  rfl

theorem reads_star_nil (h : item.Refuses rest) : (star item).Reads [] rest :=
  fun behind passed after _ => outlook_star_of_refuses h behind passed after

/-- One round more, which passes a character. -/
theorem reads_star_cons (hne : text ≠ []) (hitem : item.Reads text (more ++ rest))
    (h : (star item).Reads more rest) : (star item).Reads (text ++ more) rest := by
  intro behind passed after hafter
  have hlt : (more ++ rest).length < (text ++ (more ++ rest)).length := by
    have := List.length_pos_iff.2 hne
    rw [← List.append_assoc]
    simp only [List.length_append]
    omega
  rw [Place.past_append] at hafter ⊢
  have hrounds := h (lastOf behind text) (passed + text.length) after hafter
  have hround := hitem behind passed (below (text ++ (more ++ rest)).length
    ((star item).outlook after)) (by rw [below, Place.past, if_pos hlt, hrounds]; exact hafter)
  rw [outlook_star, List.append_assoc, hround, below, Place.past, if_pos hlt, hrounds]
  exact Option.or_of_isSome hafter

/-- A run of characters of a set. -/
theorem reads_star_set (hc : ∀ c ∈ text, set.contains c = true)
    (hr : ∀ c ∈ rest.head?, set.contains c = false) : (star (.chars set)).Reads text rest := by
  induction text with
  | nil => exact reads_star_nil (refuses_chars hr)
  | cons c text ih =>
    obtain ⟨hc, hcs⟩ := List.forall_mem_cons.1 hc
    exact reads_star_cons (List.cons_ne_nil c []) (reads_chars hc) (ih hcs)

/-- Nothing comes of a run of characters if nothing comes of any place in it. -/
theorem refusesRow_star (hc : ∀ c ∈ text, set.contains c = true)
    (hr : ∀ c ∈ rest.head?, set.contains c = false)
    (hin : ∀ c ∈ text, ∀ tail, RefusesRow es (c :: tail)) (hrest : RefusesRow es rest) :
    RefusesRow (star (.chars set) :: es) (text ++ rest) := by
  intro behind passed after
  rw [outlookRow]
  induction text generalizing behind passed with
  | nil => exact (outlook_star_of_refuses (refuses_chars hr) ..).trans (hrest ..)
  | cons c text ih =>
    obtain ⟨hc, hcs⟩ := List.forall_mem_cons.1 hc
    obtain ⟨hin, hins⟩ := List.forall_mem_cons.1 hin
    rw [List.cons_append, outlook_star, hin, Option.or_none]
    simp only [outlook, hc, if_true, below]
    split
    · exact ih hcs hins _ _
    · rfl

/-- A first round, and more of them. -/
theorem reads_plus (hitem : item.Reads text (more ++ rest)) (h : (star item).Reads more rest) :
    (plus item).Reads (text ++ more) rest :=
  have hrow : ReadsRow [item, star item] (text ++ more) rest :=
    readsRow_cons hitem (readsRow_singleton h)
  hrow

theorem refuses_plus (h : item.Refuses ahead) : (plus item).Refuses ahead := fun _ _ _ => h _ _ _

theorem outlook_optional_of_refuses (h : item.Refuses ahead) (behind : Option Char) (passed : Nat)
    (after : Outlook) :
    (optional item).outlook after ⟨behind, ahead, passed⟩ = after ⟨behind, ahead, passed⟩ := by
  change (item.outlook _ _).or _ = _
  rw [h]
  rfl

theorem reads_optional_nil (h : item.Refuses rest) : (optional item).Reads [] rest :=
  fun behind passed after _ => outlook_optional_of_refuses h behind passed after

/-- An item that is possible. -/
theorem reads_optional (h : item.Reads text rest) : (optional item).Reads text rest := by
  intro behind passed after hafter
  change (item.outlook after _).or _ = _
  rw [h _ _ _ hafter]
  exact Option.or_of_isSome hafter

theorem refusesRow_optional (h : item.Refuses ahead) (hes : RefusesRow es ahead) :
    RefusesRow (optional item :: es) ahead :=
  fun _ _ _ => (outlook_optional_of_refuses h ..).trans (hes ..)

/-! ### Words -/

/-- The characters of a word. -/
def word (letters : List Char) : Expression := concat (letters.map fun c => chars (.singleton c))

theorem contains_singleton (c d : Char) : (CharSet.singleton c).contains d = decide (d = c) := by
  simp only [CharSet.contains, CharSet.singleton, CharSet.interval, CharSet.memberOf]
  split
  · next h => exact (decide_eq_false (by rintro rfl; exact Nat.lt_irrefl _ h)).symm
  · next h =>
    split
    · next h' => exact (decide_eq_true (Char.toNat_inj.1 (by omega))).symm
    · next h' => exact (decide_eq_false (by rintro rfl; exact h' (Nat.le_refl _))).symm

theorem reads_word (letters rest : List Char) : (word letters).Reads letters rest := by
  induction letters with
  | nil => exact readsRow_nil
  | cons c letters ih => exact readsRow_char (by simp [contains_singleton]) ih

/-- Nothing comes of a word where it is not ahead, or where nothing comes of the place behind
it. -/
theorem outlook_word_eq_none {letters : List Char} {after : Outlook} {behind : Option Char}
    {passed : Nat} (h : ∀ rest, ahead = letters ++ rest →
      after (.past behind passed letters rest) = none) :
    (word letters).outlook after ⟨behind, ahead, passed⟩ = none := by
  induction letters generalizing behind ahead passed with
  | nil => exact h ahead rfl
  | cons c letters ih =>
    cases ahead with
    | nil => rfl
    | cons d ahead =>
      change (if (CharSet.singleton c).contains d then _ else none) = none
      split
      · next hc =>
        obtain rfl : d = c := by simpa [contains_singleton] using hc
        refine ih fun rest hrest => ?_
        have := h rest (by rw [hrest, List.cons_append])
        rwa [← List.singleton_append, Place.past_append] at this
      · rfl

/-! ### Matches -/

theorem find?_of_reads (h : e.Reads text rest) (behind : Option Char) :
    e.find? behind (text ++ rest) = some ⟨text.length, ⟨none, none⟩⟩ := by
  rw [find?, h behind 0 accept rfl]
  simp [accept, Place.past]

theorem find?_of_refuses (h : e.Refuses ahead) (behind : Option Char) :
    e.find? behind ahead = none := by
  rw [find?, h]
  rfl

theorem outlookRow_append (es fs : List Expression) (after : Outlook) :
    outlookRow (es ++ fs) after = outlookRow es (outlookRow fs after) := by
  induction es with
  | nil => rfl
  | cons e es ih => rw [List.cons_append, outlookRow, outlookRow, ih]

theorem anyHasCapture_append (es fs : List Expression) :
    anyHasCapture (es ++ fs) = (anyHasCapture es || anyHasCapture fs) := by
  induction es with
  | nil => rfl
  | cons e es ih => rw [List.cons_append, anyHasCapture, anyHasCapture, ih, Bool.or_assoc]

/-- **The match of a row with a capture group.** -/
theorem find?_of_capture {es fs : List Expression} {before inside after rest : List Char}
    (hes : ReadsRow es before (inside ++ (after ++ rest)))
    (hitem : item.Reads inside (after ++ rest)) (behind : Option Char)
    (hfs : ReadsRowAt (lastOf (lastOf behind before) inside) fs after rest) :
    (concat (es ++ capture 1 item :: fs)).find? behind (before ++ (inside ++ (after ++ rest))) =
      some ⟨before.length + inside.length + after.length,
        ⟨some before.length, some (before.length + inside.length)⟩⟩ := by
  have hafter := hfs (before.length + inside.length) accept rfl
  have hinside := hitem (lastOf behind before) before.length
    (fun stop => Ending.closing stop.passed (outlookRow fs accept stop))
    (by rw [Place.past, hafter]; rfl)
  rw [Place.past, hafter] at hinside
  have hrow : outlookRow (capture 1 item :: fs) accept
      (.past behind 0 before (inside ++ (after ++ rest))) =
      some fun _ => ⟨before.length + inside.length + after.length,
        ⟨some before.length, some (before.length + inside.length)⟩⟩ := by
    rw [outlookRow, outlook, if_pos rfl, Place.past, Nat.zero_add, hinside]
    rfl
  rw [find?, outlook, outlookRow_append, hes behind 0 _ (by rw [hrow]; rfl), hrow]
  rfl

end Expression
end DataGrammar.Pattern
