import DataGrammar.Json.Reader
import DataGrammar.Proofs.Json.Written
import DataGrammar.Proofs.Text.Boundary

/-!
# Reading the tokens of JSON

What single steps of the reader of JSON make of a text. A step is described by the text that it
passes, by what follows and by what it gives; so steps are put together as the texts are.

* `Yields step text rest a?`: what a step makes of a text in front of what follows it.
* `yields_token?`: blanks are passed as far as they go.
* `yields_readString`, `yields_readChars`: strings, whatever way their characters are written.
* `Numeral.yields_read`: whole numbers.
-/

namespace DataGrammar

/-! ### Steps -/

/-- The step meets a text in front of what follows it, passes the text and gives `a?`; where this
is nothing, it stops with an error. -/
def Yields {ε α : Type} (step : StateT Cursor (Except ε) α) (text rest : List Char)
    (a? : Option α) : Prop :=
  ∀ c : Cursor, c.ahead = text ++ rest →
    (step c).toOption = a?.map fun a => (a, c.advance text.length)

namespace Yields

variable {ε α β : Type} {step : StateT Cursor (Except ε) α} {f : α → StateT Cursor (Except ε) β}
  {text more rest : List Char} {a : α} {b? : Option β}

theorem pure (a : α) : Yields (Pure.pure a : StateT Cursor (Except ε) α) [] rest (some a) :=
  fun _ _ => rfl

/-- One step after the other. -/
theorem bind {a? : Option α} {b? : α → Option β} (h : Yields step text (more ++ rest) a?)
    (hf : ∀ a, a? = some a → Yields (f a) more rest (b? a)) :
    Yields (step >>= f) (text ++ more) rest (a?.bind b?) := by
  intro c hc
  rw [List.append_assoc] at hc
  have hstep := h c hc
  change (step c >>= fun p => f p.1 p.2).toOption = _
  cases a? with
  | none =>
    cases hs : step c with
    | error e => rfl
    | ok p => rw [hs] at hstep; cases hstep
  | some a =>
    cases hs : step c with
    | error e => rw [hs] at hstep; cases hstep
    | ok p =>
      rw [hs] at hstep
      obtain rfl : p = (a, c.advance text.length) := Option.some.inj hstep
      rw [List.length_append, Cursor.advance_add]
      exact hf a rfl _ (Cursor.ahead_advance hc)

/-- A step that goes well, and what comes after it. -/
theorem andThen (h : Yields step text (more ++ rest) (some a)) (hf : Yields (f a) more rest b?) :
    Yields (step >>= f) (text ++ more) rest b? :=
  bind h fun _ ha => Option.some.inj ha ▸ hf

/-- A step that passes one character, and what comes after it. -/
theorem head {c : Char} (h : Yields step [c] (more ++ rest) (some a))
    (hf : Yields (f a) more rest b?) : Yields (step >>= f) (c :: more) rest b? :=
  andThen h hf

/-- A step that passes nothing, and what comes after it. -/
theorem peek (h : Yields step [] (more ++ rest) (some a)) (hf : Yields (f a) more rest b?) :
    Yields (step >>= f) more rest b? :=
  andThen h hf

/-- A step, and one after it that passes nothing. -/
theorem last (h : Yields step text rest (some a)) (hf : Yields (f a) [] rest b?) :
    Yields (step >>= f) text rest b? := by
  have hboth : Yields (step >>= f) (text ++ []) rest b? := andThen h hf
  rwa [List.append_nil] at hboth

/-- What a step gives is changed. -/
theorem map {a? : Option α} (h : Yields step text rest a?) (g : α → β) :
    Yields (step >>= fun a => Pure.pure (g a)) text rest (a?.map g) := by
  have hboth : Yields (step >>= fun a => Pure.pure (g a)) (text ++ []) rest
      (a?.bind fun a => some (g a)) := bind h fun a _ => pure (g a)
  rw [List.append_nil] at hboth
  rwa [Option.map_eq_bind]

/-- What a step gives is kept while something more is passed. -/
theorem keep {a? : Option α} {done : StateT Cursor (Except ε) Unit}
    (h : Yields step text (more ++ rest) a?) (hd : Yields done more rest (some ())) (g : α → β) :
    Yields (step >>= fun a => done >>= fun _ => Pure.pure (g a)) (text ++ more) rest
      (a?.map g) := by
  rw [Option.map_eq_bind]
  exact bind h fun a _ => map hd fun _ => g a

end Yields

namespace Json

open Read

variable {text rest blanks : List Char} {c : Char}

theorem yields_ahead : Yields ahead [] rest (some rest) := by
  rintro c rfl
  rfl

theorem yields_next? : Yields next? [] rest (some rest.head?) := by
  rintro c rfl
  rfl

theorem yields_pass (text : List Char) : Yields (pass text.length) text rest (some ()) :=
  fun _ _ => rfl

/-- What a text starts with is found as far as it goes. -/
theorem takeWhile_append_eq {p : Char → Bool} (ht : ∀ c ∈ text, p c = true)
    (hr : ∀ c ∈ rest.head?, p c = false) : (text ++ rest).takeWhile p = text := by
  rw [List.takeWhile_append_of_pos ht]
  cases rest with
  | nil => rw [List.takeWhile_nil, List.append_nil]
  | cons c rest => rw [List.takeWhile_cons_of_neg (by simp [hr c rfl]), List.append_nil]

/-- A text that goes on with something but a blank. -/
def Unblank (text : List Char) : Prop := ∀ c ∈ text.head?, isBlank c = false

/-- Blanks are passed as far as they go. -/
theorem yields_token? (hb : Blank isBlank blanks) (hr : Unblank rest) :
    Yields token? blanks rest (some rest.head?) := by
  refine Yields.peek yields_ahead ?_
  rw [takeWhile_append_eq hb hr]
  exact Yields.last (yields_pass blanks) yields_next?

/-! ### Strings -/

theorem length_le_utf8Length (chars : List Char) : chars.length ≤ utf8Length chars := by
  induction chars with
  | nil => exact Nat.le_refl 0
  | cons c cs ih =>
    have hc := c.utf8Size_pos
    rw [List.length_cons, utf8Length_cons]
    omega

theorem yields_readHex {code : Nat} {digits : List Char} (h : Hex code digits) :
    Yields readHex digits rest (some code) := by
  obtain ⟨hlength, hvalue⟩ := h
  have htake : (digits ++ rest).take 4 = digits := by rw [← hlength, List.take_left]
  have hbytes : ¬ utf8Length digits < 4 := by
    have := length_le_utf8Length digits
    omega
  refine Yields.peek yields_ahead ?_
  simp only [htake, if_neg hbytes, hvalue]
  rw [← hlength]
  exact Yields.map (yields_pass digits) fun _ => code

/-- No character is a surrogate. -/
theorem isValidChar_toNat (c : Char) :
    c.toNat < 0xD800 ∨ (0xDFFF < c.toNat ∧ c.toNat < 0x110000) := c.valid

theorem isTrailing_toNat (c : Char) : isTrailing c.toNat = false := by
  have := isValidChar_toNat c
  simp only [isTrailing, Bool.and_eq_false_imp, decide_eq_true_eq, decide_eq_false_iff_not]
  omega

theorem isLeading_toNat (c : Char) : isLeading c.toNat = false := by
  have := isValidChar_toNat c
  simp only [isLeading, Bool.and_eq_false_imp, decide_eq_true_eq, decide_eq_false_iff_not]
  omega

/-- The code of a character that takes one escape. -/
theorem yields_readCode {digits : List Char} (h : Hex c.toNat digits) :
    Yields readCode digits rest (some c) := by
  refine Yields.last (yields_readHex h) ?_
  simp only [isTrailing_toNat, isLeading_toNat, Bool.false_eq_true, if_false]
  rw [Char.ofNat_toNat]
  exact Yields.pure c

theorem yields_expectInPair (c : Char) : Yields (expectInPair c) [c] rest (some ()) := by
  refine Yields.peek yields_next? ?_
  simp only [List.cons_append, List.head?_cons, if_true]
  exact yields_pass [c]

/-- The codes of a character that takes two escapes. -/
theorem yields_readCode_pair {high low : List Char} (hc : 0x10000 ≤ c.toNat)
    (hh : Hex (leading c) high) (hl : Hex (trailing c) low) :
    Yields readCode (high ++ '\\' :: 'u' :: low) rest (some c) := by
  -- Both halves lie in their ranges as `c` takes more than 16 bits and no more than 21.
  have hvalid := isValidChar_toNat c
  have hlead : 0xD800 ≤ leading c ∧ leading c ≤ 0xDBFF := by
    unfold leading
    omega
  have htrail : 0xDC00 ≤ trailing c ∧ trailing c ≤ 0xDFFF := by
    unfold trailing
    omega
  have hleading : isTrailing (leading c) = false ∧ isLeading (leading c) = true := by
    simp only [isTrailing, isLeading, Bool.and_eq_true, Bool.and_eq_false_imp, decide_eq_true_eq,
      decide_eq_false_iff_not]
    omega
  have htrailing : isTrailing (trailing c) = true := by
    simp only [isTrailing, Bool.and_eq_true, decide_eq_true_eq]
    omega
  have hvalue : (leading c - 0xD800) * 0x400 + (trailing c - 0xDC00) + 0x10000 = c.toNat := by
    simp only [leading, trailing]
    omega
  refine Yields.andThen (yields_readHex hh) ?_
  simp only [hleading, Bool.false_eq_true, if_false, if_true]
  refine Yields.head (yields_expectInPair _) (Yields.head (yields_expectInPair _) ?_)
  refine Yields.last (yields_readHex hl) ?_
  simp only [htrailing, if_true, hvalue]
  rw [Char.ofNat_toNat]
  exact Yields.pure c

theorem yields_readEscape {letter : Char} (h : (letter, c) ∈ escapes) :
    Yields readEscape [letter] rest (some c) := by
  simp only [escapes, List.mem_cons, Prod.mk.injEq, List.not_mem_nil, or_false] at h
  rcases h with ⟨rfl, rfl⟩ | ⟨rfl, rfl⟩ | ⟨rfl, rfl⟩ | ⟨rfl, rfl⟩ | ⟨rfl, rfl⟩ | ⟨rfl, rfl⟩ |
    ⟨rfl, rfl⟩ | ⟨rfl, rfl⟩
  all_goals exact Yields.peek yields_next? (Yields.map (yields_pass [_]) fun _ => _)

theorem yields_readEscape_code {digits : List Char} (h : Yields readCode digits rest (some c)) :
    Yields readEscape ('u' :: digits) rest (some c) :=
  Yields.peek yields_next? (Yields.head (yields_pass ['u']) h)

/-- The characters of a string after an escape. -/
theorem yields_readChars_escape {fuel : Nat} (escape : List Char) {body content : List Char}
    (h : Yields readEscape escape (body ++ ['"'] ++ rest) (some c))
    (hb : Yields (readChars fuel) (body ++ ['"']) rest (some content)) :
    Yields (readChars (fuel + 1)) ('\\' :: (escape ++ body) ++ ['"']) rest (some (c :: content)) := by
  refine Yields.peek yields_next? ?_
  rw [List.cons_append, List.append_assoc]
  exact Yields.head (yields_pass ['\\']) (Yields.andThen h (Yields.map hb (c :: ·)))

/-- **The characters of a string are read.** -/
theorem yields_readChars {content body : List Char} (h : TextBody content body) {fuel : Nat}
    (hf : body.length < fuel) : Yields (readChars fuel) (body ++ ['"']) rest (some content) := by
  induction h generalizing fuel with
  | nil =>
    obtain ⟨fuel, rfl⟩ := Nat.exists_eq_succ_of_ne_zero (Nat.ne_zero_of_lt hf)
    exact Yields.peek yields_next? (Yields.map (yields_pass ['"']) fun _ => [])
  | @plain c content body hq hb hc h ih =>
    obtain ⟨fuel, rfl⟩ := Nat.exists_eq_succ_of_ne_zero (Nat.ne_zero_of_lt hf)
    refine Yields.peek yields_next? ?_
    simp only [List.cons_append, List.head?_cons]
    rw [if_neg (Nat.not_lt.2 hc)]
    exact Yields.head (yields_pass [c]) (Yields.map (ih (Nat.lt_of_succ_lt_succ hf)) (c :: ·))
  | escape he h ih =>
    obtain ⟨fuel, rfl⟩ := Nat.exists_eq_succ_of_ne_zero (Nat.ne_zero_of_lt hf)
    simp only [List.length_cons] at hf
    exact yields_readChars_escape [_] (yields_readEscape he) (ih (by omega))
  | @code c content digits body hd h ih =>
    obtain ⟨fuel, rfl⟩ := Nat.exists_eq_succ_of_ne_zero (Nat.ne_zero_of_lt hf)
    simp only [List.length_cons, List.length_append] at hf
    exact yields_readChars_escape ('u' :: digits)
      (yields_readEscape_code (yields_readCode hd)) (ih (by omega))
  | @pair c content high low body hc hh hl h ih =>
    obtain ⟨fuel, rfl⟩ := Nat.exists_eq_succ_of_ne_zero (Nat.ne_zero_of_lt hf)
    simp only [List.length_cons, List.length_append] at hf
    have hbody : Yields (readChars fuel) (body ++ ['"']) rest (some content) := ih (by omega)
    have hread := yields_readChars_escape ('u' :: (high ++ '\\' :: 'u' :: low))
      (yields_readEscape_code (yields_readCode_pair hc hh hl)) hbody
    simpa only [List.cons_append, List.append_assoc] using hread

/-- **A string is read.** -/
theorem yields_readString {content : String} (h : TextWritten content text) :
    Yields readString text rest (some content) := by
  obtain ⟨body, hbody, rfl⟩ := h
  have hfuel : body.length < (body ++ ['"'] ++ rest).length + 1 := by
    simp only [List.length_append]
    omega
  refine Yields.head (yields_pass ['"']) (Yields.peek yields_ahead ?_)
  rw [← String.ofList_toList (s := content)]
  exact Yields.map (yields_readChars hbody hfuel) String.ofList

/-! ### Numbers -/

/-- What follows does not go on with a number. -/
def EndsNumber (text : List Char) : Prop :=
  ∀ c ∈ text.head?, c.isDigit = false ∧ c ≠ '.' ∧ c ≠ 'e' ∧ c ≠ 'E'

namespace Numeral

theorem le_foldl (n : Nat) (digits : List Char) :
    n ≤ digits.foldl (fun n c => n * 10 + (c.toNat - 0x30)) n := by
  induction digits generalizing n with
  | nil => exact Nat.le_refl n
  | cons d digits ih => exact Nat.le_trans (by omega) (ih (n * 10 + (d.toNat - 0x30)))

/-- Digits of which the value is in range are all appended. -/
theorem append_of_le {limit n : Nat} {digits : List Char}
    (h : digits.foldl (fun n c => n * 10 + (c.toNat - 0x30)) n ≤ limit) :
    append limit n digits = (digits.foldl (fun n c => n * 10 + (c.toNat - 0x30)) n, []) := by
  induction digits generalizing n with
  | nil => rfl
  | cons d digits ih =>
    have hd : n * 10 + digitValue d ≤ limit := Nat.le_trans (le_foldl _ digits) h
    rw [append, if_pos hd]
    exact ih h

theorem yields_digits (hd : ∀ c ∈ text, c.isDigit = true)
    (hr : ∀ c ∈ rest.head?, c.isDigit = false) : Yields digits text rest (some text) := by
  refine Yields.peek yields_ahead ?_
  rw [takeWhile_append_eq hd hr]
  exact Yields.map (yields_pass text) fun _ => text

/-- What does not go on with a number ends it. -/
theorem yields_end {j : Json} {places exponent : Read Json} (hr : EndsNumber rest) :
    Yields (do
      match ← next? with
      | some '.' => places
      | some 'e' | some 'E' => exponent
      | _ => return j) [] rest (some j) := by
  refine Yields.peek yields_next? ?_
  cases rest with
  | nil => exact Yields.pure j
  | cons d rest =>
    obtain ⟨-, hpoint, hmark, hmark'⟩ := hr d rfl
    rw [List.nil_append, List.head?_cons]
    split
    · next he => exact absurd (Option.some.inj he) hpoint
    · next he => exact absurd (Option.some.inj he) hmark
    · next he => exact absurd (Option.some.inj he) hmark'
    · exact Yields.pure j

/-- **A whole number is read** in front of what does not go on with it. -/
theorem yields_read {n : Nat} (h : Whole n text) (hn : n ≤ greatest) (hr : EndsNumber rest) :
    Yields (read false) text rest (some (.integer n)) := by
  obtain ⟨hne, hdigits, hzero, rfl⟩ := h
  obtain ⟨c, more, rfl⟩ := List.exists_cons_of_ne_nil hne
  have hc := hdigits c (List.mem_cons_self ..)
  have happend : append greatest 0 (c :: more) = (Number.digitsValue (c :: more), []) :=
    append_of_le hn
  refine Yields.peek yields_next? ?_
  simp only [List.cons_append, List.head?_cons, hc, Bool.not_true, Bool.false_eq_true, if_false]
  by_cases hz : c = '0'
  · -- A zero is the whole number: a digit behind it would be refused.
    subst hz
    obtain rfl : more = [] := by simpa using hzero rfl
    simp only [if_true, pure_bind, happend, List.isEmpty_nil]
    refine Yields.last (yields_pass ['0']) (Yields.peek yields_next? ?_)
    cases rest with
    | nil => exact yields_end hr
    | cons d rest =>
      simp only [List.nil_append, List.head?_cons, (hr d rfl).1, Bool.false_eq_true, if_false]
      exact yields_end hr
  · simp only [if_neg hz]
    refine Yields.last (yields_digits hdigits fun c hc => (hr c hc).1) ?_
    simp only [happend, List.isEmpty_nil, if_true]
    exact yields_end hr

end Numeral

end Json
end DataGrammar
