import DataGrammar.Proofs.Json.Reading
import DataGrammar.Proofs.Text.Stopping

/-!
# Where JSON texts have faults

What every step of the reader of JSON requires and ensures. Strings aside, the cursor stands behind
a character of one byte all the time, so that a fault just before the cursor is the fault of a byte
with which a character begins.

* `Json.Sited`: errors that lie where they may lie in a text.
* `Json.triple_readString`, `Json.Numeral.triple_read`: strings and numbers.
* `Json.triple_loop`: the entries of arrays and objects.
* `Json.triple_readValue`: values.
-/

namespace DataGrammar

namespace Json

open Read Cursor

variable {text : String} {α : Type} {pre : Cursor → Prop} {post : α → Cursor → Prop}
  {fault : Fault}

/-- The error lies at a place of the text where it may lie. -/
def Sited (text : String) (e : Error) : Prop :=
  Placed (e.fault = .invalidEscape) text.toList e.offset

/-! ### Looking and passing -/

theorem placed_nextOffset {escape : Prop} {c : Cursor} (h : At text c) :
    Placed escape text.toList (nextOffset c) := by
  unfold nextOffset
  cases ha : c.ahead with
  | nil => exact h.placed_of_nil (by rw [ha]; rfl)
  | cons d rest => exact h.placed_succ (d := d) (by rw [ha]; rfl)

theorem triple_ahead {kind : Error → Prop} :
    Triple kind pre ahead fun a c => a = c.ahead ∧ pre c := fun _ hc => ⟨rfl, hc⟩

theorem triple_offset {kind : Error → Prop} :
    Triple kind pre offset fun n c => n = c.offset ∧ pre c := fun _ hc => ⟨rfl, hc⟩

theorem triple_next? {kind : Error → Prop} :
    Triple kind pre next? fun a c => a = c.ahead.head? ∧ pre c := fun _ hc => ⟨rfl, hc⟩

/-- Look at the next character where the one before it has one byte. -/
theorem triple_next?_facing {kind : Error → Prop} :
    Triple kind (Narrow text) next? (Facing text) := fun _ hc => ⟨hc, rfl⟩

theorem triple_pass {kind : Error → Prop} (post : Unit → Cursor → Prop) {n : Nat}
    (h : ∀ c, pre c → post () (c.advance n)) : Triple kind pre (pass n) post := h

theorem triple_fail (h : ∀ c, pre c → Sited text ⟨fault, c.offset⟩) :
    Triple (Sited text) pre (fail fault : Read α) post := h

theorem triple_failAt {n : Nat} (h : ∀ c, pre c → Sited text ⟨fault, c.offset + n⟩) :
    Triple (Sited text) pre (do failAt fault ((← offset) + n) : Read α) post := h

/-- Where the text ends. -/
theorem triple_failEnd (h : ∀ c, pre c → At text c ∧ none = c.ahead.head?) :
    Triple (Sited text) pre (fail fault : Read α) post :=
  triple_fail fun c hc => (h c hc).1.placed_of_nil (h c hc).2

/-- Where the next byte is at fault, if there is one. -/
theorem triple_failNext (h : ∀ c, pre c → At text c) :
    Triple (Sited text) pre (failNext fault : Read α) post := fun c hc => placed_nextOffset (h c hc)

/-- Where the next byte is at fault, and there is one. -/
theorem triple_failAfter {d : Char} (h : ∀ c, pre c → At text c ∧ some d = c.ahead.head?) :
    Triple (Sited text) pre (do failAt fault ((← offset) + 1) : Read α) post :=
  triple_failAt fun c hc => (h c hc).1.placed_succ (h c hc).2

theorem utf8Size_of_isDigit {c : Char} (h : c.isDigit = true) : c.utf8Size = 1 := by
  simp only [Char.isDigit, Bool.and_eq_true, decide_eq_true_eq] at h
  exact utf8Size_of_le (d := '9') h.2 rfl

theorem utf8Size_of_isBlank {c : Char} (h : isBlank c = true) : c.utf8Size = 1 := by
  simp only [isBlank, Bool.or_eq_true, beq_iff_eq] at h
  obtain ((rfl | rfl) | rfl) | rfl := h
  all_goals rfl

theorem triple_token? : Triple (Sited text) (Narrow text) token? (Facing text) := by
  unfold token?
  refine Triple.bind triple_ahead fun left => ?_
  refine Triple.bind (triple_pass (fun _ => Narrow text) ?_) fun _ => ?_
  · rintro c ⟨rfl, hc⟩
    exact hc.advance_takeWhile fun _ => utf8Size_of_isBlank
  · exact triple_next?_facing

/-- Pass the next character, which has one byte. -/
theorem triple_pass_facing {d : Char} (hd : d.utf8Size = 1) :
    Triple (Sited text) (Facing text (some d)) (pass 1) fun _ => Narrow text :=
  triple_pass _ fun _ h => h.advance hd

/-! ### Strings -/

/-- Besides, fewer characters are left than this. -/
def Left (pre : Cursor → Prop) (fuel : Nat) (c : Cursor) : Prop := pre c ∧ c.ahead.length < fuel

theorem length_ahead_advance (c : Cursor) (n : Nat) :
    (c.advance n).ahead.length ≤ c.ahead.length := by
  rw [ahead_advance_eq_drop, List.length_drop]
  exact Nat.sub_le ..

theorem utf8Size_of_hexDigit? {c : Char} {n : Nat} (h : hexDigit? c = some n) :
    c.utf8Size = 1 := by
  unfold hexDigit? at h
  split at h
  · next hc => exact utf8Size_of_le hc.2 rfl
  · split at h
    · next hc => exact utf8Size_of_le hc.2 rfl
    · split at h
      · next hc => exact utf8Size_of_le hc.2 rfl
      · cases h

/-- Only digits have a value. -/
theorem utf8Size_of_hexValue? {digits : List Char} {n : Nat} (h : hexValue? digits = some n) :
    ∀ d ∈ digits, d.utf8Size = 1 := by
  unfold hexValue? at h
  generalize 0 = start at h
  induction digits generalizing start with
  | nil => exact nofun
  | cons d digits ih =>
    rw [List.foldlM_cons] at h
    obtain ⟨next, hnext, hrest⟩ := Option.bind_eq_some_iff.1 h
    obtain ⟨value, hvalue, -⟩ := Option.map_eq_some_iff.1 hnext
    exact List.forall_mem_cons.2 ⟨utf8Size_of_hexDigit? hvalue, ih _ hrest⟩

/-- The four bytes of an escape are its digits, or they are at fault, or the text ends. -/
theorem triple_readHex (fuel : Nat) :
    Triple (Sited text) (Left (Behind text ['\\', 'u']) fuel) readHex
      fun _ => Left (Narrow text) fuel := by
  unfold readHex
  refine Triple.bind triple_ahead fun left => ?_
  dsimp only
  split
  · next hshort =>
    refine triple_failAt ?_
    rintro c ⟨rfl, h, -⟩
    -- Four characters have four bytes at least, so there are fewer, and they end the text.
    have hall : c.ahead.take 4 = c.ahead := by
      have := length_le_utf8Length (c.ahead.take 4)
      rw [List.length_take] at this
      exact List.take_of_length_le (by omega)
    obtain ⟨passed, ht, ho, -⟩ := h.at
    have hend : c.offset + utf8Length (c.ahead.take 4) = utf8Length text.toList := by
      rw [hall, ht, ho, utf8Length_append]
    rw [Sited, hend]
    exact .ended
  · next hlong =>
    split
    · next n hn =>
      refine Triple.bind (triple_pass (fun _ => Left (Narrow text) fuel) ?_)
        fun _ => Triple.pure fun _ h => h
      rintro c ⟨rfl, h, hleft⟩
      have hnarrow : Narrow text c := @Behind.narrow text c 'u' ['\\'] h rfl
      exact ⟨hnarrow.advance (utf8Size_of_hexValue? hn),
        (length_ahead_advance c 4).trans_lt hleft⟩
    · refine triple_failAt ?_
      rintro c ⟨rfl, ⟨passed, ht, ho, -⟩, -⟩
      have hbytes : utf8Length (c.ahead.take 4) ≤ utf8Length c.ahead := by
        conv_rhs => rw [← List.take_append_drop 4 c.ahead, utf8Length_append]
        exact Nat.le_add_right ..
      rw [Sited, ho, utf8Length_append]
      exact .digits ht ((Nat.not_lt.1 hlong).trans hbytes) rfl

/-- A character between the two escapes of a pair. -/
theorem triple_expectInPair {d : Char} {word : List Char} (fuel : Nat) :
    Triple (Sited text) (Left (Behind text word) fuel) (expectInPair d)
      fun _ => Left (Behind text (word ++ [d])) fuel := by
  unfold expectInPair
  refine Triple.bind triple_next? fun next => ?_
  split
  · exact triple_failEnd fun c h => ⟨h.2.1.at, h.1⟩
  · next d' =>
    split
    · next hd =>
      subst hd
      exact triple_pass _ fun c h => ⟨h.2.1.advance h.1, (length_ahead_advance c 1).trans_lt h.2.2⟩
    · exact triple_failAfter fun c h => ⟨h.2.1.at, h.1⟩

theorem triple_readCode (fuel : Nat) :
    Triple (Sited text) (Left (Behind text ['\\', 'u']) fuel) readCode
      fun _ => Left (Narrow text) fuel := by
  have hlone : ∀ {fault}, Triple (Sited text) (Left (Narrow text) fuel) (fail fault : Read Char)
      fun _ => Left (Narrow text) fuel := triple_fail fun _ h => h.1.placed
  unfold readCode
  refine Triple.bind (triple_readHex fuel) fun code => ?_
  split
  · exact hlone
  · split
    · refine Triple.bind (Triple.require (triple_expectInPair fuel) fun c h => ⟨h.1.1.behind, h.2⟩)
        fun _ => ?_
      refine Triple.bind (triple_expectInPair fuel) fun _ => ?_
      refine Triple.bind (triple_readHex fuel) fun second => ?_
      split
      · exact Triple.pure fun _ h => h
      · exact hlone
    · exact Triple.pure fun _ h => h

theorem triple_readEscape (fuel : Nat) :
    Triple (Sited text) (Left (Behind text ['\\']) fuel) readEscape
      fun _ => Left (Narrow text) fuel := by
  have hpass : ∀ {d : Char} (e : Char), d.utf8Size = 1 → Triple (Sited text)
      (fun c => some d = c.ahead.head? ∧ Left (Behind text ['\\']) fuel c)
      (do pass 1; return e) fun _ => Left (Narrow text) fuel := by
    intro d e hd
    refine Triple.map (fun _ => e) (triple_pass _ ?_)
    exact fun c h => ⟨(h.2.1.advance h.1).narrow hd, (length_ahead_advance c 1).trans_lt h.2.2⟩
  unfold readEscape
  refine Triple.bind triple_next? fun next => ?_
  split
  · exact triple_failEnd fun c h => ⟨h.2.1.at, h.1⟩
  · exact hpass _ rfl
  · exact hpass _ rfl
  · exact hpass _ rfl
  · exact hpass _ rfl
  · exact hpass _ rfl
  · exact hpass _ rfl
  · exact hpass _ rfl
  · exact hpass _ rfl
  · refine Triple.bind (triple_pass _ ?_) fun _ => triple_readCode fuel
    exact fun c h => ⟨h.2.1.advance h.1, (length_ahead_advance c 1).trans_lt h.2.2⟩
  · exact triple_failAfter fun c h => ⟨h.2.1.at, h.1⟩

theorem length_ahead_advance_lt {c : Cursor} {d : Char} {fuel : Nat} (hd : some d = c.ahead.head?)
    (h : c.ahead.length < fuel + 1) : (c.advance 1).ahead.length < fuel := by
  obtain ⟨rest, hrest⟩ := List.head?_eq_some_iff.1 hd.symm
  rw [hrest, List.length_cons] at h
  rw [ahead_advance_eq_drop, hrest, List.drop_one, List.tail_cons]
  omega

theorem triple_readChars (fuel : Nat) :
    Triple (Sited text) (Left (At text) fuel) (readChars fuel) fun _ => Narrow text := by
  -- Every round passes a character, so the fuel lasts; without any the cursor could stand behind a
  -- character of several bytes, where nothing may be at fault.
  induction fuel with
  | zero => exact fun c h => absurd h.2 (Nat.not_lt_zero _)
  | succ fuel ih =>
    unfold readChars
    refine Triple.bind triple_next? fun next => ?_
    split
    · exact triple_failEnd fun c h => ⟨h.2.1, h.1⟩
    · refine Triple.map (fun _ => []) (triple_pass _ ?_)
      exact fun c h => (h.2.1.behind.advance h.1).narrow rfl
    · refine Triple.bind (triple_pass (fun _ => Left (Behind text ['\\']) fuel) ?_) fun _ => ?_
      · exact fun c h => ⟨h.2.1.behind.advance h.1, length_ahead_advance_lt h.1 h.2.2⟩
      refine Triple.bind (triple_readEscape fuel) fun e => ?_
      exact Triple.map (e :: ·) (ih.require fun c h => ⟨h.1.1, h.2⟩)
    · next d _ _ =>
      split
      · exact triple_failAfter fun c h => ⟨h.2.1, h.1⟩
      · refine Triple.bind (triple_pass (fun _ => Left (At text) fuel) ?_) fun _ => ?_
        · exact fun c h => ⟨h.2.1.advance 1, length_ahead_advance_lt h.1 h.2.2⟩
        exact Triple.map (d :: ·) ih

/-- **Strings are read up to their closing quote**, which is a single byte. -/
theorem triple_readString :
    Triple (Sited text) (Narrow text) readString fun _ => Narrow text := by
  unfold readString
  refine Triple.bind (triple_pass (fun _ => At text) fun c h => h.1.advance 1) fun _ => ?_
  refine Triple.bind triple_ahead fun left => ?_
  refine Triple.map String.ofList ((triple_readChars _).require ?_)
  rintro c ⟨rfl, h⟩
  exact ⟨h, Nat.lt_succ_self _⟩

/-! ### Words and numbers -/

theorem triple_expectWord {word : List Char} (hw : ∀ d ∈ word, d.utf8Size = 1) :
    Triple (Sited text) (Narrow text) (expectWord word) fun _ => Narrow text := by
  induction word with
  | nil => exact Triple.pure fun _ h => h
  | cons d word ih =>
    unfold expectWord
    refine Triple.bind triple_next?_facing fun next => ?_
    split
    · exact triple_failEnd fun c h => ⟨h.1.1, h.2⟩
    · split
      · next hd =>
        subst hd
        obtain ⟨hd, hword⟩ := List.forall_mem_cons.1 hw
        exact Triple.bind (triple_pass_facing hd) fun _ => ih hword
      · exact triple_failAfter fun c h => ⟨h.1.1, h.2⟩

namespace Numeral

/-- The digits behind a place have just been passed. -/
def Passed (text : String) (start : Nat) (ds : List Char) (c : Cursor) : Prop :=
  Narrow text c ∧ ∃ before rest, text.toList = before ++ (ds ++ rest) ∧
    start = utf8Length before ∧ ∀ d ∈ ds, d.isDigit = true

theorem triple_digits (start : Nat) :
    Triple (Sited text) (fun c => start = c.offset ∧ Narrow text c) digits
      (Passed text start) := by
  unfold digits
  refine Triple.bind triple_ahead fun left => ?_
  refine Triple.map (fun _ => _) (triple_pass _ ?_)
  rintro c ⟨rfl, hstart, h⟩
  refine ⟨h.advance_takeWhile fun _ => utf8Size_of_isDigit, ?_⟩
  obtain ⟨before, ht, ho, -⟩ := h.1
  refine ⟨before, c.ahead.dropWhile Char.isDigit, ?_, hstart.trans ho,
    fun d hd => List.mem_takeWhile_imp hd⟩
  rw [ht, List.takeWhile_append_dropWhile]

/-- Digits wherever they are. -/
theorem triple_digits_narrow :
    Triple (Sited text) (Narrow text) digits fun _ => Narrow text := by
  intro c hc
  exact ((triple_digits c.offset).ensure fun _ _ h => h.1) c ⟨rfl, hc⟩

/-- The digits that are left are the last ones. -/
theorem append_suffix (limit n : Nat) (ds : List Char) : (append limit n ds).2 <:+ ds := by
  induction ds generalizing n with
  | nil => exact List.suffix_rfl
  | cons d ds ih =>
    unfold append
    split
    · exact (ih _).trans (List.suffix_cons ..)
    · exact List.suffix_rfl

theorem utf8Length_of_isDigit {ds : List Char} (h : ∀ d ∈ ds, d.isDigit = true) :
    utf8Length ds = ds.length := by
  induction ds with
  | nil => rfl
  | cons d ds ih =>
    obtain ⟨hd, hds⟩ := List.forall_mem_cons.1 h
    rw [utf8Length_cons, utf8Size_of_isDigit hd, ih hds, List.length_cons, Nat.add_comm]

/-- The first digit that is left is at fault. -/
theorem Passed.placed {start : Nat} {ds left : List Char} {c : Cursor} {escape : Prop}
    (h : Passed text start ds c) (hs : left <:+ ds) (hne : left ≠ []) :
    Placed escape text.toList (start + (ds.length - left.length) + 1) := by
  obtain ⟨-, before, rest, ht, rfl, hds⟩ := h
  obtain ⟨front, rfl⟩ := hs
  obtain ⟨d, more, rfl⟩ := List.exists_cons_of_ne_nil hne
  have hfront : utf8Length front = (front ++ d :: more).length - (d :: more).length := by
    rw [utf8Length_of_isDigit fun d hd => hds d (List.mem_append_left _ hd), List.length_append,
      Nat.add_sub_cancel]
  rw [← hfront, ← utf8Length_append]
  exact .byte (by simpa using ht)

theorem triple_assemble (negative : Bool) (significand : Nat) (exponent : Int) :
    Triple (Sited text) (Narrow text) (assemble negative significand exponent)
      fun _ => Narrow text := by
  unfold assemble
  split
  · exact Triple.pure fun _ h => h
  · exact triple_fail fun _ h => h.placed

theorem triple_readExponent (negative : Bool) (significand : Nat) (exponent : Int) {mark : Char}
    (hm : mark.utf8Size = 1) :
    Triple (Sited text) (Facing text (some mark)) (readExponent negative significand exponent)
      fun _ => Narrow text := by
  unfold readExponent
  refine Triple.bind (triple_pass_facing hm) fun _ => ?_
  refine Triple.bind triple_next?_facing fun sign => ?_
  extract_lets tail
  -- What comes after the sign.
  have htail : ∀ negativeExponent, Triple (Sited text) (Narrow text) (tail negativeExponent)
      fun _ => Narrow text := by
    intro negativeExponent
    refine Triple.bind triple_next?_facing fun next => ?_
    split
    · exact triple_failEnd fun c h => ⟨h.1.1, h.2⟩
    · split
      · exact triple_failAfter fun c h => ⟨h.1.1, h.2⟩
      · refine Triple.bind triple_offset fun start => ?_
        refine Triple.bind ((triple_digits start).require fun c h => ⟨h.1, h.2.1⟩) fun ds => ?_
        split
        · exact (triple_assemble _ _ _).require fun c h => h.1
        · next left hne hleft =>
          split
          · -- Digits that are left make the number too large at the first of them.
            refine fun c h => h.placed ?_ ?_
            · have := append_suffix greatestExponent 0 ds
              rwa [hleft] at this
            · rintro rfl
              exact hne rfl
          · exact Triple.pure fun _ h => h.1
  have hsign : ∀ {d : Char} (negativeExponent : Bool), d.utf8Size = 1 → Triple (Sited text)
      (Facing text (some d)) (do pass 1; tail negativeExponent) fun _ => Narrow text :=
    fun negativeExponent hd => Triple.bind (triple_pass_facing hd) fun _ => htail _
  split
  · exact hsign false rfl
  · exact hsign true rfl
  · exact (htail _).require fun c h => h.1

theorem triple_readPlaces (negative : Bool) (significand : Nat) (exponent : Int) :
    Triple (Sited text) (Facing text (some '.')) (readPlaces negative significand exponent)
      fun _ => Narrow text := by
  unfold readPlaces
  refine Triple.bind (triple_pass_facing rfl) fun _ => ?_
  refine Triple.bind triple_digits_narrow fun ds => ?_
  split
  · exact Triple.bind triple_next?_facing fun _ => triple_failNext fun c h => h.1.1
  · dsimp only
    refine Triple.bind triple_next?_facing fun next => ?_
    split
    · exact triple_readExponent _ _ _ rfl
    · exact triple_readExponent _ _ _ rfl
    · exact (triple_assemble _ _ _).require fun c h => h.1

theorem triple_read (negative : Bool) :
    Triple (Sited text) (Narrow text) (read negative) fun _ => Narrow text := by
  unfold read
  refine Triple.bind triple_next?_facing fun next => ?_
  split
  · exact triple_failEnd fun c h => ⟨h.1.1, h.2⟩
  · next c =>
    split
    · exact triple_failAfter fun c h => ⟨h.1.1, h.2⟩
    · next hc =>
      extract_lets tail
      have htail : ∀ ds, Triple (Sited text) (Narrow text) (tail ds) fun _ => Narrow text := by
        intro ds
        unfold tail
        extract_lets more
        have hmore : Triple (Sited text) (Narrow text) (more ()) fun _ => Narrow text := by
          unfold more
          split
          refine Triple.bind triple_next?_facing fun next => ?_
          split
          · exact triple_readPlaces _ _ _
          · exact triple_readExponent _ _ _ rfl
          · exact triple_readExponent _ _ _ rfl
          · split
            · exact Triple.pure fun c h => h.1
            · exact (triple_assemble _ _ _).require fun c h => h.1
        split
        · refine Triple.bind triple_next?_facing fun next => ?_
          split
          · split
            · exact Triple.bind (triple_failNext fun c h => h.1.1) fun _ => hmore
            · exact hmore.require fun c h => h.1
          · exact hmore.require fun c h => h.1
        · exact hmore
      split
      · next hzero =>
        subst hzero
        refine Triple.bind (triple_pass_facing rfl) fun _ => ?_
        rw [pure_bind]
        exact htail _
      · exact Triple.bind (triple_digits_narrow.require fun c h => h.1) htail

end Numeral

/-! ### Values -/

/-- Whether another entry comes; if not, the closing bracket is next. -/
def Asked (text : String) (closing : Char) (another : Bool) (c : Cursor) : Prop :=
  Narrow text c ∧ (another = false → some closing = c.ahead.head?)

theorem triple_anotherItem (first : Bool) :
    Triple (Sited text) (Narrow text) (anotherItem first) (Asked text ']') := by
  unfold anotherItem
  refine Triple.bind triple_token? fun next => ?_
  split
  · exact triple_failNext fun c h => h.1.1
  · exact Triple.pure fun c h => ⟨h.1, fun _ => h.2⟩
  · split
    · exact Triple.pure fun c h => ⟨h.1, nofun⟩
    · split
      · next hcomma =>
        subst hcomma
        refine Triple.bind (triple_pass_facing rfl) fun _ => ?_
        refine Triple.bind triple_token? fun next => ?_
        split
        · exact triple_failNext fun c h => h.1.1
        · exact triple_failNext fun c h => h.1.1
        · exact Triple.pure fun c h => ⟨h.1, nofun⟩
      · exact triple_failNext fun c h => h.1.1

theorem triple_anotherKey (first : Bool) :
    Triple (Sited text) (Narrow text) (anotherKey first) (Asked text '}') := by
  unfold anotherKey
  refine Triple.bind triple_token? fun next => ?_
  split
  · exact triple_failNext fun c h => h.1.1
  · exact Triple.pure fun c h => ⟨h.1, fun _ => h.2⟩
  · split
    · split
      · exact Triple.pure fun c h => ⟨h.1, nofun⟩
      · exact triple_failNext fun c h => h.1.1
    · split
      · next hcomma =>
        subst hcomma
        refine Triple.bind (triple_pass_facing rfl) fun _ => ?_
        refine Triple.bind triple_token? fun next => ?_
        split
        · exact triple_failNext fun c h => h.1.1
        · exact Triple.pure fun c h => ⟨h.1, nofun⟩
        · exact triple_failNext fun c h => h.1.1
        · exact triple_failNext fun c h => h.1.1
      · exact triple_failNext fun c h => h.1.1

theorem triple_expectColon :
    Triple (Sited text) (Narrow text) expectColon fun _ => Narrow text := by
  unfold expectColon
  refine Triple.bind triple_token? fun next => ?_
  split
  · exact triple_failNext fun c h => h.1.1
  · exact triple_pass_facing rfl
  · exact triple_failNext fun c h => h.1.1

section

variable {ε β : Type} {kind : ε → Prop} {another : Bool → StateT Cursor (Except ε) Bool}
  {entry : StateT Cursor (Except ε) β} {loop : Nat → Bool → StateT Cursor (Except ε) (List β)}
  {closing : Char}

/-- **Entries are read up to the closing bracket**, if this is so of one entry. -/
theorem triple_loop (hloops : Loops another entry loop)
    (hanother : ∀ first, Triple kind (Narrow text) (another first) (Asked text closing))
    (hentry : Triple kind (Narrow text) entry fun _ => Narrow text)
    (hout : ∀ first, Triple kind (Narrow text) (loop 0 first) fun _ => Facing text (some closing))
    (fuel : Nat) (first : Bool) :
    Triple kind (Narrow text) (loop fuel first) fun _ => Facing text (some closing) := by
  induction fuel generalizing first with
  | zero => exact hout first
  | succ fuel ih =>
    rw [hloops]
    refine Triple.bind (hanother first) fun more => ?_
    cases more with
    | true =>
      refine Triple.bind (hentry.require fun c h => h.1) fun a => ?_
      exact Triple.map (a :: ·) (ih false)
    | false => exact Triple.pure fun c h => ⟨h.1, h.2 rfl⟩

/-- An entry of an object is read if its parts are. -/
theorem triple_readEntry {key : StateT Cursor (Except ε) String}
    {colon : StateT Cursor (Except ε) Unit}
    (hkey : Triple kind (Narrow text) key fun _ => Narrow text)
    (hcolon : Triple kind (Narrow text) colon fun _ => Narrow text)
    (hvalue : Triple kind (Narrow text) entry fun _ => Narrow text) :
    Triple kind (Narrow text) (readEntry key colon entry) fun _ => Narrow text :=
  Triple.bind hkey fun name => Triple.bind hcolon fun _ => Triple.map (Prod.mk name) hvalue

end

theorem triple_readItems {item : Read α}
    (h : Triple (Sited text) (Narrow text) item fun _ => Narrow text) (fuel : Nat) (first : Bool) :
    Triple (Sited text) (Narrow text) (readItems item fuel first)
      fun _ => Facing text (some ']') :=
  triple_loop (loops_readItems item) triple_anotherItem h
    (fun _ => triple_failNext fun _ h => h.1) fuel first

theorem triple_readEntries {value : Read α}
    (h : Triple (Sited text) (Narrow text) value fun _ => Narrow text) (fuel : Nat)
    (first : Bool) :
    Triple (Sited text) (Narrow text) (readEntries value fuel first)
      fun _ => Facing text (some '}') :=
  triple_loop (loops_readEntries value) triple_anotherKey
    (triple_readEntry triple_readString triple_expectColon h)
    (fun _ => triple_failNext fun _ h => h.1) fuel first

/-- A word of letters gives what it stands for. -/
theorem triple_word {d : Char} {word : List Char}
    (hw : ((d :: word).all fun e => e.utf8Size == 1) = true) (j : Json) :
    Triple (Sited text) (Facing text (some d)) (do pass 1; expectWord word; return j)
      fun _ => Narrow text := by
  simp only [List.all_cons, Bool.and_eq_true, List.all_eq_true, beq_iff_eq] at hw
  exact Triple.bind (triple_pass_facing hw.1) fun _ =>
    Triple.map (fun _ => j) (triple_expectWord hw.2)

/-- A closing bracket is passed behind what is in front of it. -/
theorem triple_close {β : Type} {closing : Char} {step : Read β} (f : β → α)
    (h : Triple (Sited text) pre step fun _ => Facing text (some closing))
    (hc : closing.utf8Size = 1) :
    Triple (Sited text) pre (do let b ← step; pass 1; return f b) fun _ => Narrow text :=
  Triple.bind h fun b => Triple.map (fun _ => f b) (triple_pass_facing hc)

/-- **Values are read up to where they end**, behind a character of one byte. -/
theorem triple_readValue (depth : Nat) :
    Triple (Sited text) (Narrow text) (readValue depth) fun _ => Narrow text := by
  induction depth using Nat.strong_induction_on with
  | _ depth ih =>
    unfold readValue
    refine Triple.bind triple_token? fun next => ?_
    split
    · exact triple_failNext fun c h => h.1.1
    · exact triple_word rfl _
    · exact triple_word rfl _
    · exact triple_word rfl _
    · exact Triple.bind (triple_pass_facing rfl) fun _ => Numeral.triple_read true
    · exact Triple.map Json.text (triple_readString.require fun c h => h.1)
    · split
      · exact triple_failNext fun c h => h.1.1
      · next depth =>
        refine Triple.bind (triple_pass_facing rfl) fun _ => ?_
        refine Triple.bind triple_ahead fun left => ?_
        have hitems := triple_readItems (ih depth (Nat.lt_succ_self _)) (left.length + 1) true
        exact triple_close Json.array (hitems.require fun c h => h.2) rfl
    · split
      · exact triple_failNext fun c h => h.1.1
      · next depth =>
        refine Triple.bind (triple_pass_facing rfl) fun _ => ?_
        refine Triple.bind triple_ahead fun left => ?_
        have hentries := triple_readEntries (ih depth (Nat.lt_succ_self _)) (left.length + 1) true
        exact triple_close Json.object (hentries.require fun c h => h.2) rfl
    · split
      · exact (Numeral.triple_read false).require fun c h => h.1
      · exact triple_failNext fun c h => h.1.1

theorem triple_expectEnd :
    Triple (Sited text) (Narrow text) expectEnd fun _ => Narrow text := by
  unfold expectEnd
  refine Triple.bind triple_token? fun next => ?_
  split
  · exact triple_failNext fun c h => h.1.1
  · exact Triple.pure fun c h => h.1

end Json
end DataGrammar
