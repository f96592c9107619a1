import DataGrammar.Proofs.Compilation.Meaning
import DataGrammar.Proofs.Pattern.Reading
import DataGrammar.Proofs.Text.Boundary

/-!
# Texts that steps read

A step reads a text in front of what follows it if it matches just that text wherever both are
ahead. A step that refuses what is ahead fails there. How combined steps read follows from how
their parts do.

* `Step.Reads`, `Step.Refuses`: reading a text and refusing what is ahead.
* `Step.reads_three`, `Step.reads_choice`, `Step.repetitionFrom_of_reads`: sequences, choices and
  repetitions.
* `Pattern.Means source e`: the pattern has the meaning `e`; `Description.reads_pattern`,
  `Description.reads_capture`: so its step reads what the expression reads.
-/

namespace DataGrammar

/-! ### Cursors -/

namespace Cursor

theorem offset_lt_advance {c : Cursor} {text rest : List Char} (h : c.ahead = text ++ rest)
    (hne : text ≠ []) : c.offset < (c.advance text.length).offset := by
  rw [offset_advance, h, List.take_left]
  have := mt eq_nil_of_utf8Length_eq_zero hne
  omega

end Cursor

/-! ### Steps -/

namespace Step

/-- The step reads a text in front of what follows it. -/
def Reads (step : Step (Except Diagnostic)) (text rest : List Char) (value : Value) : Prop :=
  ∀ c : Cursor, c.ahead = text ++ rest → step c = .ok ⟨true, c.advance text.length, value⟩

/-- The step fails where this is ahead. -/
def Refuses (step : Step (Except Diagnostic)) (ahead : List Char) : Prop :=
  ∀ c : Cursor, c.ahead = ahead → ∃ stop value, step c = .ok ⟨false, stop, value⟩

variable {text more rest ahead : List Char} {value : Value}

section Sequence

variable {step : Step (Except Diagnostic)} {name : Option String} {collapse : Bool}
  {parts : List (Part (Except Diagnostic))}

/-- A part that reads a text, before others. -/
theorem sequenceFrom_of_reads (h : step.Reads text rest value) {c : Cursor}
    (hc : c.ahead = text ++ rest) (g : Gathered) :
    sequenceFrom none (⟨name, collapse, step⟩ :: parts) g c =
      sequenceFrom none parts
        (g.add (⟨name, collapse, step⟩ : Part (Except Diagnostic)) ⟨true, default, value⟩)
        (c.advance text.length) := by
  simp only [sequenceFrom, h c hc]
  cases parts <;> rfl

/-- Three parts that read texts, one after the other. -/
theorem reads_three {first second third : Step (Except Diagnostic)}
    {name' name'' : Option String} {collapse' collapse'' : Bool} {a b d : List Char}
    {u v w : Value} (h₁ : first.Reads a (b ++ (d ++ rest)) u)
    (h₂ : second.Reads b (d ++ rest) v) (h₃ : third.Reads d rest w) :
    (sequence none [⟨name, collapse, first⟩, ⟨name', collapse', second⟩,
      ⟨name'', collapse'', third⟩] none).Reads (a ++ (b ++ d)) rest
      (((Gathered.nothing.add (⟨name, collapse, first⟩ : Part (Except Diagnostic))
        ⟨true, default, u⟩).add (⟨name', collapse', second⟩ : Part (Except Diagnostic))
        ⟨true, default, v⟩).add (⟨name'', collapse'', third⟩ : Part (Except Diagnostic))
        ⟨true, default, w⟩).value := by
  intro c hc
  have ha : c.ahead = a ++ (b ++ (d ++ rest)) := by simpa using hc
  have hb := Cursor.ahead_advance ha
  have hd := Cursor.ahead_advance hb
  rw [sequence, sequenceFrom_of_reads h₁ ha, sequenceFrom_of_reads h₂ hb,
    sequenceFrom_of_reads h₃ hd, List.length_append, List.length_append, Cursor.advance_add,
    Cursor.advance_add]
  rfl

theorem refuses_sequence (h : step.Refuses ahead) :
    (sequence none (⟨name, collapse, step⟩ :: parts) none).Refuses ahead := by
  intro c hc
  obtain ⟨stop, value, hstep⟩ := h c hc
  simp only [sequence, sequenceFrom, hstep]
  exact ⟨_, _, rfl⟩

/-- A sequence fails in its third part, unless the second one has failed already. -/
theorem refuses_three {first second third : Step (Except Diagnostic)}
    {name' name'' : Option String} {collapse' collapse'' : Bool}
    (h₁ : first.Reads text more value) (h₂ : ∀ c : Cursor, c.ahead = more →
      ∃ a, second c = .ok a ∧ (a.success = true → third.Refuses a.cursor.ahead)) :
    (sequence none [⟨name, collapse, first⟩, ⟨name', collapse', second⟩,
      ⟨name'', collapse'', third⟩] none).Refuses (text ++ more) := by
  intro c hc
  obtain ⟨a, ha, hthird⟩ := h₂ _ (Cursor.ahead_advance hc)
  rw [sequence, sequenceFrom_of_reads h₁ hc]
  simp only [sequenceFrom, ha, bind, Except.bind]
  cases hs : a.success with
  | false => exact ⟨_, _, rfl⟩
  | true =>
    obtain ⟨stop, v, hstop⟩ := hthird hs a.cursor rfl
    simp only [List.isEmpty_cons, optional, Option.getD_none, Bool.not_true, Bool.false_eq_true,
      if_false, if_true, pure, Except.pure, hstop]
    exact ⟨_, _, rfl⟩

end Sequence

section Choice

variable {nesting : Nesting} {before parts : List (Part (Except Diagnostic))}
  {step : Step (Except Diagnostic)} {name : Option String} {key : String} {collapse : Bool}

/-- The parts read a text as the branches of a choice, whatever was tried before. -/
def Chooses (nesting : Nesting) (parts : List (Part (Except Diagnostic)))
    (text rest : List Char) (value : Value) : Prop :=
  ∀ (number : Nat) (keys : List String) (furthest : Attempt) (c : Cursor),
    c.ahead = text ++ rest →
      choiceFrom nesting c (branches number parts) keys furthest =
        .ok ⟨true, c.advance text.length, value⟩

/-- A branch that reads is chosen. -/
theorem chooses_head (hn : nesting ≠ .full) (h : step.Reads text rest value) :
    Chooses nesting (⟨some key, collapse, step⟩ :: parts) text rest
      (nest nesting [] key value []) := by
  intro number keys furthest c hc
  simp only [branches, choiceFrom, h c hc]
  cases nesting with
  | none => rfl
  | matched => rfl
  | full => exact absurd rfl hn

/-- A branch that refuses what is ahead is left out. -/
theorem chooses_skip (hr : step.Refuses (text ++ rest)) (h : Chooses nesting parts text rest value) :
    Chooses nesting (⟨name, collapse, step⟩ :: parts) text rest value := by
  intro number keys furthest c hc
  obtain ⟨stop, v, hstep⟩ := hr c hc
  simp only [branches, choiceFrom, hstep]
  exact h _ _ _ c hc

theorem chooses_append (hr : ∀ p ∈ before, p.step.Refuses (text ++ rest))
    (h : Chooses nesting parts text rest value) :
    Chooses nesting (before ++ parts) text rest value := by
  induction before with
  | nil => exact h
  | cons p before ih =>
    obtain ⟨hp, hbefore⟩ := List.forall_mem_cons.1 hr
    exact chooses_skip hp (ih hbefore)

/-- A choice reads what its branches read. -/
theorem reads_choice (h : Chooses nesting parts text rest value) :
    (choice nesting parts none).Reads text rest value := by
  intro c hc
  rw [choice, h 1 [] _ c hc]
  rfl

theorem choiceFrom_of_refuses {ahead : List Char} {c : Cursor} (hc : c.ahead = ahead)
    (h : ∀ p ∈ parts, p.step.Refuses ahead) (number : Nat) (keys : List String)
    {furthest : Attempt} (hf : furthest.success = false) : ∃ stop v,
      choiceFrom nesting c (branches number parts) keys furthest = .ok ⟨false, stop, v⟩ := by
  induction parts generalizing number keys furthest with
  | nil =>
    obtain ⟨success, stop, v⟩ := furthest
    cases hf
    exact ⟨stop, v, rfl⟩
  | cons p parts ih =>
    obtain ⟨hp, hparts⟩ := List.forall_mem_cons.1 h
    obtain ⟨stop, v, hstep⟩ := hp c hc
    simp only [branches, choiceFrom, hstep]
    refine ih hparts _ _ ?_
    split
    · rfl
    · exact hf

theorem refuses_choice (h : ∀ p ∈ parts, p.step.Refuses ahead) :
    (choice nesting parts none).Refuses ahead := by
  intro c hc
  have hfails : (⟨false, c, .null⟩ : Attempt).success = false := rfl
  obtain ⟨stop, v, heq⟩ := choiceFrom_of_refuses hc h 1 [] hfails
  exact ⟨stop, v, by rw [choice, heq]; rfl⟩

end Choice

section Repetition

variable {item separator : Step (Except Diagnostic)} {tries : Nat} {items : List Value}
  {c : Cursor}

/-- Where the item is refused a repetition ends. -/
theorem repetitionFrom_of_refuses (h : item.Refuses c.ahead) :
    repetitionFrom item (some separator) 0 true (tries + 1) items c =
      .ok ⟨true, c, .list items.reverse⟩ := by
  obtain ⟨stop, value, hstep⟩ := h c rfl
  rw [repetitionFrom, hstep]
  rfl

/-- Where an item is read and the separator is refused a repetition ends after the item. -/
theorem repetitionFrom_of_last (h : item.Reads text rest value) (hs : separator.Refuses rest)
    (hc : c.ahead = text ++ rest) :
    repetitionFrom item (some separator) 0 true (tries + 1) items c =
      .ok ⟨true, c.advance text.length, .list (items.reverse ++ [value])⟩ := by
  obtain ⟨stop, v, hstep⟩ := hs _ (Cursor.ahead_advance hc)
  rw [repetitionFrom, h c hc]
  simp only [optional, Option.getD_some, bind, Except.bind, hstep]
  simp [finish, pure, Except.pure]

/-- Where an item and the separator are read a repetition goes on behind them. -/
theorem repetitionFrom_of_reads {v : Value} (h : item.Reads text (more ++ rest) value)
    (hs : separator.Reads more rest v) (hne : text ++ more ≠ [])
    (hc : c.ahead = text ++ (more ++ rest)) :
    repetitionFrom item (some separator) 0 true (tries + 1) items c =
      repetitionFrom item (some separator) 0 true tries (value :: items)
        (c.advance (text ++ more).length) := by
  have hstep := hs _ (Cursor.ahead_advance hc)
  have hlt := Cursor.offset_lt_advance (by rw [hc, List.append_assoc]) hne
  rw [List.length_append, Cursor.advance_add] at hlt ⊢
  rw [repetitionFrom, h c hc]
  simp only [optional, Option.getD_some, bind, Except.bind, hstep]
  simp [hlt.ne']

end Repetition

end Step

/-! ### Patterns -/

namespace Pattern

deriving instance DecidableEq for Instruction
deriving instance DecidableEq for Program
deriving instance DecidableEq for Pattern

/-- The pattern means an expression, which is proper. -/
def Means (source : String) (e : Expression) : Prop :=
  compile source = .ok ⟨.ofExpression e, e.hasCapture⟩ ∧ e.proper = true

/-- What a pattern means can be computed. -/
theorem means_of_toOption {source : String} {e : Expression}
    (h : (compile source).toOption = some ⟨.ofExpression e, e.hasCapture⟩ ∧ e.proper = true) :
    Means source e := by
  refine ⟨?_, h.2⟩
  cases hc : compile source with
  | error refusal => simp [hc, Except.toOption] at h
  | ok p => simpa [hc, Except.toOption] using h.1

end Pattern

namespace Description

open Pattern

variable {source : String} {e : Expression} {text rest ahead : List Char}

theorem matchPattern_of_means (h : Means source e) (c : Cursor) :
    matchPattern source c = .ok (match e.find? c.behind c.ahead with
      | some m => ⟨true, c.advance m.length,
          .text (textOf ⟨.ofExpression e, e.hasCapture⟩ c m)⟩
      | none => ⟨false, c, .null⟩) := by
  simp only [matchPattern, h.1, Node.matchTerminal, matchAt?, Program.match?_ofExpression h.2]
  cases e.find? c.behind c.ahead <;> rfl

/-- The step of a pattern reads what its expression reads. -/
theorem reads_pattern (h : Means source e) (hg : e.hasCapture = false)
    (hr : e.Reads text rest) : Step.Reads (matchPattern source) text rest (.text (.ofList text)) := by
  intro c hc
  rw [matchPattern_of_means h, hc, Expression.find?_of_reads hr]
  simp [textOf, hg, Cursor.take, hc]

theorem refuses_pattern (h : Means source e) (hr : e.Refuses ahead) :
    Step.Refuses (matchPattern source) ahead := by
  intro c hc
  rw [matchPattern_of_means h, hc, Expression.find?_of_refuses hr]
  exact ⟨_, _, rfl⟩

/-- The step of a pattern with a capture group gives the text in the group. -/
theorem reads_capture {item : Expression} {es fs : List Expression}
    (h : Means source (.concat (es ++ .capture 1 item :: fs))) {before inside after : List Char}
    (hes : Expression.ReadsRow es before (inside ++ (after ++ rest)))
    (hitem : item.Reads inside (after ++ rest))
    (hfs : ∀ behind, Expression.ReadsRowAt (lastOf (lastOf behind before) inside) fs after rest) :
    Step.Reads (matchPattern source) (before ++ (inside ++ after)) rest
      (.text (.ofList inside)) := by
  intro c hc
  have hc' : c.ahead = before ++ (inside ++ (after ++ rest)) := by simpa using hc
  have hg : (Expression.concat (es ++ .capture 1 item :: fs)).hasCapture = true := by
    rw [Expression.hasCapture, Expression.anyHasCapture_append]
    exact Bool.or_true _
  have hinside : (c.ahead.take (before.length + inside.length)).drop before.length = inside := by
    rw [hc', ← List.append_assoc, ← List.length_append, List.take_left, List.drop_left]
  rw [matchPattern_of_means h, hc', Expression.find?_of_capture hes hitem _ (hfs _)]
  simp [textOf, hg, Match.group?, hinside, Nat.add_assoc]

end Description
end DataGrammar
