import DataGrammar.Proofs.Matching.Reading

/-!
# Steps that come to an end

A step settles at the places of a kind if it is never given up there: it matches or fails, and
stops where it started or further on. The kinds of places are those that one cannot leave by moving
on. Steps made of steps that settle settle, and a sequence whose first part leads to places of
another kind needs no more of the other parts than to settle there.

* `Step.Settles place step`: the step settles at the places of a kind.
* `Step.settles_sequence`, `Step.settles_choice`, `Step.settles_repetition`: so do steps made of
  such steps.
* `Step.settles_guarded`: sequences whose first part leads to other places.
-/

namespace DataGrammar

namespace Cursor

/-- What holds at a place holds further on as well. -/
def Lasts (place : Cursor → Prop) : Prop := ∀ {c d : Cursor}, c.Reaches d → place c → place d

theorem Reaches.ahead_suffix {c d : Cursor} (h : c.Reaches d) : d.ahead <:+ c.ahead := by
  obtain ⟨n, rfl⟩ := h
  rw [ahead_advance_eq_drop]
  exact List.drop_suffix n c.ahead

end Cursor

namespace Step

variable {ε : Type} {place inner : Cursor → Prop} {step item : Step (Except ε)}
  {separator : Option (Step (Except ε))} {parts : List (Part (Except ε))}

/-- At the places of a kind, the step comes to an end there or further on. -/
def Settles (place : Cursor → Prop) (step : Step (Except ε)) : Prop :=
  ∀ c, place c → ∃ a, step c = .ok a ∧ c.Reaches a.cursor

theorem Settles.mono (h : Settles place step) (hi : ∀ c, inner c → place c) :
    Settles inner step :=
  fun c hc => h c (hi c hc)

theorem settles_none : ∀ s ∈ (none : Option (Step (Except ε))), Settles place s := by nofun

theorem settles_some (h : Settles place step) : ∀ s ∈ some step, Settles place s := by
  rintro _ ⟨⟩
  exact h

theorem settles_optional (h : ∀ s ∈ separator, Settles place s) :
    Settles place (optional separator) := by
  cases separator with
  | none => exact fun c _ => ⟨_, rfl, .refl c⟩
  | some s => exact h s rfl

section

variable (hlasts : Cursor.Lasts place)

include hlasts

theorem settles_sequenceFrom (hs : ∀ s ∈ separator, Settles place s)
    (hp : ∀ p ∈ parts, Settles place p.step) (g : Gathered) :
    Settles place (sequenceFrom separator parts g) := by
  induction parts generalizing g with
  | nil => exact fun c _ => ⟨_, rfl, .refl c⟩
  | cons p parts ih =>
    obtain ⟨hp, hparts⟩ := List.forall_mem_cons.1 hp
    intro c hc
    obtain ⟨item, hitem, hreach⟩ := hp c hc
    have hbetween : Settles place (optional (if parts.isEmpty then none else separator)) := by
      refine settles_optional ?_
      split
      · nofun
      · exact hs
    obtain ⟨between, hb, hreach'⟩ := hbetween _ (hlasts hreach hc)
    have hreach' := hreach.trans hreach'
    obtain ⟨a, ha, hreach''⟩ := ih hparts (g.add p item) _ (hlasts hreach' hc)
    simp only [sequenceFrom, hitem, hb, bind, Except.bind]
    split
    · exact ⟨_, rfl, hreach⟩
    · split
      · exact ⟨a, ha, hreach'.trans hreach''⟩
      · exact ⟨_, rfl, hreach'⟩

theorem settles_sequence (hs : ∀ s ∈ separator, Settles place s)
    (hp : ∀ p ∈ parts, Settles place p.step) (default : Option Value) :
    Settles place (sequence separator parts default) := by
  intro start hstart
  obtain ⟨a, ha, hreach⟩ := settles_sequenceFrom hlasts hs hp .nothing start hstart
  refine ⟨_, by rw [sequence, ha]; rfl, ?_⟩
  split
  · exact hreach
  · exact reaches_orDefault hreach

omit hlasts in
theorem settles_choiceFrom (nesting : Nesting) {start : Cursor} (hstart : place start)
    (hp : ∀ p ∈ parts, Settles place p.step) (number : Nat) (before : List String)
    {furthest : Attempt} (hf : start.Reaches furthest.cursor) :
    ∃ a, choiceFrom nesting start (branches number parts) before furthest = .ok a ∧
      start.Reaches a.cursor := by
  induction parts generalizing number before furthest with
  | nil => exact ⟨furthest, rfl, hf⟩
  | cons p parts ih =>
    obtain ⟨hp, hparts⟩ := List.forall_mem_cons.1 hp
    obtain ⟨item, hitem, hreach⟩ := hp start hstart
    simp only [branches, choiceFrom, hitem, bind, Except.bind]
    split
    · exact ⟨_, rfl, hreach⟩
    · refine ih hparts _ _ ?_
      split
      · exact hreach
      · exact hf

omit hlasts in
theorem settles_choice (hp : ∀ p ∈ parts, Settles place p.step) (nesting : Nesting)
    (default : Option Value) : Settles place (choice nesting parts default) := by
  intro start hstart
  have hfails : start.Reaches (⟨false, start, .null⟩ : Attempt).cursor := .refl start
  obtain ⟨a, ha, hreach⟩ := settles_choiceFrom nesting hstart hp 1 [] hfails
  refine ⟨_, by rw [choice, ha]; rfl, ?_⟩
  split
  · exact hreach
  · exact reaches_orDefault hreach

theorem settles_repetitionFrom (hitem : Settles place item)
    (hs : ∀ s ∈ separator, Settles place s) (least : Nat) (endless : Bool) (tries : Nat)
    (items : List Value) : Settles place (repetitionFrom item separator least endless tries items) := by
  induction tries generalizing items with
  | zero => exact fun c _ => ⟨_, rfl, reaches_finish (.refl c) (.refl c)⟩
  | succ tries ih =>
    intro c hc
    obtain ⟨a, ha, hreach⟩ := hitem c hc
    obtain ⟨after, hafter, hreach'⟩ := settles_optional hs _ (hlasts hreach hc)
    have hreach' := hreach.trans hreach'
    obtain ⟨b, hb, hreach''⟩ := ih (a.value :: items) _ (hlasts hreach' hc)
    simp only [repetitionFrom, ha, hafter, bind, Except.bind]
    split
    · exact ⟨_, rfl, reaches_finish (.refl c) hreach⟩
    · split
      · exact ⟨_, rfl, reaches_finish hreach hreach'⟩
      · split
        · exact ⟨_, rfl, reaches_finish hreach' hreach'⟩
        · exact ⟨b, hb, hreach'.trans hreach''⟩

theorem settles_repetition (hitem : Settles place item) (hs : ∀ s ∈ separator, Settles place s)
    (least : Nat) (most : Option Nat) : Settles place (repetition item separator least most) := by
  intro start hstart
  cases most with
  | none => exact settles_repetitionFrom hlasts hitem hs least true _ [] start hstart
  | some most => exact settles_repetitionFrom hlasts hitem hs least false most [] start hstart

end

/-- Where the first part of a sequence leads to places of another kind, if it matches, the other
parts need not settle elsewhere. -/
theorem settles_guarded (hinner : Cursor.Lasts inner) {first : Part (Except ε)}
    (hfirst : Settles place first.step)
    (hpass : ∀ c a, place c → first.step c = .ok a → a.success = true → inner a.cursor)
    (hparts : ∀ p ∈ parts, Settles inner p.step) :
    Settles place (sequence none (first :: parts) none) := by
  intro start hstart
  -- What is behind the first part is tried only if it matches, so `inner` holds there.
  obtain ⟨item, hitem, hreach⟩ := hfirst start hstart
  cases hsuccess : item.success with
  | false =>
    refine ⟨⟨false, item.cursor, .map (Gathered.nothing.add first item).fields⟩, ?_, hreach⟩
    simp only [sequence, sequenceFrom, hitem, bind, Except.bind, hsuccess]
    rfl
  | true =>
    obtain ⟨a, ha, hreach'⟩ := settles_sequenceFrom hinner settles_none hparts
      (Gathered.nothing.add first item) _ (hpass _ _ hstart hitem hsuccess)
    refine ⟨a, ?_, hreach.trans hreach'⟩
    simp only [sequence, sequenceFrom, hitem, bind, Except.bind, hsuccess]
    cases parts with
    | nil => cases ha; rfl
    | cons p parts =>
      simp only [List.isEmpty_cons, optional, Option.getD_none, Bool.not_true,
        Bool.false_eq_true, if_false, if_true, pure, Except.pure, ha]
      cases a.success <;> rfl

end Step

/-- A pattern that compiles settles everywhere. -/
theorem Description.settles_matchPattern {source : String} {pattern : Pattern}
    (h : Pattern.compile source = .ok pattern) (place : Cursor → Prop) :
    Step.Settles place (matchPattern source) := by
  intro c _
  simp only [matchPattern, h, Node.matchTerminal]
  split
  · exact ⟨_, rfl, c.reaches_advance _⟩
  · exact ⟨_, rfl, .refl c⟩

end DataGrammar
