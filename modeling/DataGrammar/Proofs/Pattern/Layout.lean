import DataGrammar.Pattern.Program
import Mathlib.Data.List.Basic
import Mathlib.Tactic.Common

/-!
# Inside and outside of the capture group

The instructions of an expression can be told apart by whether they lie inside of the capture
group. Only an instruction that opens the group leads from outside to inside, and only one that
closes it leads back; a program starts and accepts outside. So every match that has passed the
group has closed it. Copies of an item beyond the most that may be matched are never reached and
have no mark.

* `Layout P base xs` says that `P` holds of the elements of `xs` at the addresses from `base` on.
* `Expression.marks` tells for each instruction of an expression whether it is inside.
* `Expression.layout_emit`: where an expression is laid out and marked, its instructions respect
  the marks.
* `Program.exists_marking`: the program of an expression has such a marking.
-/

namespace DataGrammar.Pattern

/-! ### Layouts -/

/-- `P` holds of each element at its address, the first one being at `base`. -/
def Layout {α : Type} (P : Nat → α → Prop) : (base : Nat) → List α → Prop
  | _, [] => True
  | base, x :: xs => P base x ∧ Layout P (base + 1) xs

section Layout

variable {α : Type} {P : Nat → α → Prop}

@[simp] theorem layout_nil (base : Nat) : Layout P base [] := trivial

@[simp] theorem layout_cons {base : Nat} {x : α} {xs : List α} :
    Layout P base (x :: xs) ↔ P base x ∧ Layout P (base + 1) xs := Iff.rfl

theorem layout_append {base : Nat} {xs ys : List α} :
    Layout P base (xs ++ ys) ↔ Layout P base xs ∧ Layout P (base + xs.length) ys := by
  induction xs generalizing base with
  | nil => simp
  | cons x xs ih =>
    rw [List.cons_append, layout_cons, layout_cons, ih, List.length_cons, and_assoc,
      Nat.add_assoc base, Nat.add_comm 1]

/-- Blocks of one length, one after the other. -/
theorem layout_flatMap_range {base n k : Nat} {f : Nat → List α} (hf : ∀ i, (f i).length = k) :
    Layout P base ((List.range n).flatMap f) ↔ ∀ i < n, Layout P (base + i * k) (f i) := by
  induction n with
  | zero => simp
  | succ n ih =>
    rw [List.range_succ, List.flatMap_append, layout_append, ih,
      Expression.length_flatMap_range n k f hf,
      List.flatMap_singleton]
    constructor
    · rintro ⟨hlt, hn⟩ i hi
      rcases Nat.lt_succ_iff_lt_or_eq.1 hi with hi | rfl
      · exact hlt i hi
      · exact hn
    · intro h
      exact ⟨fun i hi => h i (by omega), h n (by omega)⟩

theorem Layout.getElem? {base i : Nat} {x : α} {xs : List α} (h : Layout P base xs)
    (hx : xs[i]? = some x) : P (base + i) x := by
  induction xs generalizing base i with
  | nil => simp at hx
  | cons y ys ih =>
    obtain ⟨hy, hys⟩ := h
    cases i with
    | zero =>
      cases hx
      exact hy
    | succ i =>
      rw [← Nat.add_assoc, Nat.add_right_comm]
      exact ih hys hx

/-- A list read by address is laid out as it is. -/
theorem layout_getD [Inhabited α] (base : Nat) (before xs : List α) (h : before.length = base) :
    Layout (fun address x => (before ++ xs).getD address default = x) base xs := by
  induction xs generalizing base before with
  | nil => trivial
  | cons x xs ih =>
    refine ⟨by simp [← h], ?_⟩
    have := ih (base + 1) (before ++ [x]) (by simp [h])
    simpa using this

end Layout

/-! ### Marks -/

/-- An instruction at a marked address leads to marked ones: from inside to inside and from
outside to outside, unless it opens or closes the group. -/
def Instruction.Respects (inside : Nat → Option Bool) (address : Nat)
    (instruction : Instruction) : Prop :=
  ∀ here, inside address = some here → match instruction with
    | .char _ next | .check _ next => inside next = some here
    | .fork nexts => ∀ next ∈ nexts, inside next = some here
    | .opening next => inside next = some true
    | .closing next => here = true ∧ ∃ there, inside next = some there
    | .accept => here = false

namespace Expression

mutual

/-- Whether each instruction of an expression is inside of the group, where the expression itself
stands `here`. -/
def marks (here : Bool) : Expression → List (Option Bool)
  | .empty | .chars _ | .look _ => [some here]
  | .repetition least none _ item =>
    if least = 0 then
      some here :: item.marks here ++ (if item.canBeEmpty then [some here] else [])
    else (List.range least).flatMap (fun _ => item.marks here) ++ [some here]
  | .repetition least (some most) _ item =>
    (List.range least).flatMap (fun i =>
      if most = 0 ∨ i < most then item.marks here else List.replicate item.size none) ++
      ((List.range (most - least)).flatMap fun _ => some here :: item.marks here) ++
      (if most = 0 then [some here] else [])
  | .capture index item =>
    if index = 1 then some here :: item.marks true ++ [some true] else item.marks here
  | .concat items => marksRow here items
  | .alternation branches => some here :: marksBranches here branches

/-- The marks of expressions in a row. -/
def marksRow (here : Bool) : List Expression → List (Option Bool)
  | [] => [some here]
  | item :: items => item.marks here ++ marksRow here items

/-- The marks of branches. -/
def marksBranches (here : Bool) : List Expression → List (Option Bool)
  | [] => []
  | branch :: branches => branch.marks here ++ marksBranches here branches

end

mutual

theorem length_marks (e : Expression) (here : Bool) : (e.marks here).length = e.size := by
  cases e with
  | empty => rfl
  | chars => rfl
  | look => rfl
  | repetition least most greedy item =>
    cases most with
    | none =>
      simp only [marks, size]
      split
      · split <;> simp [length_marks item]
      · simp [length_flatMap_range _ item.size _ fun _ => length_marks item here]
    | some most =>
      simp only [marks, size, List.length_append]
      rw [length_flatMap_range _ item.size _ fun i => by split <;> simp [length_marks item],
        length_flatMap_range _ (item.size + 1) _ fun _ => by simp [length_marks item]]
      split <;> rfl
  | capture index item =>
    simp only [marks, size]
    split <;> simp [length_marks item]
  | concat items => exact length_marksRow items here
  | alternation branches => simp [marks, size, length_marksBranches branches]

theorem length_marksRow (es : List Expression) (here : Bool) :
    (marksRow here es).length = sizes es := by
  cases es with
  | nil => rfl
  | cons e es => simp [marksRow, sizes, length_marks e, length_marksRow es]

theorem length_marksBranches (es : List Expression) (here : Bool) :
    (marksBranches here es).length = totalSize es := by
  cases es with
  | nil => rfl
  | cons e es => simp [marksBranches, totalSize, length_marks e, length_marksBranches es]

end

/-! ### Laying out what is marked -/

/-- The addresses from `base` on are marked like this. -/
def Marked (inside : Nat → Option Bool) : (base : Nat) → List (Option Bool) → Prop :=
  Layout fun address mark => inside address = mark

/-- The instructions from `base` on respect the marks. -/
def Respected (inside : Nat → Option Bool) : (base : Nat) → List Instruction → Prop :=
  Layout fun address instruction => instruction.Respects inside address

mutual

/-- The first instruction stands where the expression stands. -/
theorem exists_marks_eq_cons (e : Expression) (here : Bool) :
    ∃ rest, e.marks here = some here :: rest := by
  cases e with
  | empty => exact ⟨[], rfl⟩
  | chars => exact ⟨[], rfl⟩
  | look => exact ⟨[], rfl⟩
  | repetition least most greedy item =>
    obtain ⟨rest, hr⟩ := exists_marks_eq_cons item here
    cases least with
    | succ least =>
      cases most with
      | none => simp [marks, List.range_succ_eq_map, hr]
      | some most => simp [marks, List.range_succ_eq_map, hr, Nat.eq_zero_or_pos]
    | zero =>
      cases most with
      | none => simp [marks]
      | some most => cases most <;> simp [marks, List.range_succ_eq_map]
  | capture index item =>
    simp only [marks]
    split
    · exact ⟨_, rfl⟩
    · exact exists_marks_eq_cons item here
  | concat items => exact exists_marksRow_eq_cons items here
  | alternation branches => exact ⟨_, rfl⟩

theorem exists_marksRow_eq_cons (es : List Expression) (here : Bool) :
    ∃ rest, marksRow here es = some here :: rest := by
  cases es with
  | nil => exact ⟨[], rfl⟩
  | cons e es =>
    obtain ⟨rest, hr⟩ := exists_marks_eq_cons e here
    exact ⟨rest ++ marksRow here es, by rw [marksRow, hr, List.cons_append]⟩

end

variable {inside : Nat → Option Bool} {here : Bool}

theorem inside_of_marked {e : Expression} {base : Nat} (h : Marked inside base (e.marks here)) :
    inside base = some here := by
  obtain ⟨rest, hr⟩ := exists_marks_eq_cons e here
  rw [hr] at h
  exact h.1

theorem inside_of_markedRow {es : List Expression} {base : Nat}
    (h : Marked inside base (marksRow here es)) : inside base = some here := by
  obtain ⟨rest, hr⟩ := exists_marksRow_eq_cons es here
  rw [hr] at h
  exact h.1

theorem inside_of_mem_starts {branches : List Expression} {base start : Nat}
    (h : Marked inside base (marksBranches here branches)) (hs : start ∈ starts base branches) :
    inside start = some here := by
  induction branches generalizing base with
  | nil => cases hs
  | cons branch branches ih =>
    obtain ⟨hb, hbs⟩ := layout_append.1 h
    rcases List.mem_cons.1 hs with rfl | hs
    · exact inside_of_marked hb
    · rw [length_marks] at hbs
      exact ih hbs hs

/-- A fork between marked addresses. -/
theorem respects_fork {nexts : List Nat} {address : Nat} (ha : inside address = some here)
    (h : ∀ next ∈ nexts, inside next = some here) :
    (Instruction.fork nexts).Respects inside address := by
  intro there ht next hn
  rw [h next hn, ← ha, ht]

theorem respects_way {greedy : Bool} {first second address : Nat}
    (ha : inside address = some here) (hf : inside first = some here)
    (hs : inside second = some here) : (way greedy first second).Respects inside address := by
  refine respects_fork ha fun next hn => ?_
  cases greedy
  all_goals
    simp only [if_true, Bool.false_eq_true, if_false, List.mem_cons, List.not_mem_nil,
      or_false] at hn
    rcases hn with rfl | rfl
    all_goals assumption

/-- Instructions without marks respect the marks. -/
theorem respected_of_unmarked {instructions : List Instruction} {base : Nat}
    (h : Marked inside base (.replicate instructions.length none)) :
    Respected inside base instructions := by
  induction instructions generalizing base with
  | nil => trivial
  | cons instruction instructions ih =>
    obtain ⟨hb, h⟩ := h
    refine ⟨fun here hh => ?_, ih h⟩
    rw [hb] at hh
    cases hh

section Repetition

variable {item : Expression}

/-- Each copy that is reached starts where the repetition stands, and so does what follows the
last one. -/
theorem inside_copy (reached : Nat → Prop) {n base i : Nat}
    (hcopies : ∀ i < n, reached i → Marked inside (base + i * item.size) (item.marks here))
    (hend : reached n → inside (base + n * item.size) = some here) (hi : i ≤ n)
    (hr : reached i) : inside (base + i * item.size) = some here := by
  rcases Nat.lt_or_eq_of_le hi with hi | rfl
  · exact inside_of_marked (hcopies i hi hr)
  · exact hend hr

variable
  (hitem : ∀ {base next}, Marked inside base (item.marks here) → inside next = some here →
    Respected inside base (item.emit base next))

include hitem

theorem layout_emit_endless {least base next : Nat} {greedy : Bool}
    (hm : Marked inside base ((repetition least none greedy item).marks here))
    (hn : inside next = some here) :
    Respected inside base ((repetition least none greedy item).emit base next) := by
  simp only [marks, emit] at hm ⊢
  split at hm
  · next h0 =>
    -- a loop that may be left at once
    obtain ⟨hb, hm⟩ := hm
    obtain ⟨hi, hlast⟩ := layout_append.1 hm
    have hbody := inside_of_marked hi
    rw [if_pos h0]
    split at hlast
    · next hempty =>
      rw [length_marks] at hlast
      rw [if_pos hempty]
      refine ⟨respects_way hb hbody hn, layout_append.2 ⟨hitem hi hlast.1, ?_⟩⟩
      rw [length_emit]
      exact ⟨respects_way hlast.1 hbody hn, trivial⟩
    · next hempty =>
      rw [if_neg hempty]
      exact ⟨respects_way hb hbody hn, hitem hi hb⟩
  · next h0 =>
    -- copies of the item, and a loop back to the last one of them
    rw [if_neg h0]
    obtain ⟨hcopies, hlast⟩ := layout_append.1 hm
    rw [length_flatMap_range _ item.size _ fun _ => length_marks item here] at hlast
    have hcopies := (layout_flatMap_range fun _ => length_marks item here).1 hcopies
    have hstart : ∀ i ≤ least, inside (base + i * item.size) = some here := fun i hi =>
      inside_copy (fun _ => True) (fun i hi _ => hcopies i hi) (fun _ => hlast.1) hi trivial
    refine layout_append.2 ⟨(layout_flatMap_range fun i => length_emit item _ _).2 fun i hi =>
      hitem (hcopies i hi) (hstart (i + 1) hi), ?_⟩
    rw [length_flatMap_range _ item.size _ fun i => length_emit item _ _]
    exact ⟨respects_way hlast.1 (hstart (least - 1) (by omega)) hn, trivial⟩

theorem layout_emit_bounded {least most base next : Nat} {greedy : Bool}
    (hm : Marked inside base ((repetition least (some most) greedy item).marks here))
    (hn : inside next = some here) :
    Respected inside base ((repetition least (some most) greedy item).emit base next) := by
  simp only [marks, emit] at hm ⊢
  have hcopy : ∀ i, (if most = 0 ∨ i < most then item.marks here
      else List.replicate item.size none).length = item.size := by
    intro i
    split
    · exact length_marks item here
    · exact List.length_replicate
  have hoption : (some here :: item.marks here).length = item.size + 1 := by
    rw [List.length_cons, length_marks]
  obtain ⟨hm, hlast⟩ := layout_append.1 hm
  obtain ⟨hcopies, hoptions⟩ := layout_append.1 hm
  rw [List.length_append, length_flatMap_range _ _ _ hcopy,
    length_flatMap_range _ _ _ fun _ => hoption, ← Nat.add_assoc] at hlast
  rw [length_flatMap_range _ _ _ hcopy] at hoptions
  have hcopies := (layout_flatMap_range hcopy).1 hcopies
  have hoptions := (layout_flatMap_range fun _ => hoption).1 hoptions
  -- what follows the last copy: the first option, or the end of a repetition of nothing
  have hend : most = 0 ∨ least < most → inside (base + least * item.size) = some here := by
    rintro (h0 | hlt)
    · rw [if_pos h0, h0, Nat.zero_sub, Nat.zero_mul] at hlast
      exact hlast.1
    · have := hoptions 0 (by omega)
      rw [Nat.zero_mul] at this
      exact this.1
  have hstart : ∀ i ≤ least, most = 0 ∨ i < most →
      inside (base + i * item.size) = some here := by
    intro i hi hr
    refine inside_copy (fun i => most = 0 ∨ i < most) (fun i hi hr => ?_) hend hi hr
    have := hcopies i hi
    rwa [if_pos hr] at this
  refine layout_append.2 ⟨layout_append.2
    ⟨(layout_flatMap_range fun i => length_emit item _ _).2 fun i hi => ?_, ?_⟩, ?_⟩
  · -- the copies that must match; those after the last one that may have no marks
    have hi' := hcopies i hi
    split at hi'
    · refine hitem hi' ?_
      split
      · exact hn
      · exact hstart (i + 1) hi (by omega)
    · refine respected_of_unmarked ?_
      rwa [length_emit]
  · -- the copies that may be left out
    rw [length_flatMap_range _ item.size _ fun i => length_emit item _ _]
    refine (layout_flatMap_range fun i => by
      rw [List.length_cons, length_emit]).2 fun i hi => ?_
    obtain ⟨hb, hi'⟩ := hoptions i hi
    refine ⟨respects_way hb (inside_of_marked hi') hn, hitem hi' ?_⟩
    split
    · exact hn
    · have := (hoptions (i + 1) (by omega)).1
      rwa [Nat.succ_mul, ← Nat.add_assoc, Nat.add_comm item.size, ← Nat.add_assoc,
        Nat.add_comm 1] at this
  · rw [List.length_append, length_flatMap_range _ item.size _ fun i => length_emit item _ _,
      length_flatMap_range _ (item.size + 1) _ fun i => by rw [List.length_cons, length_emit],
      ← Nat.add_assoc]
    split
    · next h0 =>
      rw [if_pos h0] at hlast
      exact ⟨respects_fork hlast.1 (by simpa using hn), trivial⟩
    · trivial

end Repetition

mutual

/-- **Instructions laid out where they are marked respect the marks.** -/
theorem layout_emit (e : Expression) {here : Bool} {base next : Nat}
    (hm : Marked inside base (e.marks here)) (hn : inside next = some here) :
    Respected inside base (e.emit base next) := by
  have hb := inside_of_marked hm
  cases e with
  | empty => exact ⟨respects_fork hb (by simpa using hn), trivial⟩
  | chars set => exact ⟨fun there ht => hn.trans (hb.symm.trans ht), trivial⟩
  | look condition => exact ⟨fun there ht => hn.trans (hb.symm.trans ht), trivial⟩
  | repetition least most greedy item =>
    cases most with
    | none => exact layout_emit_endless (fun h h' => layout_emit item h h') hm hn
    | some most => exact layout_emit_bounded (fun h h' => layout_emit item h h') hm hn
  | capture index item =>
    simp only [marks, emit] at hm ⊢
    split at hm
    · next hi =>
      obtain ⟨-, hm⟩ := hm
      obtain ⟨hitem, hclose⟩ := layout_append.1 hm
      rw [length_marks] at hclose
      rw [if_pos hi]
      refine ⟨fun _ _ => inside_of_marked hitem,
        layout_append.2 ⟨layout_emit item hitem hclose.1, ?_⟩⟩
      rw [length_emit]
      refine ⟨fun there ht => ⟨?_, here, hn⟩, trivial⟩
      exact Option.some.inj (ht.symm.trans hclose.1)
    · next hi =>
      rw [if_neg hi]
      exact layout_emit item hm hn
  | concat items => exact layout_emitRow items hm hn
  | alternation branches =>
    obtain ⟨-, hm⟩ := hm
    exact ⟨respects_fork hb fun start hs => inside_of_mem_starts hm hs,
      layout_emitBranches branches hm hn⟩

theorem layout_emitRow (es : List Expression) {here : Bool} {base next : Nat}
    (hm : Marked inside base (marksRow here es)) (hn : inside next = some here) :
    Respected inside base (emitRow base next es) := by
  cases es with
  | nil => exact ⟨respects_fork hm.1 (by simpa using hn), trivial⟩
  | cons e es =>
    obtain ⟨he, hes⟩ := layout_append.1 hm
    rw [length_marks] at hes
    refine layout_append.2 ⟨layout_emit e he (inside_of_markedRow hes), ?_⟩
    rw [length_emit]
    exact layout_emitRow es hes hn

theorem layout_emitBranches (es : List Expression) {here : Bool} {base next : Nat}
    (hm : Marked inside base (marksBranches here es)) (hn : inside next = some here) :
    Respected inside base (emitBranches base next es) := by
  cases es with
  | nil => trivial
  | cons e es =>
    obtain ⟨he, hes⟩ := layout_append.1 hm
    rw [length_marks] at hes
    refine layout_append.2 ⟨layout_emit e he hn, ?_⟩
    rw [length_emit]
    exact layout_emitBranches es hes hn

end

end Expression

/-! ### Programs -/

namespace Program

/-- The program of an expression can be marked, starting outside of the group. -/
theorem exists_marking (e : Expression) :
    ∃ inside : Nat → Option Bool, inside 0 = some false ∧
      ∀ (address : Nat) (instruction : Instruction),
        (ofExpression e).code[address]? = some instruction →
          instruction.Respects inside address := by
  obtain ⟨inside, hm⟩ : ∃ inside : Nat → Option Bool,
      Expression.Marked inside 0 (e.marks false ++ [some false]) :=
    ⟨_, layout_getD 0 [] _ rfl⟩
  obtain ⟨he, hend, -⟩ := layout_append.1 hm
  rw [Expression.length_marks, Nat.zero_add] at hend
  refine ⟨inside, Expression.inside_of_marked he, fun address instruction hi => ?_⟩
  have hlayout : Expression.Respected inside 0 (e.emit 0 e.size ++ [Instruction.accept]) := by
    refine layout_append.2 ⟨Expression.layout_emit e he hend, ?_, trivial⟩
    rw [Expression.length_emit, Nat.zero_add]
    intro here hh
    exact Option.some.inj (hh.symm.trans hend)
  have hat : (e.emit 0 e.size ++ [Instruction.accept])[address]? = some instruction := by
    rwa [← List.getElem?_toArray]
  simpa using hlayout.getElem? hat

end Program
end DataGrammar.Pattern
