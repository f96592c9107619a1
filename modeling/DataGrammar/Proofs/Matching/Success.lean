import DataGrammar.Proofs.Compilation.Meaning

/-!
# What steps give where they match

Where a combined step matches, its value is put together from those of parts that matched: a
sequence gathers the values of all parts, a choice nests that of one branch, a repetition lists
those of its items. Nothing that a failed part left gets into it.

* `Step.Gives step kind`: where the step matches, its value is of a kind.
* `Step.gives_sequence`, `Step.gives_choice`, `Step.gives_repetition`: the kinds of combined steps.
-/

namespace DataGrammar

namespace Step

/-- Where the step matches, its value is of a kind. -/
def Gives {ε : Type} (step : Step (Except ε)) (kind : Value → Prop) : Prop :=
  ∀ c a, step c = .ok a → a.success = true → kind a.value

variable {ε : Type} {step item : Step (Except ε)} {separator : Option (Step (Except ε))}
  {parts : List (Part (Except ε))} {kind : Value → Prop}

theorem Gives.mono (h : step.Gives kind) {other : Value → Prop} (hk : ∀ v, kind v → other v) :
    step.Gives other :=
  fun c a ha hs => hk _ (h c a ha hs)

/-- With a default of the kind, a step gives what it gives where there is none. -/
theorem kind_orDefault {default : Option Value} (hd : ∀ v ∈ default, kind v) {start : Cursor}
    {a : Attempt} (ha : a.success = true → kind a.value)
    (hs : (orDefault default start a).success = true) : kind (orDefault default start a).value := by
  cases default with
  | none => exact ha hs
  | some v => exact hd v rfl

/-! ### Sequences -/

/-- Add what the parts gave, in order. -/
def Gathered.addAll (g : Gathered) : List (Part (Except ε)) → List Attempt → Gathered
  | part :: parts, item :: items => (g.add part item).addAll parts items
  | _, _ => g

/-- The part gave this where it matched. -/
def Part.Gave (p : Part (Except ε)) (a : Attempt) : Prop :=
  a.success = true ∧ ∃ c, p.step c = .ok a

theorem gave_of_sequenceFrom {g : Gathered} {c : Cursor} {a : Attempt}
    (ha : sequenceFrom separator parts g c = .ok a) (hs : a.success = true) :
    ∃ items, List.Forall₂ Part.Gave parts items ∧ a.value = (g.addAll parts items).value := by
  induction parts generalizing g c with
  | nil =>
    cases ha
    exact ⟨[], .nil, rfl⟩
  | cons p parts ih =>
    obtain ⟨item, hitem, ha⟩ := bind_eq_ok_iff.1 ha
    split at ha
    · cases ha
      cases hs
    · next hsuccess =>
      obtain ⟨between, -, ha⟩ := bind_eq_ok_iff.1 ha
      split at ha
      · obtain ⟨items, hitems, hvalue⟩ := ih ha
        exact ⟨item :: items, .cons ⟨by simpa using hsuccess, c, hitem⟩ hitems, hvalue⟩
      · cases ha
        cases hs

/-- **A sequence gives what its parts gave**, gathered in order. -/
theorem gives_sequence {default : Option Value} (hd : ∀ v ∈ default, kind v)
    (h : ∀ items, List.Forall₂ Part.Gave parts items → kind (Gathered.nothing.addAll parts items).value) :
    (sequence separator parts default).Gives kind := by
  intro start a ha hs
  obtain ⟨b, hb, ha⟩ := bind_eq_ok_iff.1 ha
  have hkind : b.success = true → kind b.value := by
    intro hs
    obtain ⟨items, hitems, hvalue⟩ := gave_of_sequenceFrom hb hs
    exact hvalue ▸ h items hitems
  cases ha
  split
  · next hs => exact hkind hs
  · next hn =>
    rw [if_neg hn] at hs
    exact kind_orDefault hd hkind hs

/-! ### Choices -/

theorem gives_choiceFrom {nesting : Nesting} {start : Cursor} {bs : List (Branch (Except ε))}
    {before : List String} {furthest : Attempt} (hf : furthest.success = false)
    (h : ∀ b ∈ bs, ∀ before after, b.step.Gives fun v => kind (nest nesting before b.key v after))
    {a : Attempt} (ha : choiceFrom nesting start bs before furthest = .ok a)
    (hs : a.success = true) : kind a.value := by
  induction bs generalizing before furthest with
  | nil =>
    cases ha
    rw [hf] at hs
    cases hs
  | cons b bs ih =>
    obtain ⟨hb, hbs⟩ := List.forall_mem_cons.1 h
    obtain ⟨item, hitem, ha⟩ := bind_eq_ok_iff.1 ha
    split at ha
    · next hsuccess =>
      cases ha
      exact hb before (bs.map Branch.key) start item hitem hsuccess
    · next hfails =>
      refine ih ?_ hbs ha
      split
      · simpa using hfails
      · exact hf

/-- **A choice gives what one of its branches gave**, nested. -/
theorem gives_choice {nesting : Nesting} {default : Option Value} (hd : ∀ v ∈ default, kind v)
    (h : ∀ b ∈ branches 1 parts, ∀ before after,
      b.step.Gives fun v => kind (nest nesting before b.key v after)) :
    (choice nesting parts default).Gives kind := by
  intro start a ha hs
  obtain ⟨b, hb, ha⟩ := bind_eq_ok_iff.1 ha
  have hfails : (⟨false, start, .null⟩ : Attempt).success = false := rfl
  have hkind : b.success = true → kind b.value := gives_choiceFrom hfails h hb
  cases ha
  split
  · next hs => exact hkind hs
  · next hn =>
    rw [if_neg hn] at hs
    exact kind_orDefault hd hkind hs

/-! ### Repetitions -/

/-- The value is a list of values of a kind. -/
def ListOf (kind : Value → Prop) (v : Value) : Prop := ∃ items, v = .list items ∧ ∀ w ∈ items, kind w

theorem listOf_finish {least : Nat} {items : List Value} (hi : ∀ v ∈ items, kind v)
    {commit stop : Cursor} {rest : Value}
    (hs : (finish least items commit stop rest).success = true) :
    ListOf kind (finish least items commit stop rest).value := by
  unfold finish at hs ⊢
  split at hs
  · next hle =>
    rw [if_pos hle]
    exact ⟨items.reverse, rfl, fun v hv => hi v (List.mem_reverse.1 hv)⟩
  · cases hs

theorem gives_repetitionFrom (hitem : item.Gives kind) (least : Nat) (endless : Bool) (tries : Nat)
    {items : List Value} (hi : ∀ v ∈ items, kind v) :
    (repetitionFrom item separator least endless tries items).Gives (ListOf kind) := by
  induction tries generalizing items with
  | zero =>
    intro c a ha hs
    cases ha
    exact listOf_finish hi hs
  | succ tries ih =>
    intro c a ha hs
    obtain ⟨b, hb, ha⟩ := bind_eq_ok_iff.1 ha
    split at ha
    · cases ha
      exact listOf_finish hi hs
    · next hsuccess =>
      have hi := List.forall_mem_cons.2 ⟨hitem c b hb (by simpa using hsuccess), hi⟩
      obtain ⟨after, -, ha⟩ := bind_eq_ok_iff.1 ha
      split at ha
      · cases ha
        exact listOf_finish hi hs
      · split at ha
        · cases ha
          exact listOf_finish hi hs
        · exact ih hi _ a ha hs

/-- **A repetition gives a list of what its items gave.** -/
theorem gives_repetition (hitem : item.Gives kind) (least : Nat) (most : Option Nat) :
    (repetition item separator least most).Gives (ListOf kind) := by
  intro start a ha hs
  cases most with
  | none => exact gives_repetitionFrom hitem least true _ (List.forall_mem_nil _) start a ha hs
  | some most => exact gives_repetitionFrom hitem least false most (List.forall_mem_nil _) start a ha hs

end Step

/-- A pattern gives a text. -/
theorem Description.gives_matchPattern (source : String) :
    Step.Gives (matchPattern source) fun v => ∃ s, v = .text s := by
  intro c a ha hs
  simp only [matchPattern] at ha
  split at ha
  · simp only [Node.matchTerminal] at ha
    split at ha
    · cases ha
      exact ⟨_, rfl⟩
    · cases ha
      cases hs
  · cases ha

end DataGrammar
