import DataGrammar.Proofs.Compilation.Reachable
import DataGrammar.Proofs.Keyed

/-!
# Branches of a choice

A choice tries its branches in order, each from the start, and whatever a branch did that failed
has no effect on those after it. It is decided by what each branch does alone: the first one that
matches is taken; if none does, the failure is reported that got furthest.

* `Step.Furthest` picks the earliest attempt that got furthest.
* `Step.choice_of_match`, `Step.choice_of_fails`: what a choice does, given what its branches do.
* `Parser.choice_first_or_furthest`: the same for nodes.
* `Parser.choice_full`: a choice with full nesting gives an entry for every branch. The value of the
  branch that matched is in it unless a later branch has the same key.
-/

namespace DataGrammar

namespace Step

variable {nesting : Nesting} {start : Cursor} {parts before after : List (Part Option)}
  {part : Part Option} {items : List Attempt} {item a b first : Attempt}

/-! ### The furthest attempt -/

/-- The attempt got furthest, and is the earliest of those that did. -/
def Furthest (attempts : List Attempt) (a : Attempt) : Prop :=
  ∃ before after, attempts = before ++ a :: after ∧
    (∀ b ∈ before, b.cursor.offset < a.cursor.offset) ∧
    ∀ b ∈ after, b.cursor.offset ≤ a.cursor.offset

/-- The attempt that got further, the earlier one if both got equally far. -/
def further (a b : Attempt) : Attempt := if a.cursor.offset < b.cursor.offset then b else a

theorem Furthest.mem (h : Furthest items a) : a ∈ items := by
  obtain ⟨before, after, rfl, -, -⟩ := h
  exact List.mem_append_right _ List.mem_cons_self

theorem Furthest.offset_le (h : Furthest items a) (hb : b ∈ items) :
    b.cursor.offset ≤ a.cursor.offset := by
  obtain ⟨before, after, rfl, hbefore, hafter⟩ := h
  rcases List.mem_append.1 hb with hb | hb
  · exact Nat.le_of_lt (hbefore b hb)
  · rcases List.mem_cons.1 hb with rfl | hb
    · exact Nat.le_refl _
    · exact hafter b hb

/-- An attempt in front that was passed does not matter. -/
theorem Furthest.cons (h : Furthest items a) (hb : b.cursor.offset < a.cursor.offset) :
    Furthest (b :: items) a := by
  obtain ⟨before, after, rfl, hbefore, hafter⟩ := h
  exact ⟨b :: before, after, rfl, List.forall_mem_cons.2 ⟨hb, hbefore⟩, hafter⟩

/-- Neither does one that did not pass the one before it. -/
theorem Furthest.insert (h : Furthest (first :: items) a)
    (hb : b.cursor.offset ≤ first.cursor.offset) : Furthest (first :: b :: items) a := by
  obtain ⟨before, after, heq, hbefore, hafter⟩ := h
  cases before with
  | nil =>
    cases heq
    exact ⟨[], b :: items, rfl, List.forall_mem_nil _, List.forall_mem_cons.2 ⟨hb, hafter⟩⟩
  | cons head before =>
    cases heq
    obtain ⟨hfirst, hbefore⟩ := List.forall_mem_cons.1 hbefore
    exact ⟨first :: b :: before, after, rfl, List.forall_mem_cons.2
      ⟨hfirst, List.forall_mem_cons.2 ⟨Nat.lt_of_le_of_lt hb hfirst, hbefore⟩⟩, hafter⟩

theorem furthest_foldl (first : Attempt) (items : List Attempt) :
    Furthest (first :: items) (items.foldl further first) := by
  induction items generalizing first with
  | nil => exact ⟨[], [], rfl, List.forall_mem_nil _, List.forall_mem_nil _⟩
  | cons b items ih =>
    rw [List.foldl_cons, further]
    split
    · next hlt => exact (ih b).cons (Nat.lt_of_lt_of_le hlt ((ih b).offset_le List.mem_cons_self))
    · next hle => exact (ih first).insert (Nat.le_of_not_lt hle)

/-! ### Choices -/

/-- The part, run alone at a cursor, fails with an attempt. -/
def FailsWith (start : Cursor) (part : Part Option) (a : Attempt) : Prop :=
  part.step start = some a ∧ a.success = false

/-- The keys of parts as branches, the first of which has a number. -/
def keys (number : Nat) (parts : List (Part Option)) : List String :=
  (branches number parts).map Branch.key

theorem success_of_failsWith (h : List.Forall₂ (FailsWith start) parts items) :
    ∀ a ∈ items, a.success = false := by
  induction h with
  | nil => exact List.forall_mem_nil _
  | cons hp _ ih => exact List.forall_mem_cons.2 ⟨hp.2, ih⟩

/-- Branches that fail leave their keys, and the failure that got furthest. -/
theorem choiceFrom_of_fails (h : List.Forall₂ (FailsWith start) before items) (number : Nat)
    (keysBefore : List String) (first : Attempt) :
    choiceFrom nesting start (branches number (before ++ parts)) keysBefore first =
      choiceFrom nesting start (branches (number + before.length) parts)
        ((keys number before).reverse ++ keysBefore) (items.foldl further first) := by
  induction h generalizing number keysBefore first with
  | nil => rfl
  | @cons p a before items hp _ ih =>
    obtain ⟨hstep, hfails⟩ := hp
    have hkeys : (keys number (p :: before)).reverse ++ keysBefore =
        (keys (number + 1) before).reverse ++
          p.name.getD s!"property{number}" :: keysBefore := by
      simp [keys, branches]
    rw [hkeys, List.length_cons, Nat.add_comm before.length, ← Nat.add_assoc, List.foldl_cons,
      ← ih]
    simp only [List.cons_append, branches, choiceFrom, hstep, hfails, Option.bind_eq_bind,
      Option.bind_some, Bool.false_eq_true, if_false]
    rfl

/-- **The first branch that matches is taken.** -/
theorem choice_of_match (h : List.Forall₂ (FailsWith start) before items)
    (hstep : part.step start = some item) (hmatch : item.success = true)
    (default : Option Value) :
    choice nesting (before ++ part :: after) default start = some ⟨true, item.cursor,
      nest nesting (keys 1 before).reverse (part.name.getD s!"property{before.length + 1}")
        item.value (keys (before.length + 2) after)⟩ := by
  rw [choice, choiceFrom_of_fails h, List.append_nil, Nat.add_comm 1]
  simp only [branches, choiceFrom, hstep, hmatch, Option.bind_eq_bind, Option.bind_some, if_true]
  rfl

/-- The furthest of failures is a failure. -/
theorem success_foldl (h : List.Forall₂ (FailsWith start) parts items) :
    (items.foldl further ⟨false, start, .null⟩).success = false := by
  rcases List.mem_cons.1 (furthest_foldl ⟨false, start, .null⟩ items).mem with heq | hmem
  · rw [heq]
  · exact success_of_failsWith h _ hmem

/-- **If no branch matches,** the default is taken, or else the failure that got furthest. -/
theorem choice_of_fails (h : List.Forall₂ (FailsWith start) parts items)
    (default : Option Value) :
    choice nesting parts default start =
      some (orDefault default start (items.foldl further ⟨false, start, .null⟩)) := by
  rw [choice, ← List.append_nil parts, choiceFrom_of_fails h]
  simp only [branches, choiceFrom, success_foldl h, pure, bind, Option.bind_some,
    Bool.false_eq_true, if_false]

/-! ### Full nesting -/

theorem find?_nulls (key : String) (ks : List String) :
    Keyed.find? key (ks.map (·, Value.null)) = if key ∈ ks then some .null else none := by
  induction ks with
  | nil => rfl
  | cons k ks ih =>
    rw [List.map_cons, Keyed.find?_cons, ih]
    by_cases hk : key = k <;> simp [hk]

/-- What is filed under a key with full nesting: keys of later branches come first, then that of the
branch that matched, then those of earlier branches. -/
theorem get?_nest_full (earlier later : List String) (key k : String) (value : Value) :
    (nest .full earlier.reverse key value later).get? k =
      if k ∈ later then some .null else if k = key then some value
      else if k ∈ earlier then some .null else none := by
  have hget : (nest .full earlier.reverse key value later).get? k = Keyed.find? k (Keyed.ofEntries
      (earlier.map (·, .null) ++ (key, value) :: later.map (·, .null))) := by
    rw [nest, List.reverse_reverse]
    rfl
  rw [hget, Keyed.find?_ofEntries_eq_reverse, List.reverse_append, List.reverse_cons,
    ← List.map_reverse, ← List.map_reverse, List.append_assoc, Keyed.find?_append,
    List.singleton_append, Keyed.find?_cons, find?_nulls, find?_nulls]
  simp only [List.mem_reverse]
  split <;> rfl

end Step

/-! ### Nodes -/

namespace Node

variable {n : Nat} {terminal : Pattern → Step Option} {call : Fin n → Step Option}

/-- The key of a branch with a number: its name, or `property` and the number. -/
def branchKey (number : Nat) (node : Node n) : String := node.name.getD s!"property{number}"

/-- The keys of branches, the first of which has a number. -/
def branchKeys : (number : Nat) → List (Node n) → List String
  | _, [] => []
  | number, node :: nodes => node.branchKey number :: branchKeys (number + 1) nodes

theorem branchKeys_append (number : Nat) (nodes more : List (Node n)) :
    branchKeys number (nodes ++ more) =
      branchKeys number nodes ++ branchKeys (number + nodes.length) more := by
  induction nodes generalizing number with
  | nil => rfl
  | cons node nodes ih =>
    have h := ih (number + 1)
    rw [Nat.add_assoc, Nat.add_comm 1] at h
    exact congrArg _ h

theorem keys_parts (number : Nat) (nodes : List (Node n)) :
    Step.keys number (parts terminal call nodes) = branchKeys number nodes := by
  induction nodes generalizing number with
  | nil => rfl
  | cons node nodes ih => exact congrArg _ (ih _)

theorem parts_eq_map (nodes : List (Node n)) :
    parts terminal call nodes =
      nodes.map fun node => ⟨node.name, node.collapse, node.step terminal call⟩ := by
  induction nodes with
  | nil => rfl
  | cons node nodes ih => exact congrArg _ ih

end Node

namespace Parser

/-- The node, run alone at a cursor, fails with an attempt. -/
def FailsWith (p : Parser) (depth : Nat) (start : Cursor) (node : Node p.size) (a : Attempt) :
    Prop :=
  node.step Node.matchTerminal (p.call depth) start = some a ∧ a.success = false

variable {p : Parser} {depth : Nat} {start : Cursor} {nesting : Nesting} {name : Option String}
  {default : Option Value} {nodes before after : List (Node p.size)} {branch : Node p.size}
  {items : List Attempt} {item : Attempt}

theorem failsWith_parts (h : List.Forall₂ (p.FailsWith depth start) nodes items) :
    List.Forall₂ (Step.FailsWith start) (Node.parts Node.matchTerminal (p.call depth) nodes)
      items := by
  induction h with
  | nil => exact .nil
  | cons hnode _ ih => exact .cons hnode ih

/-- A choice of nodes takes the first branch that matches. -/
theorem step_choice_of_match (h : List.Forall₂ (p.FailsWith depth start) before items)
    (hstep : branch.step Node.matchTerminal (p.call depth) start = some item)
    (hmatch : item.success = true) :
    (Node.choice (before ++ branch :: after) nesting name default).step Node.matchTerminal
      (p.call depth) start = some ⟨true, item.cursor, Step.nest nesting
        (Node.branchKeys 1 before).reverse (branch.branchKey (before.length + 1)) item.value
        (Node.branchKeys (before.length + 2) after)⟩ := by
  have hlength : (Node.parts Node.matchTerminal (p.call depth) before).length = before.length := by
    rw [Node.parts_eq_map, List.length_map]
  rw [Node.step, Node.parts_eq_map, List.map_append, List.map_cons, ← Node.parts_eq_map,
    ← Node.parts_eq_map, Step.choice_of_match (failsWith_parts h) hstep hmatch, Node.keys_parts,
    Node.keys_parts, hlength]
  rfl

/-- **A choice takes its first match, or else reports its furthest failure.** Let the branches run
alone, each from the start of the choice.

* If those before some branch fail and that branch matches, the choice matches and stops where the
  branch does. Without nesting it gives the value of the branch; nesting what matched, it gives
  the map with that value as its only entry, under the key of the branch.
* If all of them fail, a choice with a default gives it and stops at the start. One without a
  default fails, as the earliest of its branches that got furthest, or with nothing at the start if
  none got past it. -/
theorem choice_first_or_furthest (p : Parser) (depth : Nat) (nodes : List (Node p.size))
    (nesting : Nesting) (name : Option String) (default : Option Value) (start : Cursor) :
    (∀ before branch after items item, nodes = before ++ branch :: after →
      List.Forall₂ (p.FailsWith depth start) before items →
      branch.step Node.matchTerminal (p.call depth) start = some item → item.success = true →
      ∃ value, (Node.choice nodes nesting name default).step Node.matchTerminal (p.call depth)
          start = some ⟨true, item.cursor, value⟩ ∧
        (nesting = .none → value = item.value) ∧
        (nesting = .matched → value = .map [(branch.branchKey (before.length + 1), item.value)])) ∧
    (∀ items, List.Forall₂ (p.FailsWith depth start) nodes items →
      ∃ a, (Node.choice nodes nesting name default).step Node.matchTerminal (p.call depth)
          start = some a ∧
        (∀ value, default = some value → a = ⟨true, start, value⟩) ∧
        (default = none →
          a.success = false ∧ Step.Furthest (⟨false, start, .null⟩ :: items) a)) := by
  constructor
  · rintro before branch after items item rfl hbefore hstep hmatch
    refine ⟨_, step_choice_of_match hbefore hstep hmatch, ?_, ?_⟩
    · rintro rfl
      rfl
    · rintro rfl
      rfl
  · intro items h
    have hfurthest := Step.furthest_foldl ⟨false, start, .null⟩ items
    refine ⟨_, Step.choice_of_fails (failsWith_parts h) default, ?_, ?_⟩
    · rintro value rfl
      rfl
    · rintro rfl
      exact ⟨Step.success_foldl (failsWith_parts h), hfurthest⟩

/-- **A choice with full nesting has an entry for every branch.** Where the branches before some
branch fail and that branch matches, the choice gives a map whose keys are the keys of all branches.
Under every key but that of the branch that matched, there is nothing. Under its own key, there is
its value, unless a branch after it has the same key: then the value is lost. -/
theorem choice_full (p : Parser) (depth : Nat) (before : List (Node p.size))
    (branch : Node p.size) (after : List (Node p.size)) (name : Option String)
    (default : Option Value) {start : Cursor} {items : List Attempt} {item : Attempt}
    (h : List.Forall₂ (p.FailsWith depth start) before items)
    (hstep : branch.step Node.matchTerminal (p.call depth) start = some item)
    (hmatch : item.success = true) :
    ∃ entries, (Node.choice (before ++ branch :: after) .full name default).step
        Node.matchTerminal (p.call depth) start = some ⟨true, item.cursor, .map entries⟩ ∧
      Keyed.Ascending entries ∧
      (∀ key, key ∈ entries.map Prod.fst ↔
        key ∈ Node.branchKeys 1 (before ++ branch :: after)) ∧
      (∀ key ∈ Node.branchKeys 1 (before ++ branch :: after),
        key ≠ branch.branchKey (before.length + 1) → Keyed.find? key entries = some .null) ∧
      Keyed.find? (branch.branchKey (before.length + 1)) entries =
        some (if branch.branchKey (before.length + 1) ∈ Node.branchKeys (before.length + 2) after
          then .null else item.value) := by
  have hfind := fun key => Step.get?_nest_full (Node.branchKeys 1 before)
    (Node.branchKeys (before.length + 2) after) (branch.branchKey (before.length + 1)) key
    item.value
  have hkeys : Node.branchKeys 1 (before ++ branch :: after) = Node.branchKeys 1 before ++
      branch.branchKey (before.length + 1) :: Node.branchKeys (before.length + 2) after := by
    rw [Node.branchKeys_append, Nat.add_comm 1]
    rfl
  rw [hkeys]
  refine ⟨_, step_choice_of_match h hstep hmatch, Keyed.ascending_ofEntries _, fun key => ?_,
    fun key hkey hne => ?_, ?_⟩
  · refine Keyed.mem_keys_ofEntries.trans (iff_of_eq (congrArg (key ∈ ·) ?_))
    simp [Function.comp_def]
  · refine (hfind key).trans ?_
    simp only [List.mem_append, List.mem_cons, hne, false_or] at hkey
    rcases hkey with hearlier | hlater
    · rw [if_neg hne, if_pos hearlier, ite_self]
    · rw [if_pos hlater]
  · refine (hfind _).trans ?_
    rw [if_pos rfl]
    split <;> rfl

/-! ### Samples -/

/-- The rule `expr` of the sample two times. -/
def sampleTwice : Node sample.size :=
  .sequence [.reference sampleRule (some "first") false, .reference sampleRule none false] none
    (some "twice") none

/-- The rule `expr` of the sample two times, or once. -/
def sampleBranches : List (Node sample.size) := [sampleTwice, .reference sampleRule none false]

/-- Where it stands once only, the first branch fails. -/
theorem failsWith_sampleTwice : List.Forall₂ (sample.FailsWith 3 (.start "(x)")) [sampleTwice]
    [⟨false, ⟨3, some ')', []⟩, .map [("first", .text "x")]⟩] :=
  .cons ⟨by decide +kernel, rfl⟩ .nil

/-- Where it does not stand, both branches get equally far. -/
theorem failsWith_sampleBranches :
    List.Forall₂ (sample.FailsWith 3 (.start "(")) sampleBranches
      [⟨false, ⟨1, some '(', []⟩, .map [("first", .map [])]⟩,
        ⟨false, ⟨1, some '(', []⟩, .map []⟩] :=
  .cons ⟨by decide +kernel, rfl⟩ (.cons ⟨by decide +kernel, rfl⟩ .nil)

theorem choice_first_or_furthest_sample :
    (Node.choice sampleBranches .matched none none).step Node.matchTerminal (sample.call 3)
      (.start "(x)") = some ⟨true, ⟨3, some ')', []⟩, .map [("property2", .text "x")]⟩ ∧
    (Node.choice sampleBranches .none none (some (.text "-"))).step Node.matchTerminal
      (sample.call 3) (.start "(") = some ⟨true, .start "(", .text "-"⟩ ∧
    Step.Furthest [⟨false, .start "(", .null⟩,
        ⟨false, ⟨1, some '(', []⟩, .map [("first", .map [])]⟩, ⟨false, ⟨1, some '(', []⟩, .map []⟩]
      ⟨false, ⟨1, some '(', []⟩, .map [("first", .map [])]⟩ := by
  obtain ⟨value, hvalue, -, hmatched⟩ := (choice_first_or_furthest sample 3 sampleBranches .matched
    none none (.start "(x)")).1 _ _ [] _ ⟨true, ⟨3, some ')', []⟩, .text "x"⟩ rfl
      failsWith_sampleTwice (by decide +kernel) rfl
  obtain ⟨a, ha, hdefault, -⟩ := (choice_first_or_furthest sample 3 sampleBranches .none none
    (some (.text "-")) (.start "(")).2 _ failsWith_sampleBranches
  obtain ⟨b, hb, -, hfurthest⟩ := (choice_first_or_furthest sample 3 sampleBranches .none none none
    (.start "(")).2 _ failsWith_sampleBranches
  have hfirst : (Node.choice sampleBranches .none none none).step Node.matchTerminal (sample.call 3)
      (.start "(") = some ⟨false, ⟨1, some '(', []⟩, .map [("first", .map [])]⟩ := by
    decide +kernel
  cases hmatched rfl
  cases hdefault _ rfl
  cases hb.symm.trans hfirst
  exact ⟨hvalue, ha, (hfurthest rfl).2⟩

/-- With full nesting, the branch after the match has an entry, too. -/
def sampleFull : Node sample.size :=
  .choice [sampleTwice, .reference sampleRule none false, .reference sampleRule (some "more") false]
    .full none none

theorem choice_full_sample : sampleFull.step Node.matchTerminal (sample.call 3) (.start "(x)") =
    some ⟨true, ⟨3, some ')', []⟩,
      .map [("more", .null), ("property2", .text "x"), ("twice", .null)]⟩ ∧
    Keyed.find? "property2" [("more", .null), ("property2", .text "x"), ("twice", .null)] =
      some (Value.text "x") := by
  have hbranch : (Node.reference sampleRule none false).step Node.matchTerminal (sample.call 3)
      (.start "(x)") = some ⟨true, ⟨3, some ')', []⟩, .text "x"⟩ := by
    decide +kernel
  obtain ⟨entries, hentries, -, -, -, hvalue⟩ := choice_full sample 3 _ _
    [.reference sampleRule (some "more") false] none none failsWith_sampleTwice hbranch rfl
  have hrun : sampleFull.step Node.matchTerminal (sample.call 3) (.start "(x)") =
      some ⟨true, ⟨3, some ')', []⟩,
        .map [("more", .null), ("property2", .text "x"), ("twice", .null)]⟩ := by
    decide +kernel
  cases hentries.symm.trans hrun
  exact ⟨hrun, hvalue⟩

end Parser

/-- Two branches with one key, and rules for them. -/
def Definitions.sampleTwins : Definitions := .ofList [
  ("c", .choice [.ref "x:X", .ref "y:X"] .full none none), ("x", .pattern "x"), ("y", .pattern "y")]

/-- The first branch matches, and its value is lost to that of the second one, which is not even
tried. The other way round, the value is kept. -/
theorem Parser.lost_of_twin_keys : ∃ p, Parser.compile .sampleTwins 3 = .ok p ∧
    p.run "x" "x" = .ok ⟨true, 1, .text "x"⟩ ∧
    p.run "c" "x" = .ok ⟨true, 1, .map [("X", .null)]⟩ ∧
    p.run "c" "y" = .ok ⟨true, 1, .map [("X", .text "y")]⟩ := by
  obtain ⟨p, hp⟩ := exists_compile_of_isSome
    (by decide +kernel : (Parser.compile .sampleTwins 3).toOption.isSome)
  refine ⟨p, hp, ?_, ?_, ?_⟩
  all_goals
    rw [run_eq_call hp]
    decide +kernel

end DataGrammar
