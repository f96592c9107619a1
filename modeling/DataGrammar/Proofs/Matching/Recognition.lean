import DataGrammar.Proofs.Compilation.Reachable

/-!
# Recognition and the shape of results

Keys, collapse marks, names, nesting and the contents of defaults shape the result of a run. They
do not decide what is recognized: whether a rule matches and where it stops.

* `Description.skeleton` takes everything out of a description that only shapes results; two
  grammars with one skeleton differ in nothing else.
* `Step.Alike` says of two steps that they go the same way from every place; steps made of steps
  that are alike are alike.
* `Description.alike_interpret`: a description and its skeleton are alike.
* `Parser.verdict_run_of_skeleton_eq`: two grammars with one skeleton compile alike and recognize
  the same.
-/

namespace DataGrammar

/-- What an attempt decides: whether it matched and where it stopped. -/
def Attempt.verdict (a : Attempt) : Bool × Cursor := (a.success, a.cursor)

/-- What an outcome decides: whether the rule matched and up to where. -/
def Outcome.verdict (o : Outcome) : Bool × Nat := (o.success, o.position)

/-! ### Steps that are alike -/

/-- From every place, both steps end with the same error, or both go the same way. -/
def Step.Alike {ε : Type} (f g : Step (Except ε)) : Prop :=
  ∀ c, (f c).map Attempt.verdict = (g c).map Attempt.verdict

variable {ε : Type} {f g : Step (Except ε)} {s t : Option (Step (Except ε))}
  {ps qs : List (Part (Except ε))}

/-- Two parts with steps that are alike. -/
def Part.Alike (p q : Part (Except ε)) : Prop := Step.Alike p.step q.step

/-- Computations whose first halves go the same way do so, if what follows does. -/
theorem map_verdict_bind_congr {x y : Except ε Attempt} {f g : Attempt → Except ε Attempt}
    (hx : x.map Attempt.verdict = y.map Attempt.verdict)
    (h : ∀ a b, a.verdict = b.verdict →
      (f a).map Attempt.verdict = (g b).map Attempt.verdict) :
    (x >>= f).map Attempt.verdict = (y >>= g).map Attempt.verdict := by
  cases x with
  | error e =>
    cases y with
    | error e' => exact congrArg Except.error (Except.error.inj hx)
    | ok b => cases hx
  | ok a =>
    cases y with
    | error e => cases hx
    | ok b => exact h a b (Except.ok.inj hx)

theorem Attempt.verdict_eq {a b : Attempt} (h : a.verdict = b.verdict) :
    a.success = b.success ∧ a.cursor = b.cursor :=
  ⟨congrArg Prod.fst h, congrArg Prod.snd h⟩

namespace Step

theorem alike_optional (h : Option.Rel Alike s t) : Alike (optional s) (optional t) := by
  intro c
  cases h with
  | none => rfl
  | some h => exact h c

/-- A default takes the place of a failure, whatever its content is. -/
theorem verdict_orDefault {default default' : Option Value} {start : Cursor} {a b : Attempt}
    (hd : default.isSome = default'.isSome) (h : a.verdict = b.verdict) :
    (orDefault default start a).verdict = (orDefault default' start b).verdict := by
  cases default with
  | none =>
    cases default' with
    | none => exact h
    | some value => cases hd
  | some value =>
    cases default' with
    | none => cases hd
    | some value' => rfl

theorem alike_sequenceFrom (hs : Option.Rel Alike s t) (h : List.Forall₂ Part.Alike ps qs)
    (before before' : Gathered) :
    Alike (sequenceFrom s ps before) (sequenceFrom t qs before') := by
  induction h generalizing before before' with
  | nil => exact fun c => rfl
  | @cons p q ps qs hp hps ih =>
    intro c
    simp only [sequenceFrom]
    refine map_verdict_bind_congr (hp c) fun item item' hitem => ?_
    obtain ⟨hsuccess, hcursor⟩ := Attempt.verdict_eq hitem
    rw [hsuccess]
    cases item'.success with
    | false => exact congrArg (fun cursor => Except.ok (false, cursor)) hcursor
    | true =>
      have hsep : Option.Rel Alike (if ps.isEmpty then none else s)
          (if qs.isEmpty then none else t) := by
        cases hps with
        | nil => exact .none
        | cons => exact hs
      rw [hcursor]
      refine map_verdict_bind_congr (alike_optional hsep _) fun between between' hb => ?_
      obtain ⟨hsuccess, hcursor⟩ := Attempt.verdict_eq hb
      rw [hsuccess, hcursor]
      cases between'.success with
      | false => rfl
      | true => exact ih _ _ _

/-- **Sequences of parts that are alike are alike**, whatever keys their parts have. -/
theorem alike_sequence (hs : Option.Rel Alike s t) (h : List.Forall₂ Part.Alike ps qs)
    {default default' : Option Value} (hd : default.isSome = default'.isSome) :
    Alike (sequence s ps default) (sequence t qs default') := by
  intro start
  refine map_verdict_bind_congr (alike_sequenceFrom hs h _ _ start) fun a b hab => ?_
  rw [(Attempt.verdict_eq hab).1]
  cases b.success with
  | true => exact congrArg Except.ok hab
  | false => exact congrArg Except.ok (verdict_orDefault hd hab)

/-- Branches of parts that are alike. -/
theorem alike_branches (h : List.Forall₂ Part.Alike ps qs) (number : Nat) :
    List.Forall₂ (fun b d : Branch (Except ε) => Alike b.step d.step)
      (branches number ps) (branches number qs) := by
  induction h generalizing number with
  | nil => exact .nil
  | cons hp _ ih => exact .cons hp (ih _)

theorem verdict_choiceFrom {bs ds : List (Branch (Except ε))}
    (h : List.Forall₂ (fun b d => Alike b.step d.step) bs ds) (nesting nesting' : Nesting)
    (start : Cursor) (before before' : List String) {furthest furthest' : Attempt}
    (hf : furthest.verdict = furthest'.verdict) :
    (choiceFrom nesting start bs before furthest).map Attempt.verdict =
      (choiceFrom nesting' start ds before' furthest').map Attempt.verdict := by
  induction h generalizing before before' furthest furthest' with
  | nil => exact congrArg Except.ok hf
  | @cons b d bs ds hb hbs ih =>
    simp only [choiceFrom]
    refine map_verdict_bind_congr (hb start) fun item item' hitem => ?_
    obtain ⟨hsuccess, hcursor⟩ := Attempt.verdict_eq hitem
    rw [hsuccess]
    cases item'.success with
    | true => exact congrArg (fun cursor => Except.ok (true, cursor)) hcursor
    | false =>
      refine ih _ _ ?_
      rw [hcursor, (Attempt.verdict_eq hf).2]
      split
      · exact hitem
      · exact hf

/-- **Choices between parts that are alike are alike**, whatever keys and nesting they have. -/
theorem alike_choice (h : List.Forall₂ Part.Alike ps qs) (nesting nesting' : Nesting)
    {default default' : Option Value} (hd : default.isSome = default'.isSome) :
    Alike (choice nesting ps default) (choice nesting' qs default') := by
  intro start
  refine map_verdict_bind_congr
    (verdict_choiceFrom (alike_branches h 1) nesting nesting' start [] [] rfl) fun a b hab => ?_
  rw [(Attempt.verdict_eq hab).1]
  cases b.success with
  | true => exact congrArg Except.ok hab
  | false => exact congrArg Except.ok (verdict_orDefault hd hab)

/-- Of the items only their number counts. -/
theorem verdict_finish (least : Nat) {items items' : List Value}
    (h : items.length = items'.length) (commit stop : Cursor) (rest rest' : Value) :
    (finish least items commit stop rest).verdict =
      (finish least items' commit stop rest').verdict := by
  unfold finish
  rw [h]
  split <;> rfl

theorem alike_repetitionFrom (hf : Alike f g) (hs : Option.Rel Alike s t) (least : Nat)
    (endless : Bool) (tries : Nat) {items items' : List Value}
    (h : items.length = items'.length) :
    Alike (repetitionFrom f s least endless tries items)
      (repetitionFrom g t least endless tries items') := by
  induction tries generalizing items items' with
  | zero => exact fun c => congrArg Except.ok (verdict_finish least h c c _ _)
  | succ tries ih =>
    intro c
    simp only [repetitionFrom]
    refine map_verdict_bind_congr (hf c) fun a b hab => ?_
    obtain ⟨hsuccess, hcursor⟩ := Attempt.verdict_eq hab
    rw [hsuccess, hcursor]
    cases b.success with
    | false => exact congrArg Except.ok (verdict_finish least h _ _ _ _)
    | true =>
      have hitems : (a.value :: items).length = (b.value :: items').length :=
        congrArg Nat.succ h
      refine map_verdict_bind_congr (alike_optional hs b.cursor) fun after after' hafter => ?_
      obtain ⟨hsuccess, hcursor⟩ := Attempt.verdict_eq hafter
      rw [hsuccess, hcursor, hitems]
      cases after'.success with
      | false => exact congrArg Except.ok (verdict_finish least hitems _ _ _ _)
      | true =>
        simp only [Bool.not_true, Bool.false_eq_true, if_false]
        split
        · exact congrArg Except.ok (verdict_finish least hitems _ _ _ _)
        · exact ih hitems _

/-- **Repetitions of items that are alike are alike.** -/
theorem alike_repetition (hf : Alike f g) (hs : Option.Rel Alike s t) (least : Nat)
    (most : Option Nat) : Alike (repetition f s least most) (repetition g t least most) := by
  intro start
  cases most with
  | none => exact alike_repetitionFrom hf hs least true _ rfl start
  | some most => exact alike_repetitionFrom hf hs least false most rfl start

end Step

/-! ### Skeletons -/

namespace Description

mutual

/-- The description without anything that only shapes results: keys and collapse marks of
references, names, nesting, and the contents of defaults. That there is a default stays. -/
def skeleton : Description → Description
  | .pattern source => .pattern source
  | .reference ref => .reference ⟨ref.target, none, false⟩
  | .sequence parts separator _ default =>
    .sequence (skeletonList parts) (skeletonOption separator) none (default.map fun _ => .null)
  | .choice branches _ _ default =>
    .choice (skeletonList branches) .none none (default.map fun _ => .null)
  | .repetition item separator least most _ =>
    .repetition item.skeleton (skeletonOption separator) least most none

/-- The skeletons of some descriptions. -/
def skeletonList : List Description → List Description
  | [] => []
  | d :: ds => d.skeleton :: skeletonList ds

/-- The skeleton of a separator. -/
def skeletonOption : Option Description → Option Description
  | none => none
  | some d => some d.skeleton

end

section

variable {call call' : String → Step (Except Diagnostic)}

mutual

/-- **A description goes the same way as its skeleton**, if the rules that they refer to do. -/
theorem alike_interpret (hcall : ∀ name, Step.Alike (call name) (call' name)) (d : Description) :
    Step.Alike (d.interpret call) (d.skeleton.interpret call') := by
  cases d with
  | pattern source => exact fun c => rfl
  | reference ref => exact hcall ref.target
  | sequence parts separator name default =>
    exact Step.alike_sequence (alike_interpretOption hcall separator)
      (alike_interpretParts hcall parts)
      (Option.isSome_map ..).symm
  | choice branches nesting name default =>
    exact Step.alike_choice (alike_interpretParts hcall branches) nesting .none
      (Option.isSome_map ..).symm
  | repetition item separator least most name =>
    exact Step.alike_repetition (alike_interpret hcall item) (alike_interpretOption hcall separator)
      least most

theorem alike_interpretParts (hcall : ∀ name, Step.Alike (call name) (call' name))
    (ds : List Description) :
    List.Forall₂ Part.Alike (interpretParts call ds)
      (interpretParts call' (skeletonList ds)) := by
  cases ds with
  | nil => exact .nil
  | cons d ds => exact .cons (alike_interpret hcall d) (alike_interpretParts hcall ds)

theorem alike_interpretOption (hcall : ∀ name, Step.Alike (call name) (call' name))
    (separator : Option Description) :
    Option.Rel Step.Alike (interpretOption call separator)
      (interpretOption call' (skeletonOption separator)) := by
  cases separator with
  | none => exact .none
  | some d => exact .some (alike_interpret hcall d)

end

end

variable {rule : String} {names : List String}

mutual

/-- A description compiles if and only if its skeleton does. -/
theorem exists_compile_skeleton_iff (d : Description) :
    (∃ node, d.skeleton.compile rule names = .ok node) ↔
      ∃ node, d.compile rule names = .ok node := by
  cases d with
  | pattern source => exact Iff.rfl
  | reference ref => simp [skeleton, compile_reference_iff]
  | sequence parts separator name default =>
    simp [skeleton, compile_sequence_iff, exists_compileList_skeleton_iff parts,
      exists_compileOption_skeleton_iff separator]
  | choice branches nesting name default =>
    simp [skeleton, compile_choice_iff, exists_compileList_skeleton_iff branches]
  | repetition item separator least most name =>
    simp [skeleton, compile_repetition_iff, exists_compile_skeleton_iff item,
      exists_compileOption_skeleton_iff separator]

theorem exists_compileList_skeleton_iff (ds : List Description) :
    (∃ nodes, compileList rule names (skeletonList ds) = .ok nodes) ↔
      ∃ nodes, compileList rule names ds = .ok nodes := by
  cases ds with
  | nil => exact Iff.rfl
  | cons d ds =>
    simp [skeletonList, compileList_cons_iff, exists_compile_skeleton_iff d,
      exists_compileList_skeleton_iff ds]

theorem exists_compileOption_skeleton_iff (separator : Option Description) :
    (∃ s, compileOption rule names (skeletonOption separator) = .ok s) ↔
      ∃ s, compileOption rule names separator = .ok s := by
  cases separator with
  | none => exact Iff.rfl
  | some d => simp [skeletonOption, compileOption_some_iff, exists_compile_skeleton_iff d]

end

end Description

/-! ### Grammars -/

theorem Keyed.find?_map {α β : Type} (key : String) (f : α → β) (entries : List (String × α)) :
    find? key (entries.map fun e => (e.1, f e.2)) = (find? key entries).map f := by
  induction entries with
  | nil => rfl
  | cons e rest ih =>
    rw [List.map_cons, find?_cons, find?_cons, ih]
    split <;> rfl

namespace Definitions

/-- The definitions without anything that only shapes results. -/
def skeleton (d : Definitions) : Definitions where
  rules := d.rules.map fun rule => (rule.1, rule.2.skeleton)
  ascending := by
    rw [Keyed.Ascending, List.pairwise_map]
    exact d.ascending

theorem get?_skeleton (d : Definitions) (name : String) :
    d.skeleton.get? name = (d.get? name).map Description.skeleton :=
  Keyed.find?_map ..

theorem names_skeleton (d : Definitions) : d.skeleton.names = d.names := by
  unfold names skeleton
  rw [List.map_map]
  rfl

/-- **Calls go the same way in the skeleton of a grammar.** -/
theorem alike_call_skeleton (d : Definitions) (limit depth : Nat) (name : String) :
    Step.Alike (d.call limit depth name) (d.skeleton.call limit depth name) := by
  induction depth generalizing name with
  | zero => exact fun c => rfl
  | succ depth ih =>
    simp only [call, get?_skeleton]
    cases d.get? name with
    | none => exact fun c => rfl
    | some description => exact description.alike_interpret ih

end Definitions

namespace Parser

theorem exists_compileRules_iff {names : List String} {rules : List (String × Description)} :
    (∃ nodes, compileRules names rules = .ok nodes) ↔
      ∀ rule ∈ rules, ∃ node, rule.2.compile rule.1 names = .ok node := by
  induction rules with
  | nil => exact ⟨fun _ _ h => absurd h List.not_mem_nil, fun _ => ⟨#v[], rfl⟩⟩
  | cons rule rules ih =>
    rw [List.forall_mem_cons, ← ih]
    simp only [compileRules, bind_eq_ok_iff]
    constructor
    · rintro ⟨_, node, hnode, nodes, hnodes, -⟩
      exact ⟨⟨node, hnode⟩, nodes, hnodes⟩
    · rintro ⟨⟨node, hnode⟩, nodes, hnodes⟩
      exact ⟨_, node, hnode, nodes, hnodes, rfl⟩

/-- A grammar compiles if and only if each of its rules does. -/
theorem exists_compile_iff {d : Definitions} {maxDepth : Nat} :
    (∃ p, Parser.compile d maxDepth = .ok p) ↔
      ∀ rule ∈ d.rules, ∃ node, rule.2.compile rule.1 d.names = .ok node := by
  rw [← exists_compileRules_iff]
  constructor
  · rintro ⟨p, h⟩
    obtain ⟨nodes, hnodes, -⟩ := bind_eq_ok_iff.1 h
    exact ⟨nodes, hnodes⟩
  · rintro ⟨nodes, hnodes⟩
    exact ⟨_, bind_eq_ok_iff.2 ⟨nodes, hnodes, rfl⟩⟩

theorem exists_compile_skeleton_iff {d : Definitions} {maxDepth : Nat} :
    (∃ p, Parser.compile d.skeleton maxDepth = .ok p) ↔
      ∃ p, Parser.compile d maxDepth = .ok p := by
  rw [exists_compile_iff, exists_compile_iff, Definitions.names_skeleton]
  exact List.forall_mem_map.trans
    (forall₂_congr fun rule _ => rule.2.exists_compile_skeleton_iff)

/-- **A run goes the same way as a call in the skeleton.** -/
theorem verdict_run {d : Definitions} {maxDepth : Nat} {p : Parser}
    (h : Parser.compile d maxDepth = .ok p) (rule input : String) :
    (p.run rule input).map Outcome.verdict =
      ((d.skeleton.call maxDepth (maxDepth + 1) rule (.start input)).map Attempt.verdict).map
        fun v => (v.1, v.2.offset) := by
  rw [run_eq_call h, ← d.alike_call_skeleton]
  cases d.call maxDepth (maxDepth + 1) rule (.start input) <;> rfl

/-- **Recognition does not depend on how results are shaped.** Where two grammars differ in nothing
but keys and collapse marks of references, names of constructs, nesting of choices and contents of
defaults, one compiles if the other does, and every run has the same success and position in both,
or the same error. -/
theorem verdict_run_of_skeleton_eq {d d' : Definitions} (h : d.skeleton = d'.skeleton)
    {maxDepth : Nat} {p : Parser} (hp : Parser.compile d maxDepth = .ok p) :
    ∃ p', Parser.compile d' maxDepth = .ok p' ∧ ∀ rule input,
      (p.run rule input).map Outcome.verdict = (p'.run rule input).map Outcome.verdict := by
  have hskeleton := exists_compile_skeleton_iff.2 ⟨p, hp⟩
  rw [h] at hskeleton
  obtain ⟨p', hp'⟩ := exists_compile_skeleton_iff.1 hskeleton
  refine ⟨p', hp', fun rule input => ?_⟩
  rw [verdict_run hp, verdict_run hp', h]

end Parser

/-- Letters, an optional sign and nested parentheses, with plain results. -/
def Definitions.plain : Definitions := .ofList [
  ("expr", .choice [.series [.pattern "\\(", .ref "expr::", .pattern "\\)"], .ref "term"]
    .none none none),
  ("loop", .ref "loop"),
  ("term", .sequence [.ref "sign", .pattern "[a-z]+"] none none none),
  ("sign", .choice [.pattern "-"] .none none (some .null))]

/-- The same grammar with results of another shape. -/
def Definitions.shaped : Definitions := .ofList [
  ("expr", .choice [.series [.pattern "\\(", .ref "expr:Inner", .pattern "\\)"], .ref "term:"]
    .full (some "Expr") none),
  ("loop", .ref "loop:again::"),
  ("term", .sequence [.ref "sign:Sign", .pattern "[a-z]+"] none (some "Term") none),
  ("sign", .choice [.pattern "-"] .matched none (some (.list [.text "plus"])))]

theorem Parser.verdict_run_of_skeleton_eq_sample :
    Definitions.plain.skeleton = Definitions.shaped.skeleton ∧
    ∃ p p', Parser.compile .plain 4 = .ok p ∧ Parser.compile .shaped 4 = .ok p' ∧
      p.run "expr" "(-ab)" = .ok ⟨true, 5, .map [("sign", .text "-")]⟩ ∧
      (p.run "expr" "(-ab)").map Outcome.verdict = (p'.run "expr" "(-ab)").map Outcome.verdict ∧
      p'.run "expr" "(-ab)" = .ok ⟨true, 5, .map [("property1", .map
        [("Inner", .map [("property1", .null),
          ("property2", .map [("Sign", .map [("property1", .text "-")])])])]),
        ("property2", .null)]⟩ ∧
      (p.run "loop" "x").map Outcome.verdict = (p'.run "loop" "x").map Outcome.verdict ∧
      p'.run "loop" "x" = .error (Cause.recursionLimit 4) := by
  have hsame : Definitions.plain.skeleton = Definitions.shaped.skeleton := by decide +kernel
  obtain ⟨p, hp⟩ := exists_compile_of_isSome
    (by decide +kernel : (Parser.compile .plain 4).toOption.isSome)
  obtain ⟨p', hp', hrun⟩ := verdict_run_of_skeleton_eq hsame hp
  refine ⟨hsame, p, p', hp, hp', ?_, hrun "expr" "(-ab)", ?_, hrun "loop" "x", ?_⟩
  · rw [run_eq_call hp]
    decide +kernel
  · rw [run_eq_call hp']
    decide +kernel
  · rw [run_eq_call hp']
    decide +kernel

end DataGrammar
