import DataGrammar.Proofs.Compilation.Defects
import DataGrammar.Proofs.Compilation.Reachable
import DataGrammar.Proofs.Matching.Branches
import Mathlib.Logic.Relation

/-!
# Groups that can be spliced

A group in a description does nothing of its own if it is a choice among the branches of a choice,
both without nesting, or a sequence among the parts of a sequence, both without a separator, whose
parts give nothing to it. What it groups can stand in its place.

* `Step.choice_splice`: trying the branches of a choice within a choice is trying them there. The
  failure of a group that got furthest is the furthest of its own, and the first of those remains.
* `Step.sequence_splice`: running the parts of a sequence within a sequence is running them there.
* `Description.Splices`, `Definitions.Splices`: a group is spliced at one place of a description, and
  any number of them in a grammar.
* `Parser.run_of_splices`: splicing groups changes no run and no error.
-/

namespace DataGrammar

/-- A part that gives nothing to the value of a sequence. -/
def Part.Plain {m : Type → Type} (part : Part m) : Prop :=
  part.name = none ∧ part.collapse = false

theorem Step.Gathered.add_of_plain {m : Type → Type} {part : Part m} (h : part.Plain)
    (g : Gathered) (item : Attempt) : g.add part item = g := by
  rw [add, h.1, h.2, Bool.and_false]
  rfl

namespace Step

variable {m : Type → Type} [Monad m] {start c : Cursor} {f g item : Attempt}

/-! ### The furthest failure of a group -/

theorem further_assoc (a b c : Attempt) : further (further a b) c = further a (further b c) := by
  simp only [further]
  split <;> split <;> (try split) <;> first | rfl | omega

theorem further_of_le (h : g.cursor.offset ≤ f.cursor.offset) : further f g = f :=
  if_neg (Nat.not_lt.2 h)

theorem success_further (hf : f.success = false) (hg : g.success = false) :
    (further f g).success = false := by
  rw [further]
  split
  · exact hg
  · exact hf

theorem le_further (f g : Attempt) : f.cursor.offset ≤ (further f g).cursor.offset := by
  rw [further]
  split
  · next hlt => exact Nat.le_of_lt hlt
  · exact Nat.le_refl _

/-- A failure that can be the furthest one of a choice: it is not before the start. -/
def Failed (start : Cursor) (f : Attempt) : Prop :=
  f.success = false ∧ start.offset ≤ f.cursor.offset

theorem Failed.further (h : Failed start f) (hitem : item.success = false) :
    Failed start (further f item) :=
  ⟨success_further h.1 hitem, Nat.le_trans h.2 (le_further f item)⟩

/-! ### Choices within choices -/

/-- Try parts from `start` on, and take the first that matches, or else the failure that got
furthest. -/
def tryFrom (start : Cursor) : List (Part m) → (furthest : Attempt) → m Attempt
  | [], furthest => pure furthest
  | part :: rest, furthest => do
    let item ← part.step start
    if item.success then return item
    else tryFrom start rest (further furthest item)

/-- Without nesting, the keys of branches do not count. -/
theorem choiceFrom_none (parts : List (Part m)) (number : Nat) (before : List String) :
    choiceFrom .none start (branches number parts) before f = tryFrom start parts f := by
  induction parts generalizing number before f with
  | nil => rfl
  | cons part parts ih =>
    rw [branches, choiceFrom, tryFrom]
    refine congrArg _ (funext fun item => ?_)
    obtain ⟨success, cursor, value⟩ := item
    cases success with
    | true => rfl
    | false => exact ih _ _

theorem tryFrom_congr {parts more : List (Part m)}
    (h : ∀ f, Failed start f → tryFrom start parts f = tryFrom start more f)
    (before : List (Part m)) (hf : Failed start f) :
    tryFrom start (before ++ parts) f = tryFrom start (before ++ more) f := by
  induction before generalizing f with
  | nil => exact h f hf
  | cons part before ih =>
    rw [List.cons_append, List.cons_append, tryFrom, tryFrom]
    refine congrArg _ (funext fun item => ?_)
    cases hitem : item.success with
    | true => rfl
    | false => exact ih (hf.further hitem)

variable [LawfulMonad m]

/-- A choice without nesting and default is nothing but its branches. -/
theorem choice_none_none (parts : List (Part m)) (start : Cursor) :
    choice .none parts none start = tryFrom start parts ⟨false, start, .null⟩ := by
  simp only [choice, choiceFrom_none, orDefault, ite_self, bind_pure]

/-- Trying parts with a failure in front is trying them without it, and then the furthest of both
remains. -/
theorem tryFrom_further (parts : List (Part m)) (hg : g.success = false) :
    tryFrom start parts (further f g) = do
      let a ← tryFrom start parts g
      return if a.success then a else further f a := by
  induction parts generalizing g with
  | nil => simp [tryFrom, hg]
  | cons part parts ih =>
    simp only [tryFrom, bind_assoc]
    refine congrArg _ (funext fun item => ?_)
    cases hitem : item.success with
    | true => simp [hitem]
    | false =>
      simp only [Bool.false_eq_true, if_false]
      rw [further_assoc, ih (success_further hg hitem)]

/-- After parts that all fail, those behind them are tried. -/
theorem tryFrom_append (parts more : List (Part m)) (hf : f.success = false) :
    tryFrom start (parts ++ more) f = (do
      let a ← tryFrom start parts f
      if a.success then return a
      else tryFrom start more a) := by
  induction parts generalizing f with
  | nil => simp [tryFrom, hf]
  | cons part parts ih =>
    simp only [List.cons_append, tryFrom, bind_assoc]
    refine congrArg _ (funext fun item => ?_)
    cases hitem : item.success with
    | true => simp [hitem]
    | false => exact ih (success_further hf hitem)

/-- A choice among the parts can be replaced by its branches. -/
theorem tryFrom_splice (inner after : List (Part m)) (name : Option String) (collapse : Bool)
    (hf : Failed start f) :
    tryFrom start (⟨name, collapse, choice .none inner none⟩ :: after) f =
      tryFrom start (inner ++ after) f := by
  have hstart : further f ⟨false, start, .null⟩ = f := further_of_le hf.2
  have hinner : tryFrom start inner f = do
      let a ← tryFrom start inner ⟨false, start, .null⟩
      return if a.success then a else further f a := by
    rw [← tryFrom_further inner rfl, hstart]
  rw [tryFrom_append inner after hf.1, hinner, tryFrom, bind_assoc]
  simp only [choice_none_none, pure_bind]
  refine congrArg _ (funext fun a => ?_)
  cases hitem : a.success with
  | true => simp [hitem]
  | false => simp [success_further hf.1 hitem]

/-- **A choice among the branches of a choice can be replaced by its branches.** -/
theorem choice_splice (before inner after : List (Part m)) (name : Option String)
    (collapse : Bool) (default : Option Value) :
    choice .none (before ++ ⟨name, collapse, choice .none inner none⟩ :: after) default =
      choice .none (before ++ (inner ++ after)) default := by
  funext start
  have h : tryFrom start (before ++ ⟨name, collapse, choice .none inner none⟩ :: after)
      ⟨false, start, .null⟩ = tryFrom start (before ++ (inner ++ after)) ⟨false, start, .null⟩ :=
    tryFrom_congr (fun f hf => tryFrom_splice inner after name collapse hf) before
      ⟨rfl, Nat.le_refl _⟩
  simp only [choice, choiceFrom_none, h]

/-! ### Sequences within sequences -/

/-- Without a separator, each part goes on where the one before it has stopped. -/
theorem sequenceFrom_none_cons (part : Part m) (parts : List (Part m)) (g : Gathered)
    (c : Cursor) : sequenceFrom none (part :: parts) g c = (do
      let item ← part.step c
      if item.success then sequenceFrom none parts (g.add part item) item.cursor
      else return ⟨false, item.cursor, .map (g.add part item).fields⟩) := by
  rw [sequenceFrom]
  refine congrArg _ (funext fun item => ?_)
  rw [ite_self]
  cases item.success with
  | true => simp [optional]
  | false => rfl

theorem sequenceFrom_none_congr {parts more : List (Part m)}
    (h : ∀ g c, sequenceFrom none parts g c = sequenceFrom none more g c) (before : List (Part m))
    (g : Gathered) (c : Cursor) :
    sequenceFrom none (before ++ parts) g c = sequenceFrom none (before ++ more) g c := by
  induction before generalizing g c with
  | nil => exact h g c
  | cons part before ih =>
    rw [List.cons_append, List.cons_append, sequenceFrom_none_cons, sequenceFrom_none_cons]
    simp only [ih]

/-- After plain parts that all match, those behind them are run with what there was before. -/
theorem sequenceFrom_append {plain : List (Part m)} (h : ∀ part ∈ plain, part.Plain)
    (parts : List (Part m)) (g g' : Gathered) (c : Cursor) :
    sequenceFrom none (plain ++ parts) g c = (do
      let a ← sequenceFrom none plain g' c
      if a.success then sequenceFrom none parts g a.cursor
      else return ⟨false, a.cursor, .map g.fields⟩) := by
  induction plain generalizing c with
  | nil => simp [sequenceFrom]
  | cons part plain ih =>
    obtain ⟨hpart, hplain⟩ := List.forall_mem_cons.1 h
    simp only [List.cons_append, sequenceFrom_none_cons, bind_assoc, Gathered.add_of_plain hpart]
    refine congrArg _ (funext fun item => ?_)
    cases item.success with
    | true => exact ih hplain _
    | false => simp

/-- A sequence of plain parts among the parts can be replaced by them. -/
theorem sequenceFrom_splice {inner : List (Part m)} (h : ∀ part ∈ inner, part.Plain)
    (after : List (Part m)) (g : Gathered) (c : Cursor) :
    sequenceFrom none (⟨none, false, sequence none inner none⟩ :: after) g c =
      sequenceFrom none (inner ++ after) g c := by
  have hplain : Part.Plain ⟨none, false, sequence none inner none⟩ := ⟨rfl, rfl⟩
  rw [sequenceFrom_append h after g .nothing, sequenceFrom_none_cons]
  simp only [Gathered.add_of_plain hplain, sequence, orDefault, ite_self, bind_pure]

/-- **A sequence of plain parts among the parts of a sequence can be replaced by them.** -/
theorem sequence_splice {inner : List (Part m)} (h : ∀ part ∈ inner, part.Plain)
    (before after : List (Part m)) (default : Option Value) :
    sequence none (before ++ ⟨none, false, sequence none inner none⟩ :: after) default =
      sequence none (before ++ (inner ++ after)) default := by
  funext start
  rw [sequence, sequence, sequenceFrom_none_congr (sequenceFrom_splice h after) before]

end Step

namespace Description

variable {call : String → Step (Except Diagnostic)} {d d' : Description}

/-! ### Splicing descriptions -/

/-- A description that gives nothing to the value of the sequence around it. -/
def Plain (d : Description) : Prop := d.key = none ∧ d.collapse = false

instance : Decidable d.Plain := inferInstanceAs (Decidable (_ ∧ _))

/-- A group at one place of a description is replaced by what it groups. -/
inductive Splices : Description → Description → Prop
  /-- The branches of a choice take its place among the branches of a choice. -/
  | choice {before inner after : List Description} {name innerName : Option String}
      {default : Option Value} :
      Splices (.choice (before ++ .choice inner .none innerName none :: after) .none name default)
        (.choice (before ++ (inner ++ after)) .none name default)
  /-- The parts of a sequence take its place among the parts of a sequence. -/
  | sequence {before inner after : List Description} {name : Option String}
      {default : Option Value} (hinner : ∀ d ∈ inner, d.Plain) :
      Splices (.sequence (before ++ .sequence inner none none none :: after) none name default)
        (.sequence (before ++ (inner ++ after)) none name default)
  /-- The group is in a part of a sequence. -/
  | part {d d' : Description} {before after : List Description} {separator : Option Description}
      {name : Option String} {default : Option Value} (h : Splices d d') :
      Splices (.sequence (before ++ d :: after) separator name default)
        (.sequence (before ++ d' :: after) separator name default)
  /-- The group is in the separator of a sequence. -/
  | between {d d' : Description} {parts : List Description} {name : Option String}
      {default : Option Value} (h : Splices d d') :
      Splices (.sequence parts (some d) name default) (.sequence parts (some d') name default)
  /-- The group is in a branch of a choice. -/
  | branch {d d' : Description} {before after : List Description} {nesting : Nesting}
      {name : Option String} {default : Option Value} (h : Splices d d') :
      Splices (.choice (before ++ d :: after) nesting name default)
        (.choice (before ++ d' :: after) nesting name default)
  /-- The group is in the item of a repetition. -/
  | item {d d' : Description} {separator : Option Description} {least : Nat} {most : Option Nat}
      {name : Option String} (h : Splices d d') :
      Splices (.repetition d separator least most name) (.repetition d' separator least most name)
  /-- The group is in the separator of a repetition. -/
  | betweenItems {d d' item : Description} {least : Nat} {most : Option Nat} {name : Option String}
      (h : Splices d d') :
      Splices (.repetition item (some d) least most name)
        (.repetition item (some d') least most name)

theorem interpretParts_append (ds more : List Description) :
    interpretParts call (ds ++ more) = interpretParts call ds ++ interpretParts call more := by
  induction ds with
  | nil => rfl
  | cons d ds ih => rw [List.cons_append, interpretParts, interpretParts, List.cons_append, ih]

theorem sitesList_append (ds more : List Description) :
    sitesList (ds ++ more) = sitesList ds ++ sitesList more := by
  induction ds with
  | nil => rfl
  | cons d ds ih => rw [List.cons_append, sitesList, sitesList, ih, List.append_assoc]

theorem plain_interpretParts {ds : List Description} (h : ∀ d ∈ ds, d.Plain) :
    ∀ part ∈ interpretParts call ds, part.Plain := by
  induction ds with
  | nil => exact List.forall_mem_nil _
  | cons d ds ih =>
    obtain ⟨hd, hds⟩ := List.forall_mem_cons.1 h
    exact List.forall_mem_cons.2 ⟨hd, ih hds⟩

/-- What is around a description sees its key, whether it collapses, and how it runs. -/
theorem Splices.key_eq (h : Splices d d') : d.key = d'.key ∧ d.collapse = d'.collapse := by
  cases h <;> exact ⟨rfl, rfl⟩

/-- **Splicing a group changes no place at which there can be a defect.** -/
theorem Splices.sites_eq (h : Splices d d') : d.sites = d'.sites := by
  induction h with
  | choice => simp only [sites, sitesList_append, sitesList]
  | sequence => simp only [sites, sitesList_append, sitesList, sitesOption, List.append_nil]
  | part _ ih | between _ ih | branch _ ih | item _ ih | betweenItems _ ih =>
    simp only [sites, sitesList_append, sitesList, sitesOption, ih]

/-- **Splicing a group does not change how a description runs.** -/
theorem Splices.interpret_eq (h : Splices d d') : d.interpret call = d'.interpret call := by
  induction h with
  | choice =>
    simp only [interpret, interpretParts_append, interpretParts]
    exact Step.choice_splice ..
  | sequence hinner =>
    simp only [interpret, interpretParts_append, interpretParts, interpretOption]
    exact Step.sequence_splice (plain_interpretParts hinner) ..
  | part h ih | branch h ih =>
    simp only [interpret, interpretParts_append, interpretParts, ih, h.key_eq]
  | between _ ih | item _ ih | betweenItems _ ih => simp only [interpret, interpretOption, ih]

/-- Any number of groups is replaced, one after the other. -/
abbrev SplicesAll : Description → Description → Prop := Relation.ReflTransGen Splices

theorem SplicesAll.sites_eq (h : SplicesAll d d') : d.sites = d'.sites := by
  induction h with
  | refl => rfl
  | tail _ h ih => exact ih.trans h.sites_eq

theorem SplicesAll.interpret_eq (h : SplicesAll d d') : d.interpret call = d'.interpret call := by
  induction h with
  | refl => rfl
  | tail _ h ih => exact ih.trans h.interpret_eq

end Description

/-! ### Splicing grammars -/

namespace Definitions

variable {d d' : Definitions}

/-- In a grammar, any number of groups is replaced by what they group. -/
def Splices (d d' : Definitions) : Prop :=
  List.Forall₂ (fun rule rule' => rule.1 = rule'.1 ∧ rule.2.SplicesAll rule'.2) d.rules d'.rules

theorem Splices.names_eq (h : d.Splices d') : d.names = d'.names := by
  rw [names, names]
  unfold Splices at h
  generalize d.rules = rules at h ⊢
  generalize d'.rules = rules' at h ⊢
  induction h with
  | nil => rfl
  | cons hrule _ ih => rw [List.map_cons, List.map_cons, hrule.1, ih]

theorem Splices.ruleSites_eq (h : d.Splices d') : d.ruleSites = d'.ruleSites := by
  rw [ruleSites, ruleSites, ruleSitesOf, ruleSitesOf]
  unfold Splices at h
  generalize d.rules = rules at h ⊢
  generalize d'.rules = rules' at h ⊢
  induction h with
  | nil => rfl
  | cons hrule _ ih => rw [List.flatMap_cons, List.flatMap_cons, hrule.1, hrule.2.sites_eq, ih]

theorem Splices.get? (h : d.Splices d') (name : String) :
    Option.Rel Description.SplicesAll (d.get? name) (d'.get? name) := by
  rw [Definitions.get?, Definitions.get?]
  unfold Splices at h
  generalize d.rules = rules at h ⊢
  generalize d'.rules = rules' at h ⊢
  induction h with
  | nil => exact .none
  | cons hrule _ ih =>
    rw [Keyed.find?_cons, Keyed.find?_cons, hrule.1]
    split
    · exact .some hrule.2
    · exact ih

/-- **Splicing groups changes no call of a rule.** -/
theorem Splices.call_eq (h : d.Splices d') (limit depth : Nat) (name : String) :
    d.call limit depth name = d'.call limit depth name := by
  induction depth generalizing name with
  | zero => rfl
  | succ depth ih =>
    have hrule := h.get? name
    simp only [call]
    generalize d.get? name = description at hrule ⊢
    generalize d'.get? name = description' at hrule ⊢
    cases hrule with
    | none => rfl
    | some hrule =>
      simp only [funext ih]
      exact hrule.interpret_eq

end Definitions

namespace Parser

/-- **Splicing groups changes nothing.** If groups that do nothing of their own are replaced by what
they group, at any places of a grammar, the same defect is reported of it or none, and every run of
every rule on every input ends in the same outcome or the same error, under any limit. -/
theorem run_of_splices {d d' : Definitions} (h : d.Splices d') (maxDepth : Nat) :
    (∀ e, compile d maxDepth = .error e ↔ compile d' maxDepth = .error e) ∧
    ∀ p, compile d maxDepth = .ok p → ∃ p', compile d' maxDepth = .ok p' ∧
      ∀ rule input, p.run rule input = p'.run rule input := by
  have hdiscard : discard (compile d maxDepth) = discard (compile d' maxDepth) := by
    rw [discard_compile, discard_compile, h.ruleSites_eq, h.names_eq]
  refine ⟨fun e => ?_, fun p hp => ?_⟩
  · rw [← discard_eq_error_iff, hdiscard, discard_eq_error_iff]
  · obtain ⟨p', hp'⟩ : ∃ p', compile d' maxDepth = .ok p' := by
      rw [← discard_eq_ok_iff, ← hdiscard, discard_eq_ok_iff]
      exact ⟨p, hp⟩
    refine ⟨p', hp', fun rule input => ?_⟩
    rw [run_eq_call hp, run_eq_call hp', h.call_eq]

end Parser

/-- A choice within a choice, and in a branch of it a sequence within a sequence. -/
def Definitions.sampleGrouped : Definitions := .ofList [
  ("expr", .choice [.pattern "a", .choice [
    .series [.pattern "\\(", .series [.ref "expr:", .pattern ","], .ref "expr"], .pattern "b"]
    .none none none, .pattern "c"] .none none none)]

/-- The same without groups. -/
def Definitions.sampleFlat : Definitions := .ofList [
  ("expr", .choice [.pattern "a",
    .series [.pattern "\\(", .ref "expr:", .pattern ",", .ref "expr"], .pattern "b", .pattern "c"]
    .none none none)]

theorem Definitions.splices_sampleGrouped : sampleGrouped.Splices sampleFlat := by
  have hinner : ∀ d ∈ [Description.ref "expr:", .pattern ","], d.Plain := by
    decide +kernel
  have hchoice := @Description.Splices.choice [.pattern "a"] [.series [.pattern "\\(",
    .series [.ref "expr:", .pattern ","], .ref "expr"], .pattern "b"] [.pattern "c"] none none none
  have hsequence := @Description.Splices.sequence [.pattern "\\("] _ [.ref "expr"] none none hinner
  have hbranch := @Description.Splices.branch _ _ [.pattern "a"] [.pattern "b", .pattern "c"] .none
    none none hsequence
  exact .cons ⟨rfl, .head hchoice (.single hbranch)⟩ .nil

theorem Parser.run_of_splices_sample : ∃ p p', compile .sampleGrouped 3 = .ok p ∧
    compile .sampleFlat 3 = .ok p' ∧ Definitions.sampleGrouped.Splices .sampleFlat ∧
    (∀ rule input, p.run rule input = p'.run rule input) ∧
    p'.run "expr" "(a,b" = .ok ⟨true, 4, .map [("expr", .text "b")]⟩ ∧
    p'.run "expr" "(a,(b;" = .ok ⟨false, 5, .map [("expr", .map [])]⟩ ∧
    p'.run "expr" "((((" = .error (Cause.recursionLimit 3) := by
  obtain ⟨p, hp⟩ := exists_compile_of_isSome
    (by decide +kernel : (Parser.compile .sampleGrouped 3).toOption.isSome)
  obtain ⟨p', hp', hrun⟩ := (run_of_splices Definitions.splices_sampleGrouped 3).2 p hp
  refine ⟨p, p', hp, hp', Definitions.splices_sampleGrouped, hrun, ?_, ?_, ?_⟩
  · rw [run_eq_call hp']
    decide +kernel
  · rw [run_eq_call hp']
    decide +kernel
  · rw [run_eq_call hp']
    decide +kernel

end DataGrammar
