import DataGrammar.Proofs.Keyed
import DataGrammar.Proofs.Notation.Regardless

/-!
# Defining rules one after the other

The rules of a grammar are defined in the order in which its text has them. Each one is described
first and then filed under its name, which no rule before it may have.

* `Sound`: rules that can all be defined; `Fault`: what is reported of a rule after others.
* `Filed`: definitions with some rules more.
* `define_cons_of_fault`, `exists_define`: what one rule does, and what sound rules do.
* `sound_or_fault`: rules are sound, or there is a first one with a fault.
* `definitions_of_properties`: so no rule of a text is lost, and none takes the place of another.
-/

namespace DataGrammar

theorem Keyed.length_insert {α : Type} {key : String} {entries : List (String × α)}
    (h : find? key entries = none) (value : α) :
    (insert key value entries).length = entries.length + 1 := by
  induction entries with
  | nil => rfl
  | cons entry entries ih =>
    rw [find?_cons] at h
    split at h
    · cases h
    · next hne =>
      unfold insert
      rw [if_neg hne]
      split
      · rfl
      · rw [List.length_cons, ih h, List.length_cons]

namespace Definitions

variable {d : Definitions} {name : String}

theorem contains_eq_false_iff : d.contains name = false ↔ d.get? name = none := by
  simp [contains]

theorem contains_insert {other : String} {description : Description} :
    (d.insert name description).contains other = true ↔ other = name ∨ d.contains other = true := by
  by_cases h : other = name <;> simp [contains, get?_insert, h]

theorem size_insert (h : d.contains name = false) (description : Description) :
    (d.insert name description).size = d.size + 1 :=
  Keyed.length_insert (contains_eq_false_iff.1 h) description

end Definitions

namespace Notation

variable {rule : String × Literal} {rules : List (String × Literal)} {d : Definitions}

/-- Every rule is described, and no two rules have one name. -/
structure Sound (rules : List (String × Literal)) : Prop where
  described : ∀ rule ∈ rules, ∃ description, rule.2.describe rule.1 = .ok description
  distinct : Keyed.Distinct rules

/-- What is reported of a rule after rules with the names `earlier`. -/
inductive Fault (earlier : List String) (rule : String × Literal) : Diagnostic → Prop
  /-- It is not described. -/
  | description {e : Diagnostic} (h : rule.2.describe rule.1 = .error e) : Fault earlier rule e
  /-- It is described, but its name is taken. -/
  | duplicate {description : Description} (h : rule.2.describe rule.1 = .ok description)
      (hm : rule.1 ∈ earlier) : Fault earlier rule (Diagnostic.ofCause (.duplicateRule rule.1))

/-- The definitions `d'` are `d` with rules more, each under its name. -/
structure Filed (rules : List (String × Literal)) (d d' : Definitions) : Prop where
  size : d'.size = d.size + rules.length
  get? : ∀ rule ∈ rules, ∃ description,
    rule.2.describe rule.1 = .ok description ∧ d'.get? rule.1 = some description
  others : ∀ name ∉ rules.map Prod.fst, d'.get? name = d.get? name

theorem sound_nil : Sound [] := ⟨nofun, List.nodup_nil⟩

theorem sound_cons : Sound (rule :: rules) ↔
    (∃ description, rule.2.describe rule.1 = .ok description) ∧ rule.1 ∉ rules.map Prod.fst ∧
      Sound rules := by
  constructor
  · rintro ⟨hdescribed, hdistinct⟩
    obtain ⟨hrule, hrules⟩ := List.forall_mem_cons.1 hdescribed
    obtain ⟨hne, hrest⟩ := Keyed.distinct_cons.1 hdistinct
    exact ⟨hrule, hne, hrules, hrest⟩
  · rintro ⟨hrule, hne, hrules⟩
    exact ⟨List.forall_mem_cons.2 ⟨hrule, hrules.described⟩,
      Keyed.distinct_cons.2 ⟨hne, hrules.distinct⟩⟩

theorem Sound.concat (h : Sound rules)
    (hrule : ∃ description, rule.2.describe rule.1 = .ok description)
    (hne : rule.1 ∉ rules.map Prod.fst) : Sound (rules ++ [rule]) := by
  constructor
  · intro other hm
    rcases List.mem_append.1 hm with hm | hm
    · exact h.described other hm
    · rwa [List.mem_singleton.1 hm]
  · have hperm : (rules ++ [rule]).Perm (rule :: rules) := List.perm_append_singleton rule rules
    exact (Keyed.distinct_cons.2 ⟨hne, h.distinct⟩).perm hperm

/-- A rule with a fault has nothing to be defined. -/
theorem Fault.not_sound {before after : List (String × Literal)} {e : Diagnostic}
    (h : Fault (before.map Prod.fst) rule e) : ¬ Sound (before ++ rule :: after) := by
  intro hs
  cases h with
  | description h =>
    obtain ⟨description, hok⟩ :=
      hs.described rule (List.mem_append_right _ (List.mem_cons_self ..))
    rw [hok] at h
    cases h
  | duplicate _ hm =>
    have hdistinct : List.Nodup _ := hs.distinct
    rw [List.map_append, List.map_cons, List.nodup_middle, List.nodup_cons] at hdistinct
    exact hdistinct.1 (List.mem_append_left _ hm)

/-- **Rules are sound, or there is a first one with a fault.** The induction goes on from rules that
have been found sound. -/
theorem sound_or_fault (rules : List (String × Literal)) :
    Sound rules ∨ ∃ before rule after e, rules = before ++ rule :: after ∧ Sound before ∧
      Fault (before.map Prod.fst) rule e := by
  suffices h : ∀ before, Sound before → Sound (before ++ rules) ∨
      ∃ middle rule after e, rules = middle ++ rule :: after ∧ Sound (before ++ middle) ∧
        Fault ((before ++ middle).map Prod.fst) rule e from h [] sound_nil
  induction rules with
  | nil =>
    intro before hbefore
    left
    rwa [List.append_nil]
  | cons rule rules ih =>
    intro before hbefore
    cases hdescribe : rule.2.describe rule.1 with
    | error e =>
      refine .inr ⟨[], rule, rules, e, rfl, ?_, .description hdescribe⟩
      rwa [List.append_nil]
    | ok description =>
      by_cases hm : rule.1 ∈ before.map Prod.fst
      · refine .inr ⟨[], rule, rules, _, rfl, ?_, .duplicate hdescribe ?_⟩
        · rwa [List.append_nil]
        · rwa [List.append_nil]
      · have hmore := ih _ (hbefore.concat ⟨description, hdescribe⟩ hm)
        rw [List.append_cons]
        refine hmore.imp_right ?_
        rintro ⟨middle, other, after, e, rfl, hs, hf⟩
        refine ⟨rule :: middle, other, after, e, rfl, ?_, ?_⟩
        · rwa [List.append_cons]
        · rwa [List.append_cons]

/-! ### What defining does -/

theorem define_append (before after : List (String × Literal)) (d : Definitions) :
    define (before ++ after) d = define before d >>= define after := by
  induction before generalizing d with
  | nil => rfl
  | cons rule before ih =>
    simp only [List.cons_append, define, ih, bind_assoc]
    congr
    funext description
    split
    · rfl
    · rfl

/-- A rule with a fault ends the definition of rules. -/
theorem define_cons_of_fault {earlier : List String} {e : Diagnostic} (h : Fault earlier rule e)
    (hd : ∀ name ∈ earlier, d.contains name = true) (rest : List (String × Literal)) :
    define (rule :: rest) d = .error e := by
  cases h with
  | description h => simp only [define, h, bind, Except.bind]
  | duplicate h hm => simp only [define, h, bind, Except.bind, hd _ hm, if_true]

/-- A rule that is described under a new name is filed. -/
theorem define_cons_of_ok {description : Description}
    (h : rule.2.describe rule.1 = .ok description) (hd : d.contains rule.1 = false)
    (rest : List (String × Literal)) :
    define (rule :: rest) d = define rest (d.insert rule.1 description) := by
  simp [define, h, bind, Except.bind, hd]

theorem Filed.refl (d : Definitions) : Filed [] d d := ⟨rfl, nofun, fun _ _ => rfl⟩

/-- Filing one rule and then others. -/
theorem Filed.cons {description : Description} {d' : Definitions}
    (h : rule.2.describe rule.1 = .ok description) (hd : d.contains rule.1 = false)
    (hne : rule.1 ∉ rules.map Prod.fst) (hf : Filed rules (d.insert rule.1 description) d') :
    Filed (rule :: rules) d d' := by
  constructor
  · rw [hf.size, Definitions.size_insert hd, List.length_cons]
    omega
  · intro other hm
    rcases List.mem_cons.1 hm with rfl | hm
    · refine ⟨description, h, ?_⟩
      rw [hf.others _ hne, Definitions.get?_insert, if_pos rfl]
    · exact hf.get? other hm
  · intro name hm
    rw [List.map_cons, List.mem_cons, not_or] at hm
    rw [hf.others name hm.2, Definitions.get?_insert, if_neg hm.1]

/-- What has been filed is what was there and the rules. -/
theorem Filed.contains_iff {d' : Definitions} (h : Filed rules d d') (name : String) :
    d'.contains name = true ↔ d.contains name = true ∨ name ∈ rules.map Prod.fst := by
  by_cases hm : name ∈ rules.map Prod.fst
  · obtain ⟨rule, hrule, rfl⟩ := List.mem_map.1 hm
    obtain ⟨description, -, hget⟩ := h.get? rule hrule
    simp [Definitions.contains, hget, hm]
  · simp [Definitions.contains, h.others name hm, hm]

/-- **Sound rules are all filed**, if their names are new. -/
theorem exists_define (h : Sound rules) (hd : ∀ rule ∈ rules, d.contains rule.1 = false) :
    ∃ d', define rules d = .ok d' ∧ Filed rules d d' := by
  induction rules generalizing d with
  | nil => exact ⟨d, rfl, .refl d⟩
  | cons rule rules ih =>
    obtain ⟨⟨description, hdescribe⟩, hne, hrules⟩ := sound_cons.1 h
    obtain ⟨hnew, hrest⟩ := List.forall_mem_cons.1 hd
    have hfresh : ∀ other ∈ rules, (d.insert rule.1 description).contains other.1 = false := by
      intro other hm
      rw [Bool.eq_false_iff, ne_eq, Definitions.contains_insert, not_or]
      refine ⟨fun heq => hne ?_, ?_⟩
      · exact heq ▸ List.mem_map_of_mem hm
      · exact Bool.eq_false_iff.1 (hrest other hm)
    obtain ⟨d', hdefine, hfiled⟩ := ih hrules hfresh
    exact ⟨d', (define_cons_of_ok hdescribe hnew rules).trans hdefine,
      hfiled.cons hdescribe hnew hne⟩

/-- The rules before the first one with a fault are filed, and the fault is reported. -/
theorem define_of_fault {before after : List (String × Literal)} {e : Diagnostic}
    (hs : Sound before) (hf : Fault (before.map Prod.fst) rule e) :
    define (before ++ rule :: after) .empty = .error e := by
  obtain ⟨d, hdefine, hfiled⟩ := exists_define (d := .empty) hs fun _ _ => rfl
  rw [define_append, hdefine]
  exact define_cons_of_fault hf (fun name hm => (hfiled.contains_iff name).2 (.inr hm)) after

/-- Rules are defined if and only if they are sound, and then all of them are. -/
theorem define_eq_ok {rules : List (String × Literal)} :
    ((∃ d, define rules .empty = .ok d) ↔ Sound rules) ∧
      ∀ d, define rules .empty = .ok d → Filed rules .empty d := by
  rcases sound_or_fault rules with hs | ⟨before, rule, after, e, rfl, hs, hf⟩
  · obtain ⟨d, hdefine, hfiled⟩ := exists_define (d := .empty) hs fun _ _ => rfl
    refine ⟨⟨fun _ => hs, fun _ => ⟨d, hdefine⟩⟩, fun d' hd' => ?_⟩
    rw [hdefine] at hd'
    cases hd'
    exact hfiled
  · rw [define_of_fault hs hf]
    exact ⟨⟨nofun, fun h => absurd h hf.not_sound⟩, nofun⟩

/-- What is reported is the first fault. -/
theorem define_eq_error_iff {rules : List (String × Literal)} {e : Diagnostic} :
    define rules .empty = .error e ↔
      ∃ before rule after, rules = before ++ rule :: after ∧ Sound before ∧
        Fault (before.map Prod.fst) rule e := by
  constructor
  · intro h
    rcases sound_or_fault rules with hs | ⟨before, rule, after, e', rfl, hs, hf⟩
    · obtain ⟨d, hdefine⟩ := define_eq_ok.1.2 hs
      rw [hdefine] at h
      cases h
    · rw [define_of_fault hs hf] at h
      cases h
      exact ⟨before, rule, after, rfl, hs, hf⟩
  · rintro ⟨before, rule, after, rfl, hs, hf⟩
    exact define_of_fault hs hf

/-! ### The rules of a text -/

/-- A property of a tree spells a rule: its name with escapes, its value as a tree. -/
def Spells (property : String × Value) (rule : String × Literal) : Prop :=
  rule.1 = unescaped property.1 ∧ rule.2.IsValue property.2

variable {properties : List (String × Value)}

/-- Properties are read one by one. -/
theorem forall₂_of_properties? (h : Literal.properties? (properties.map entry) = some rules) :
    List.Forall₂ Spells properties rules := by
  induction properties generalizing rules with
  | nil =>
    cases h
    exact .nil
  | cons property properties ih =>
    cases rules with
    | nil => cases Regardless.tree_of_properties?_nil h
    | cons rule rules =>
      obtain ⟨raw, body, rest, hcons, hname, hbody, hrest⟩ :=
        Regardless.tree_of_properties?_cons h
      obtain ⟨heq, rfl⟩ := List.cons.inj hcons
      cases heq
      exact .cons ⟨hname, hbody⟩ (ih hrest)

/-- The first property of a name spells the first rule of that name. -/
theorem find?_of_forall₂ (h : List.Forall₂ Spells properties rules) {name : String}
    {property : String × Value}
    (hf : properties.find? (fun q => unescaped q.1 = name) = some property) :
    ∃ rule, rules.find? (fun q => q.1 = name) = some rule ∧ Spells property rule := by
  induction h with
  | nil => cases hf
  | @cons other rule properties rules hrule _ ih =>
    rw [List.find?_cons] at hf ⊢
    rw [hrule.1]
    split at hf
    · cases hf
      exact ⟨rule, rfl, hrule⟩
    · exact ih hf

/-- The rules of a tree are spelled by the properties of the object under `definitions`. -/
theorem rules_of_find? {root : List (String × Value)} (h : IsObject (.list (root.map entry)))
    {raw : String} (hf : root.find? (fun q => unescaped q.1 = "definitions") =
      some (raw, .map [("Object", .list (properties.map entry))])) :
    ∃ rules, Notation.rules (.list (root.map entry)) = .ok rules ∧
      List.Forall₂ Spells properties rules := by
  obtain ⟨literals, hliterals⟩ := Option.isSome_iff_exists.1 h.isSome_properties?
  obtain ⟨rule, hrule, hspells⟩ := find?_of_forall₂ (forall₂_of_properties? hliterals) hf
  obtain ⟨rules, hrules, heq⟩ := Option.map_eq_some_iff.1
    (show (Literal.properties? (properties.map entry)).map Literal.object = some rule.2 from
      hspells.2)
  refine ⟨rules, ?_, forall₂_of_properties? hrules⟩
  obtain ⟨name, literal⟩ := rule
  subst heq
  simp only [Notation.rules, hliterals, hrule]

/-- Reading a text that matches as a whole is defining the rules of its tree. -/
theorem definitions_of_isComplete {p : Parser} (hp : parser = .ok p) {text : String} {o : Outcome}
    (ho : p.run "document" text = .ok o) (hc : o.isComplete text = true) (name : String) :
    definitions name text = (Notation.rules o.result >>= fun rules => define rules .empty) := by
  simp [definitions, hp, ho, hc, bind, Except.bind]

/-- What is read off a text is what the rules in it are defined as. -/
theorem exists_rules_of_definitions {p : Parser} (hp : parser = .ok p) {name text : String}
    {d : Definitions} (h : definitions name text = .ok d) : ∃ o rules,
      p.run "document" text = .ok o ∧ o.success = true ∧ Notation.rules o.result = .ok rules ∧
      define rules .empty = .ok d := by
  unfold definitions at h
  rw [hp] at h
  obtain ⟨p', hp', h⟩ := bind_eq_ok_iff.1 h
  cases hp'
  obtain ⟨o, ho, h⟩ := bind_eq_ok_iff.1 h
  dsimp only at h
  split at h
  · cases h
  · next hcomplete =>
    obtain ⟨rules, hrules, h⟩ := bind_eq_ok_iff.1 h
    rw [Bool.not_eq_true, Bool.not_eq_false', Outcome.isComplete, Bool.and_eq_true] at hcomplete
    exact ⟨o, rules, ho, hcomplete.1, hrules, h⟩

/-- **No rule of a text is lost, and none takes the place of another.** Where a text matches as a
whole and its first property `definitions` is an object, its properties are read as rules one by
one, with the escapes in their names undone. They are all defined if each one is described and no
two have one name: then there are as many as there are properties, each with its description under
its name. Otherwise the first one that is not described, or whose name an earlier one has, is
reported: what is wrong with its description if something is, and else that its name is taken. -/
theorem definitions_of_properties {p : Parser} (hp : parser = .ok p) {text : String} {o : Outcome}
    (ho : p.run "document" text = .ok o) (hc : o.isComplete text = true)
    {root properties : List (String × Value)} (hroot : o.result = .list (root.map entry))
    {raw : String} (hf : root.find? (fun q => unescaped q.1 = "definitions") =
      some (raw, .map [("Object", .list (properties.map entry))])) (name : String) :
    ∃ rules, List.Forall₂ Spells properties rules ∧
      ((∃ d, definitions name text = .ok d) ↔
        (∀ rule ∈ rules, ∃ description, rule.2.describe rule.1 = .ok description) ∧
          (rules.map Prod.fst).Nodup) ∧
      (∀ d, definitions name text = .ok d → d.size = properties.length ∧
        ∀ rule ∈ rules, ∃ description, rule.2.describe rule.1 = .ok description ∧
          d.get? rule.1 = some description) ∧
      ∀ e, definitions name text = .error e ↔ ∃ before rule after,
        rules = before ++ rule :: after ∧ Sound before ∧ Fault (before.map Prod.fst) rule e := by
  have hsuccess : o.success = true := by
    rw [Outcome.isComplete, Bool.and_eq_true] at hc
    exact hc.1
  have hobject := isObject_of_run hp ho hsuccess
  rw [hroot] at hobject
  obtain ⟨rules, hrules, hspells⟩ := rules_of_find? hobject hf
  have hread : definitions name text = define rules .empty := by
    rw [definitions_of_isComplete hp ho hc, hroot, hrules]
    rfl
  rw [hread]
  refine ⟨rules, hspells, ?_, ?_, fun e => define_eq_error_iff⟩
  · rw [define_eq_ok.1]
    exact ⟨fun h => ⟨h.described, h.distinct⟩, fun h => ⟨h.1, h.2⟩⟩
  · intro d hd
    have hfiled := define_eq_ok.2 d hd
    refine ⟨?_, hfiled.get?⟩
    rw [hfiled.size, hspells.length_eq]
    exact Nat.zero_add _

/-- The properties that spell two rules of one name, which only the first of them writes plainly. -/
def sampleProperties : List (String × Value) :=
  [("a/", .map [("Regex", .text "x")]), ("a\\/", .map [("Identifier", .text "b")])]

/-- The only property of `{definitions:{"a/":/x/,'a\/':b}}`. -/
def sampleRoot : List (String × Value) :=
  [("definitions", .map [("Object", .list (sampleProperties.map entry))])]

/-- What a run finds in that text. -/
def sampleOutcome : Outcome := ⟨true, 32, .list (sampleRoot.map entry)⟩

theorem run_sampleOutcome {p : Parser} (hp : parser = .ok p) :
    p.run "document" "\x7bdefinitions:\x7b\"a/\":/x/,'a\\/':b\x7d\x7d" = .ok sampleOutcome := by
  rw [Parser.run_eq_call hp]
  decide +kernel

theorem definitions_of_properties_sample :
    ∃ p, parser = .ok p ∧
      p.run "document" "\x7bdefinitions:\x7b\"a/\":/x/,'a\\/':b\x7d\x7d" = .ok sampleOutcome ∧
      definitions "grammar" "\x7bdefinitions:\x7b\"a/\":/x/,'a\\/':b\x7d\x7d" =
        .error (Diagnostic.ofCause (.duplicateRule "a/")) := by
  obtain ⟨p, hp⟩ := exists_parser_eq
  have hrun := run_sampleOutcome hp
  have hroot : sampleOutcome.result = .list (sampleRoot.map entry) := rfl
  have hfind : sampleRoot.find? (fun q => unescaped q.1 = "definitions") =
      some ("definitions", .map [("Object", .list (sampleProperties.map entry))]) := by
    decide +kernel
  obtain ⟨rules, hspells, -, -, herror⟩ :=
    definitions_of_properties hp hrun (by decide +kernel) hroot hfind "grammar"
  refine ⟨p, hp, hrun, (herror _).2 ?_⟩
  obtain _ | ⟨⟨hname, hvalue⟩, _ | ⟨⟨hname', hvalue'⟩, _ | _⟩⟩ := hspells
  rename_i rule rule'
  have hraw : unescaped "a/" = "a/" ∧ unescaped "a\\/" = "a/" := by decide +kernel
  have hregex : rule.2 = .regex "x" := (Option.some.inj hvalue).symm
  have hword : rule'.2 = .word "b" := (Option.some.inj hvalue').symm
  refine ⟨[rule], rule', [], rfl, ?_, ?_⟩
  · refine sound_nil.concat ?_ List.not_mem_nil
    rw [hregex]
    exact ⟨_, rfl⟩
  · have htaken : rule'.1 = "a/" := hname'.trans hraw.2
    rw [← htaken]
    have hdescribe : rule'.2.describe rule'.1 = .ok (.ref "b") := by
      rw [hword]
      rfl
    refine .duplicate hdescribe ?_
    rw [htaken, ← hraw.1, ← hname]
    exact List.mem_singleton.2 rfl

end Notation
end DataGrammar
