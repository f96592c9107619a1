import DataGrammar.Proofs.Compilation.Reachable
import DataGrammar.Proofs.Keyed

/-!
# Where results come from

A run puts its result together from the input and from the grammar: texts are cut out of the input
or stand in a default, and keys are those that the grammar gives to values, or stand in a default.
This holds of failed runs as well, and of what is left of parts that failed.

* `Value.texts`, `Value.keys`: the texts and keys in a value; `Value.From`: all of them are of some
  kind, which is given by `Sources`.
* `Step.Finds`: all that a step finds is from the sources, whether it matched or not; steps made of
  such steps are such steps.
* `Definitions.sources`: the texts and keys that a grammar and an input provide.
* `Parser.result_from_sources`: a run takes nothing from elsewhere.
-/

namespace DataGrammar

/-! ### Values -/

/-- What the texts and keys of a value may be. -/
structure Sources where
  text : String → Prop
  key : String → Prop

namespace Value

mutual

/-- The texts in a value. -/
def texts : Value → List String
  | .null => []
  | .text s => [s]
  | .list items => itemTexts items
  | .map entries => entryTexts entries

/-- The texts in items. -/
def itemTexts : List Value → List String
  | [] => []
  | v :: rest => v.texts ++ itemTexts rest

/-- The texts in the values of entries. -/
def entryTexts : List (String × Value) → List String
  | [] => []
  | (_, v) :: rest => v.texts ++ entryTexts rest

end

mutual

/-- The keys in a value. -/
def keys : Value → List String
  | .null => []
  | .text _ => []
  | .list items => itemKeys items
  | .map entries => entryKeys entries

/-- The keys in items. -/
def itemKeys : List Value → List String
  | [] => []
  | v :: rest => v.keys ++ itemKeys rest

/-- The keys of entries and those in their values. -/
def entryKeys : List (String × Value) → List String
  | [] => []
  | (key, v) :: rest => key :: (v.keys ++ entryKeys rest)

end

/-- All texts and keys in the value are from the sources. -/
def From (S : Sources) (v : Value) : Prop := (∀ s ∈ v.texts, S.text s) ∧ ∀ k ∈ v.keys, S.key k

variable {S : Sources}

@[simp] theorem from_null : Value.null.From S := ⟨nofun, nofun⟩

@[simp] theorem from_text {s : String} : (Value.text s).From S ↔ S.text s := by
  simp [From, texts, keys]

@[simp] theorem from_list {items : List Value} :
    (Value.list items).From S ↔ ∀ v ∈ items, v.From S := by
  induction items with
  | nil => simp [From, texts, itemTexts, keys, itemKeys]
  | cons v items ih =>
    rw [List.forall_mem_cons, ← ih]
    simp only [From, texts, itemTexts, keys, itemKeys, List.forall_mem_append]
    exact and_and_and_comm

@[simp] theorem from_map {entries : List (String × Value)} :
    (Value.map entries).From S ↔ ∀ e ∈ entries, S.key e.1 ∧ e.2.From S := by
  induction entries with
  | nil => simp [From, texts, entryTexts, keys, entryKeys]
  | cons e entries ih =>
    rw [List.forall_mem_cons, ← ih]
    simp only [From, texts, entryTexts, keys, entryKeys, List.forall_mem_append,
      List.forall_mem_cons]
    constructor
    · rintro ⟨⟨ht, hts⟩, hkey, hk, hks⟩
      exact ⟨⟨hkey, ht, hk⟩, hts, hks⟩
    · rintro ⟨⟨hkey, ht, hk⟩, hts, hks⟩
      exact ⟨⟨ht, hts⟩, hkey, hk, hks⟩

theorem from_ofEntries {entries : List (String × Value)}
    (h : ∀ e ∈ entries, S.key e.1 ∧ e.2.From S) : (Value.ofEntries entries).From S :=
  from_map.2 fun e he => h e (Keyed.mem_of_mem_ofEntries he)

end Value

/-! ### Steps -/

variable {ε : Type} {S : Sources} {text : String}

/-- At every place of the text, all that the step finds is from the sources, and it stops at a
place of the text, whether it matched or not. -/
def Step.Finds (S : Sources) (text : String) (step : Step (Except ε)) : Prop :=
  ∀ c, Cursor.At text c → ∀ a, step c = .ok a → Cursor.At text a.cursor ∧ a.value.From S

/-- The part finds what is from the sources, and its key is from them as well. -/
structure Part.Finds (S : Sources) (text : String) (p : Part (Except ε)) : Prop where
  name : ∀ key ∈ p.name, S.key key
  step : Step.Finds S text p.step

namespace Step

variable {step item : Step (Except ε)} {separator : Option (Step (Except ε))}
  {parts : List (Part (Except ε))}

theorem finds_optional (h : ∀ s ∈ separator, Finds S text s) :
    Finds S text (optional separator) := by
  intro c hc a ha
  cases separator with
  | none =>
    cases ha
    exact ⟨hc, Value.from_null⟩
  | some s => exact h s rfl c hc a ha

theorem from_orDefault {default : Option Value} (hd : ∀ v ∈ default, v.From S) {start : Cursor}
    (hstart : Cursor.At text start) {a : Attempt}
    (ha : Cursor.At text a.cursor ∧ a.value.From S) :
    Cursor.At text (orDefault default start a).cursor ∧ (orDefault default start a).value.From S := by
  cases default with
  | none => exact ha
  | some v => exact ⟨hstart, hd v rfl⟩

/-! #### Sequences -/

/-- All that a sequence has gathered is from the sources. -/
structure Gathered.From (S : Sources) (g : Gathered) : Prop where
  fields : (Value.map g.fields).From S
  collapsed : ∀ v ∈ g.collapsed, v.From S

theorem Gathered.from_nothing : Gathered.From S .nothing := ⟨Value.from_map.2 nofun, nofun⟩

theorem Gathered.From.add {g : Gathered} (hg : g.From S) {p : Part (Except ε)}
    (hp : p.Finds S text) {a : Attempt} (ha : a.value.From S) : (g.add p a).From S := by
  constructor
  · have hname := hp.name
    unfold Gathered.add
    cases hn : p.name with
    | none => exact hg.fields
    | some name =>
      refine Value.from_map.2 fun e he => ?_
      rcases Keyed.mem_of_mem_insert he with rfl | he
      · exact ⟨hname name hn, ha⟩
      · exact Value.from_map.1 hg.fields e he
  · simp only [Gathered.add]
    split
    · rintro _ ⟨⟩
      exact ha
    · exact hg.collapsed

theorem Gathered.From.value {g : Gathered} (hg : g.From S) : g.value.From S := by
  unfold Gathered.value
  cases hc : g.collapsed with
  | none => exact hg.fields
  | some v => exact hg.collapsed v hc

theorem finds_sequenceFrom (hs : ∀ s ∈ separator, Finds S text s)
    (hp : ∀ p ∈ parts, p.Finds S text) {g : Gathered} (hg : g.From S) :
    Finds S text (sequenceFrom separator parts g) := by
  induction parts generalizing g with
  | nil =>
    intro c hc a ha
    cases ha
    exact ⟨hc, hg.value⟩
  | cons p parts ih =>
    obtain ⟨hp, hparts⟩ := List.forall_mem_cons.1 hp
    intro c hc a ha
    obtain ⟨item, hitem, ha⟩ := bind_eq_ok_iff.1 ha
    obtain ⟨hi, hv⟩ := hp.step c hc item hitem
    have hadd := hg.add hp hv
    split at ha
    · cases ha
      exact ⟨hi, hadd.fields⟩
    · obtain ⟨between, hbetween, ha⟩ := bind_eq_ok_iff.1 ha
      have hsep : ∀ s ∈ (if parts.isEmpty then none else separator), Finds S text s := by
        split
        · nofun
        · exact hs
      have hb := (finds_optional hsep _ hi between hbetween).1
      split at ha
      · exact ih hparts hadd _ hb a ha
      · cases ha
        exact ⟨hb, hadd.fields⟩

theorem finds_sequence (hs : ∀ s ∈ separator, Finds S text s) (hp : ∀ p ∈ parts, p.Finds S text)
    {default : Option Value} (hd : ∀ v ∈ default, v.From S) :
    Finds S text (sequence separator parts default) := by
  intro start hstart a ha
  obtain ⟨b, hb, ha⟩ := bind_eq_ok_iff.1 ha
  have hfrom := finds_sequenceFrom hs hp Gathered.from_nothing start hstart b hb
  cases ha
  split
  · exact hfrom
  · exact from_orDefault hd hstart hfrom

/-! #### Choices -/

/-- The branch finds what is from the sources, and its key is from them as well. -/
structure Branch.Finds (S : Sources) (text : String) (b : Branch (Except ε)) : Prop where
  key : S.key b.key
  step : Step.Finds S text b.step

/-- The key of a branch is its name, or the key of its place. -/
theorem finds_branches (hp : ∀ p ∈ parts, p.Finds S text) {number : Nat}
    (hn : ∀ i p, parts[i]? = some p → p.name = none → S.key s!"property{number + i}") :
    ∀ b ∈ branches number parts, b.Finds S text := by
  induction parts generalizing number with
  | nil => exact fun _ hb => absurd hb List.not_mem_nil
  | cons p parts ih =>
    obtain ⟨hp, hparts⟩ := List.forall_mem_cons.1 hp
    refine List.forall_mem_cons.2 ⟨⟨?_, hp.step⟩, ih hparts fun i q hq hname => ?_⟩
    · cases hname : p.name with
      | none => exact hn 0 p rfl hname
      | some name => exact hp.name name hname
    · rw [Nat.add_assoc, Nat.add_comm 1]
      exact hn (i + 1) q hq hname

theorem from_nest {nesting : Nesting} {before after : List String} {key : String} {v : Value}
    (hb : ∀ k ∈ before, S.key k) (hk : S.key key) (hv : v.From S) (ha : ∀ k ∈ after, S.key k) :
    (nest nesting before key v after).From S := by
  have hnull : ∀ {ks : List String}, (∀ k ∈ ks, S.key k) →
      ∀ e ∈ ks.map fun k => (k, Value.null), S.key e.1 ∧ e.2.From S := by
    intro ks h e he
    obtain ⟨k, hk, rfl⟩ := List.mem_map.1 he
    exact ⟨h k hk, Value.from_null⟩
  cases nesting with
  | none => exact hv
  | matched => exact Value.from_map.2 (List.forall_mem_singleton.2 ⟨hk, hv⟩)
  | full =>
    refine Value.from_ofEntries (List.forall_mem_append.2 ⟨hnull ?_, ?_⟩)
    · exact fun k h => hb k (List.mem_reverse.1 h)
    · exact List.forall_mem_cons.2 ⟨⟨hk, hv⟩, hnull ha⟩

theorem finds_choiceFrom {nesting : Nesting} {start : Cursor} (hstart : Cursor.At text start)
    {bs : List (Branch (Except ε))} (hbs : ∀ b ∈ bs, b.Finds S text) {before : List String}
    (hbefore : ∀ k ∈ before, S.key k) {furthest : Attempt}
    (hf : Cursor.At text furthest.cursor ∧ furthest.value.From S) {a : Attempt}
    (ha : choiceFrom nesting start bs before furthest = .ok a) :
    Cursor.At text a.cursor ∧ a.value.From S := by
  induction bs generalizing before furthest with
  | nil =>
    cases ha
    exact hf
  | cons b bs ih =>
    obtain ⟨hb, hbs⟩ := List.forall_mem_cons.1 hbs
    obtain ⟨item, hitem, ha⟩ := bind_eq_ok_iff.1 ha
    have hfound := hb.step start hstart item hitem
    split at ha
    · cases ha
      refine ⟨hfound.1, from_nest hbefore hb.key hfound.2 fun k hk => ?_⟩
      obtain ⟨b', hb', rfl⟩ := List.mem_map.1 hk
      exact (hbs b' hb').key
    · -- A failed branch leaves its value only if it got further than all before it.
      refine ih hbs (List.forall_mem_cons.2 ⟨hb.key, hbefore⟩) ?_ ha
      split
      · exact hfound
      · exact hf

theorem finds_choice {nesting : Nesting} (hp : ∀ p ∈ parts, p.Finds S text)
    (hn : ∀ i p, parts[i]? = some p → p.name = none → S.key s!"property{1 + i}")
    {default : Option Value} (hd : ∀ v ∈ default, v.From S) :
    Finds S text (choice nesting parts default) := by
  intro start hstart a ha
  obtain ⟨b, hb, ha⟩ := bind_eq_ok_iff.1 ha
  have hfrom := finds_choiceFrom hstart (finds_branches hp hn) (List.forall_mem_nil _)
    ⟨hstart, Value.from_null⟩ hb
  cases ha
  split
  · exact hfrom
  · exact from_orDefault hd hstart hfrom

/-! #### Repetitions -/

theorem from_finish {least : Nat} {items : List Value} (hi : ∀ v ∈ items, v.From S)
    {commit stop : Cursor} (hc : Cursor.At text commit) (hs : Cursor.At text stop) {rest : Value}
    (hr : rest.From S) : Cursor.At text (finish least items commit stop rest).cursor ∧
      (finish least items commit stop rest).value.From S := by
  have hi : ∀ v ∈ items.reverse, v.From S := fun v hv => hi v (List.mem_reverse.1 hv)
  unfold finish
  split
  · exact ⟨hc, Value.from_list.2 hi⟩
  · refine ⟨hs, Value.from_list.2 (List.forall_mem_append.2 ⟨hi, ?_⟩)⟩
    split
    · nofun
    · exact List.forall_mem_singleton.2 hr

theorem finds_repetitionFrom (hitem : Finds S text item) (hs : ∀ s ∈ separator, Finds S text s)
    (least : Nat) (endless : Bool) (tries : Nat) {items : List Value}
    (hi : ∀ v ∈ items, v.From S) :
    Finds S text (repetitionFrom item separator least endless tries items) := by
  -- The invariant is that all items so far are from the sources. It also serves the ends that
  -- give up too few items, as what these add to them is the value of the last attempt.
  induction tries generalizing items with
  | zero =>
    intro c hc a ha
    cases ha
    exact from_finish hi hc hc Value.from_null
  | succ tries ih =>
    intro c hc a ha
    obtain ⟨b, hb, ha⟩ := bind_eq_ok_iff.1 ha
    obtain ⟨hbc, hbv⟩ := hitem c hc b hb
    split at ha
    · cases ha
      exact from_finish hi hc hbc hbv
    · obtain ⟨after, hafter, ha⟩ := bind_eq_ok_iff.1 ha
      have hac := (finds_optional hs _ hbc after hafter).1
      have hi := List.forall_mem_cons.2 ⟨hbv, hi⟩
      split at ha
      · cases ha
        exact from_finish hi hbc hac Value.from_null
      · split at ha
        · cases ha
          exact from_finish hi hac hac Value.from_null
        · exact ih hi _ hac a ha

theorem finds_repetition (hitem : Finds S text item) (hs : ∀ s ∈ separator, Finds S text s)
    (least : Nat) (most : Option Nat) :
    Finds S text (repetition item separator least most) := by
  intro start hstart a ha
  cases most with
  | none => exact finds_repetitionFrom hitem hs least true _ (List.forall_mem_nil _) start hstart a ha
  | some most => exact finds_repetitionFrom hitem hs least false most (List.forall_mem_nil _) start hstart a ha

end Step

/-! ### Descriptions -/

namespace Description

/-- `inner` is the description, or stands somewhere in it. -/
inductive Within (inner : Description) : Description → Prop
  | self : Within inner inner
  | part {d parts separator name default} (hd : d ∈ parts) (h : Within inner d) :
    Within inner (.sequence parts separator name default)
  | partSeparator {parts separator name default} (h : Within inner separator) :
    Within inner (.sequence parts (some separator) name default)
  | branch {d branches nesting name default} (hd : d ∈ branches) (h : Within inner d) :
    Within inner (.choice branches nesting name default)
  | item {d separator least most name} (h : Within inner d) :
    Within inner (.repetition d separator least most name)
  | itemSeparator {d separator least most name} (h : Within inner separator) :
    Within inner (.repetition d (some separator) least most name)

/-- The default of a construct, if it has one. -/
def default? : Description → Option Value
  | .sequence _ _ _ default | .choice _ _ _ default => default
  | _ => none

/-- What a pattern finds is cut out of the text. -/
theorem finds_matchPattern (hS : ∀ s : String, s.toList <:+: text.toList → S.text s)
    (source : String) : Step.Finds S text (matchPattern source) := by
  intro c hc a ha
  obtain ⟨passed, ht, -, -⟩ := id hc
  have hahead : c.ahead <:+: text.toList := ⟨passed, [], by simp [ht]⟩
  simp only [matchPattern] at ha
  split at ha
  · next p _ =>
    simp only [Node.matchTerminal] at ha
    split at ha
    · next found _ =>
      cases ha
      refine ⟨hc.advance _, Value.from_text.2 (hS _ ?_)⟩
      simp only [Pattern.textOf]
      split
      · split
        · rw [String.toList_ofList]
          exact ((List.drop_suffix ..).isInfix.trans (List.take_prefix ..).isInfix).trans hahead
        · exact List.nil_infix
      · rw [Cursor.take, String.toList_ofList]
        exact (List.take_prefix ..).isInfix.trans hahead
    · cases ha
      exact ⟨hc, Value.from_null⟩
  · cases ha

/-- The sources have the texts of the input, and what shapes values in a description and in those
within it: keys, the places of branches without a key, and defaults. -/
structure Supplied (S : Sources) (text : String) (d : Description) : Prop where
  input : ∀ s : String, s.toList <:+: text.toList → S.text s
  key : ∀ inner : Description, inner.Within d → ∀ k ∈ inner.key, S.key k
  place : ∀ branches nesting name default, (choice branches nesting name default).Within d →
    ∀ (i : Nat) branch, branches[i]? = some branch → branch.key = none → S.key s!"property{1 + i}"
  default : ∀ inner : Description, inner.Within d → ∀ v ∈ inner.default?, v.From S

theorem Supplied.mono {d outer : Description} (h : outer.Supplied S text)
    (hd : ∀ inner : Description, inner.Within d → inner.Within outer) : d.Supplied S text where
  input := h.input
  key inner hi := h.key inner (hd inner hi)
  place branches nesting name default hc := h.place branches nesting name default (hd _ hc)
  default inner hi := h.default inner (hd inner hi)

theorem getElem?_interpretParts {call : String → Step (Except Diagnostic)}
    {ds : List Description} {i : Nat} {p : Part (Except Diagnostic)}
    (h : (interpretParts call ds)[i]? = some p) : ∃ d, ds[i]? = some d ∧ d.key = p.name := by
  induction ds generalizing i with
  | nil => cases h
  | cons d ds ih =>
    cases i with
    | zero =>
      cases h
      exact ⟨d, rfl, rfl⟩
    | succ i => exact ih h

mutual

/-- **A description finds nothing that is not from the sources**, if they have what it needs and
the rules that it refers to find nothing else either. -/
theorem finds_interpret {call : String → Step (Except Diagnostic)}
    (hcall : ∀ target, Step.Finds S text (call target)) (d : Description)
    (h : d.Supplied S text) : Step.Finds S text (d.interpret call) := by
  cases d with
  | pattern source => exact finds_matchPattern h.input source
  | reference ref => exact hcall ref.target
  | sequence parts separator name default =>
    refine Step.finds_sequence (finds_interpretOption hcall separator fun s hs => h.mono ?_)
      (finds_interpretParts hcall parts fun d hd => h.mono ?_) (h.default _ .self)
    · subst hs
      exact fun _ hi => .partSeparator hi
    · exact fun _ hi => .part hd hi
  | choice branches nesting name default =>
    refine Step.finds_choice (finds_interpretParts hcall branches fun d hd => h.mono ?_) ?_
      (h.default _ .self)
    · exact fun _ hi => .branch hd hi
    · intro i p hp hname
      obtain ⟨d, hd, hkey⟩ := getElem?_interpretParts hp
      exact h.place branches nesting name default .self i d hd (hkey.trans hname)
  | repetition item separator least most name =>
    refine Step.finds_repetition (finds_interpret hcall item (h.mono fun _ hi => .item hi))
      (finds_interpretOption hcall separator fun s hs => h.mono ?_) least most
    subst hs
    exact fun _ hi => .itemSeparator hi

theorem finds_interpretParts {call : String → Step (Except Diagnostic)}
    (hcall : ∀ target, Step.Finds S text (call target)) (ds : List Description)
    (h : ∀ d ∈ ds, d.Supplied S text) : ∀ p ∈ interpretParts call ds, p.Finds S text := by
  cases ds with
  | nil => nofun
  | cons d ds =>
    obtain ⟨hd, hds⟩ := List.forall_mem_cons.1 h
    exact List.forall_mem_cons.2
      ⟨⟨hd.key d .self, finds_interpret hcall d hd⟩, finds_interpretParts hcall ds hds⟩

theorem finds_interpretOption {call : String → Step (Except Diagnostic)}
    (hcall : ∀ target, Step.Finds S text (call target)) (separator : Option Description)
    (h : ∀ d, separator = some d → d.Supplied S text) :
    ∀ s ∈ interpretOption call separator, Step.Finds S text s := by
  cases separator with
  | none => nofun
  | some d =>
    rintro _ ⟨⟩
    exact finds_interpret hcall d (h d rfl)

end

end Description

/-! ### Grammars -/

namespace Definitions

/-- The description is that of a rule, or stands in one. -/
def Has (d : Definitions) (inner : Description) : Prop :=
  ∃ rule description, d.get? rule = some description ∧ inner.Within description

/-- The texts and keys that a grammar and an input provide: texts cut out of the input, the keys of
references and the names of constructs, `property` with the place of a branch that has no key of
its own, and what is in defaults. -/
def sources (d : Definitions) (input : String) : Sources where
  text s := s.toList <:+: input.toList ∨
    ∃ inner v, d.Has inner ∧ inner.default? = some v ∧ s ∈ v.texts
  key k := (∃ inner, d.Has inner ∧ inner.key = some k) ∨
    (∃ branches nesting name default, d.Has (.choice branches nesting name default) ∧
      ∃ i branch, branches[i]? = some branch ∧ branch.key = none ∧ k = s!"property{1 + i}") ∨
    ∃ inner v, d.Has inner ∧ inner.default? = some v ∧ k ∈ v.keys

/-- The sources of a grammar have what its rules need. -/
theorem supplied_sources {d : Definitions} {rule : String} {description : Description}
    (h : d.get? rule = some description) (input : String) :
    description.Supplied (d.sources input) input where
  input _ hs := .inl hs
  key inner hi _ hk := .inl ⟨inner, ⟨rule, description, h, hi⟩, hk⟩
  place branches nesting name default hi i branch hb hk :=
    .inr (.inl ⟨branches, nesting, name, default, ⟨rule, description, h, hi⟩, i, branch, hb, hk, rfl⟩)
  default inner hi v hv := by
    have hhas : d.Has inner := ⟨rule, description, h, hi⟩
    exact ⟨fun _ hs => .inr ⟨inner, v, hhas, hv, hs⟩, fun _ hk => .inr (.inr ⟨inner, v, hhas, hv, hk⟩)⟩

/-- **A call finds nothing that is not from the sources of the grammar.** -/
theorem finds_call (d : Definitions) (input : String) (limit depth : Nat) (rule : String) :
    Step.Finds (d.sources input) input (d.call limit depth rule) := by
  induction depth generalizing rule with
  | zero => nofun
  | succ depth ih =>
    intro c hc a ha
    simp only [call] at ha
    cases hd : d.get? rule with
    | none => simp [hd] at ha
    | some description =>
      rw [hd] at ha
      exact Description.finds_interpret ih description (supplied_sources hd input) c hc a ha

end Definitions

namespace Parser

/-- **Results invent nothing.** Whether a run matched or failed, every text in its result is cut
out of the input or stands in a default of the grammar. Every key in it is the key of a reference
or the name of a construct, or `property` with the number of a branch of some choice, or stands in
a default. -/
theorem result_from_sources {d : Definitions} {maxDepth : Nat} {p : Parser}
    (hp : Parser.compile d maxDepth = .ok p) {rule input : String} {o : Outcome}
    (h : p.run rule input = .ok o) :
    (∀ s ∈ o.result.texts, s.toList <:+: input.toList ∨
      ∃ inner v, d.Has inner ∧ inner.default? = some v ∧ s ∈ v.texts) ∧
    (∀ k ∈ o.result.keys, (∃ inner, d.Has inner ∧ inner.key = some k) ∨
      (∃ branches nesting name default, d.Has (.choice branches nesting name default) ∧
        ∃ i branch, branches[i]? = some branch ∧ branch.key = none ∧ k = s!"property{1 + i}") ∨
      ∃ inner v, d.Has inner ∧ inner.default? = some v ∧ k ∈ v.keys) := by
  rw [run_eq_call hp] at h
  cases hc : d.call maxDepth (maxDepth + 1) rule (.start input) with
  | error e =>
    rw [hc] at h
    cases h
  | ok a =>
    rw [hc] at h
    cases h
    exact (d.finds_call input maxDepth _ rule _ (Cursor.at_start input) a hc).2

end Parser

/-- A word, a sign and a note that may be left out. -/
def Definitions.sampleEntry : Definitions := .ofList [
  ("entry", .sequence [.ref "word:key",
    .choice [.pattern ":", .pattern "="] .matched (some "sign") none,
    .sequence [.ref "word"] none (some "note") (some (.map [("kind", .text "none")]))]
    none none none),
  ("word", .pattern "[a-z]+")]

/-- What the sample finds in `ab=`. -/
def Value.sampleEntry : Value := .map [("key", .text "ab"), ("note", .map [("kind", .text "none")]),
  ("sign", .map [("property2", .text "=")])]

theorem Parser.result_from_sources_sample :
    ∃ p, Parser.compile .sampleEntry 3 = .ok p ∧
      p.run "entry" "ab=" = .ok ⟨true, 3, .sampleEntry⟩ ∧
      Value.sampleEntry.texts = ["ab", "none", "="] ∧
      Value.sampleEntry.keys = ["key", "note", "kind", "sign", "property2"] ∧
      Value.sampleEntry.From (Definitions.sampleEntry.sources "ab=") := by
  obtain ⟨p, hp⟩ := exists_compile_of_isSome
    (by decide +kernel : (Parser.compile .sampleEntry 3).toOption.isSome)
  have hrun : p.run "entry" "ab=" = .ok ⟨true, 3, .sampleEntry⟩ := by
    rw [run_eq_call hp]
    decide +kernel
  exact ⟨p, hp, hrun, rfl, rfl, result_from_sources hp hrun⟩

end DataGrammar
