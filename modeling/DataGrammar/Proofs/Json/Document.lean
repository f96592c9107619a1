import DataGrammar.Proofs.Document.Outline
import DataGrammar.Proofs.Json.Reading
import DataGrammar.Document.OfJson

/-!
# Reading grammar documents in JSON

A grammar document is an object with blanks around it, whose only field has the rules. The document
is checked while it is read: a rule that has no description stops the reader. Which error that is
does not matter here, so what is shown is which definitions are read, if any.

* `Json.Document rules text`: the text of a document with these rules.
* `Document.ruleDefinitions?`: the definitions that the values of rules amount to.
* `Document.toOption_definitions`: these are what is read.
-/

namespace DataGrammar

namespace Json

/-- The object that a grammar is. -/
def root (rules : List (String × Json)) : Json := .object [("definitions", .object rules)]

/-- The text of a grammar with these rules. -/
def Document (rules : List (String × Json)) (text : List Char) : Prop :=
  ∃ before body after, Blank Read.isBlank before ∧ (root rules).Written body ∧
    Blank Read.isBlank after ∧ text = before ++ (body ++ after)

end Json

namespace Document

open Read
open Json (Asks EntryReads ItemLead KeyLead EndsNumber Loops ReadsAs Unblank readEntry)

variable {α : Type} {text rest blanks : List Char}

/-! ### Steps -/

/-- Steps of the reader of JSON are steps of the reader of documents. -/
theorem yields_json {step : Json.Read α} {a? : Option α} (h : Yields step text rest a?) :
    Yields (json step) text rest a? := by
  intro c hc
  rw [← h c hc]
  unfold json
  cases step c <;> rfl

/-- A step that is followed by an error in any case gives nothing. -/
theorem toOption_bind_eq_none {ε β : Type} (step : StateT Cursor (Except ε) α)
    {f : α → StateT Cursor (Except ε) β} (h : ∀ a c, (f a c).toOption = none) (c : Cursor) :
    ((step >>= f) c).toOption = none := by
  change (step c >>= fun p => f p.1 p.2).toOption = none
  cases step c with
  | error e => rfl
  | ok p => exact h p.1 p.2

theorem yields_failInMap (fault : Fault) : Yields (failInMap fault) text rest (none : Option α) := by
  intro c _
  refine toOption_bind_eq_none _ (fun token c => ?_) c
  dsimp only
  split
  · exact toOption_bind_eq_none _ (fun _ c => rfl) c
  · rfl

theorem asks_key : Asks (fun first => json (Json.anotherKey first)) '}' KeyLead where
  closed hb := yields_json (Json.asks_anotherKey.closed hb)
  start hb hr := yields_json (Json.asks_anotherKey.start hb hr)
  next hb hb' hr := yields_json (Json.asks_anotherKey.next hb hb' hr)
  ends := Json.asks_anotherKey.ends

/-! ### Rules -/

/-- **The description of a rule is read**, if its value has one. -/
theorem readsAs_readDescription {j : Json} {depth : Nat} (hd : j.depth ≤ depth) :
    ReadsAs (readDescription depth) j.Written (Tree.ofJson j).facets.describe? := by
  intro text hw blanks rest hb hr
  refine Yields.last (yields_json (Json.readsAs_readValue j hd text hw blanks rest hb hr)) ?_
  rw [Tree.describe?, Facets.describe?]
  split
  · next d hd =>
    rw [hd]
    exact Yields.pure d
  · next m hm =>
    rw [hm]
    exact yields_failInMap _
  · next hn =>
    rw [hn]
    exact yields_failInMap _

theorem loops_readRules (depth : Nat) :
    Loops (fun first => json (Json.anotherKey first))
      (readEntry (json Json.readString) (json Json.expectColon) (readDescription depth))
      (readDefinitions.readRules depth) := by
  intro fuel first
  simp only [readDefinitions.readRules, readEntry, bind_assoc, pure_bind]

/-- The rules that values amount to. -/
def rule? (rule : String × Json) : Option (String × Description) :=
  (Tree.ofJson rule.2).facets.describe?.map (Prod.mk rule.1)

/-- The definitions that the values of rules amount to. -/
def ruleDefinitions? (rules : List (String × Json)) : Option Definitions :=
  ((rules.map rule?).mapM id).map .ofList

theorem entryReads_rules (rules : List (String × Json)) {depth : Nat}
    (hd : Json.entriesDepth rules ≤ depth) :
    List.Forall₂ (EntryReads KeyLead
        (readEntry (json Json.readString) (json Json.expectColon) (readDescription depth)))
      (Json.writtenEntries rules) (rules.map rule?) := by
  induction rules with
  | nil => exact .nil
  | cons rule rules ih =>
    obtain ⟨name, j⟩ := rule
    rw [Json.entriesDepth] at hd
    have hj : j.depth ≤ depth := by omega
    exact .cons ((readsAs_readDescription hj).entry (fun h => yields_json (Json.yields_readString h))
      fun h => yields_json (Json.yields_expectColon h)) (ih (by omega))

theorem yields_firstToken {c : Char} (hb : Blank Json.Read.isBlank blanks)
    (hc : Json.Read.isBlank c = false) : Yields firstToken blanks (c :: rest) (some c) :=
  Yields.last (yields_json (Json.yields_token? hb (by rintro _ ⟨⟩; exact hc))) (Yields.pure c)

/-- A step that looks at the text it stands in. -/
theorem yields_get {f : Cursor → Read α} {a? : Option α}
    (h : ∀ c, c.ahead = text ++ rest → Yields (f c) text rest a?) :
    Yields (get >>= f) text rest a? :=
  fun c hc => h c hc c hc

/-- **The rules of a document are read**, if all of them have descriptions. -/
theorem readsAs_readDefinitions (rules : List (String × Json)) {depth : Nat}
    (hd : Json.entriesDepth rules ≤ depth) :
    ReadsAs (readDefinitions depth) (Json.object rules).Written (ruleDefinitions? rules) := by
  rintro text ⟨blanks', list, hblanks, hlist, rfl⟩ blanks rest hb -
  refine Yields.andThen (yields_firstToken hb (by decide)) ?_
  rw [if_pos rfl]
  refine Yields.head (yields_json (Json.yields_pass ['{'])) ?_
  refine yields_get fun c hc => ?_
  have hfuel : list.length < c.ahead.length + 1 := by
    rw [hc]
    simp
    omega
  exact Yields.keep (Json.yields_loop asks_key (loops_readRules depth) hlist
    (entryReads_rules rules hd) hblanks hfuel) (yields_json (Json.yields_pass ['}'])) Definitions.ofList

/-! ### Documents -/

/-- The field with the rules is read, and no other one follows. -/
theorem yields_readFields {rules : List (String × Json)} {depth : Nat} (fuel : Nat)
    {list : List Char} (hd : Json.entriesDepth rules ≤ depth)
    (hl : Listed Json.Read.isBlank false
      (Json.writtenEntries [("definitions", .object rules)]) list)
    (hblanks : Blank Json.Read.isBlank blanks) :
    Yields (readFields depth (fuel + 2) true none) (blanks ++ list) ('}' :: rest)
      (ruleDefinitions? rules) := by
  -- There is one field, so the list is that field and the blanks behind it.
  obtain ⟨field, blanks', hfield, hblanks', rfl⟩ : ∃ field blanks',
      Paired Json.Read.isBlank (Json.TextWritten "definitions") (Json.object rules).Written field ∧
      Blank Json.Read.isBlank blanks' ∧ list = field ++ blanks' := by
    cases hl with
    | last h hb => exact ⟨_, _, h, hb, rfl⟩
    | trailing _ ht => cases ht
  obtain ⟨key, before, between, body, hkey, hbefore, hbetween, hbody, rfl⟩ := hfield
  have hlead : ∀ rest, Json.StartsWith KeyLead (key ++ rest) := fun rest => by
    obtain ⟨content, -, rfl⟩ := hkey
    exact ⟨'"', _, rfl, rfl⟩
  have hclosed : EndsNumber (blanks' ++ '}' :: rest) := .blank hblanks' (asks_key.ends rest)
  have hend : ∀ d, Yields (readFields depth (fuel + 1) false (some d)) blanks' ('}' :: rest)
      (some d) := fun d => Yields.last (asks_key.closed hblanks') (Yields.pure d)
  have hassoc : blanks ++ (key ++ (before ++ ':' :: between) ++ body ++ blanks') =
      blanks ++ (key ++ ((before ++ [':']) ++ ((between ++ body) ++ blanks'))) := by simp
  rw [hassoc, ← Option.bind_fun_some (ruleDefinitions? rules)]
  refine Yields.andThen (asks_key.start hblanks (by rw [List.append_assoc]; exact hlead _)) ?_
  rw [if_pos rfl]
  refine Yields.andThen (yields_json (Json.yields_readString hkey)) ?_
  rw [if_neg (not_not.2 rfl), Option.isSome_none, if_neg Bool.false_ne_true]
  refine Yields.andThen (yields_json (Json.yields_expectColon hbefore)) ?_
  exact Yields.bind (readsAs_readDefinitions rules hd body hbody between _ hbetween hclosed)
    fun d _ => hend d

/-- **A document is read.** -/
theorem yields_readDocument {rules : List (String × Json)} (hd : (Json.root rules).depth ≤ Json.maxDepth)
    (hw : (Json.root rules).Written text) (hb : Blank Json.Read.isBlank blanks) :
    Yields readDocument (blanks ++ text) rest (ruleDefinitions? rules) := by
  obtain ⟨blanks', list, hblanks, hlist, rfl⟩ := hw
  have hd : Json.entriesDepth rules ≤ Json.maxDepth - 2 := by
    simp only [Json.root, Json.depth, Json.entriesDepth, Nat.max_zero] at hd
    omega
  refine Yields.andThen (yields_firstToken hb (by decide)) ?_
  refine Yields.head (yields_json (Json.yields_pass ['{'])) ?_
  refine yields_get fun c hc => ?_
  obtain ⟨fuel, hfuel⟩ : ∃ fuel, c.ahead.length + 1 = fuel + 2 := by
    refine ⟨c.ahead.length - 1, ?_⟩
    rw [hc]
    simp
    omega
  rw [hfuel]
  have hfields : Yields _ _ ('}' :: rest) _ := yields_readFields fuel hd hlist hblanks
  have hread := Yields.keep hfields (yields_json (Json.yields_pass ['}'])) id
  rwa [Option.map_id] at hread

theorem toOption_map {ε β : Type} (f : α → β) (x : Except ε α) :
    (f <$> x).toOption = x.toOption.map f := by
  cases x <;> rfl

/-- **Reading the text of a document is reading its rules.** -/
theorem toOption_definitions {rules : List (String × Json)} {text : String}
    (h : Json.Document rules text.toList) (hd : (Json.root rules).depth ≤ Json.maxDepth) :
    (definitions text).toOption = ruleDefinitions? rules := by
  obtain ⟨before, body, after, hb, hw, ha, ht⟩ := h
  have hend : Yields (json Json.expectEnd) after [] (some ()) :=
    yields_json (Yields.last (Json.yields_token? ha nofun) (Yields.pure ()))
  have hread := Yields.keep (yields_readDocument hd hw hb) hend id
  have hrun := hread (.start text) (by rw [List.append_nil, List.append_assoc]; exact ht)
  change (Prod.fst <$> _ : Except Error Definitions).toOption = _
  rw [toOption_map]
  refine (congrArg _ hrun).trans ?_
  rw [Option.map_map, Option.map_id]
  exact congrFun Option.map_id _

end Document
end DataGrammar
