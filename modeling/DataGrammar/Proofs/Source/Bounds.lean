import DataGrammar.Proofs.Source.Agreement

/-!
# Bounds of repetitions

The notation reads the bound of a repetition as a floating point number, and JSON reads it as a
whole number. Both set it in a description that is otherwise that of the object without the bound.

* `Limit`: the two bounds; `Limit.set`: setting one of them in a description.
* `Notation.Literal.describe_bound`, `Document.describe?_bound`: what a bound does in the notation
  and in a document.
* `Notation.exact_iff`: which bounds the notation reads exactly.
* `GrammarFormat.bounds_of_digits`: what is loaded in both formats.
-/

namespace DataGrammar

/-- The bounds of a repetition. -/
inductive Limit where
  | least
  | most
  deriving DecidableEq, Repr

namespace Limit

/-- The key of a bound. -/
def key : Limit → String
  | .least => "min"
  | .most => "max"

/-- The field of a document that has a bound. -/
def entry : Limit → Document.Entry
  | .least => .least
  | .most => .most

/-- Set a bound of a draft. -/
def put (limit : Limit) (n : Nat) (d : Draft) : Draft :=
  match limit with
  | .least => { d with least := n }
  | .most => { d with most := some n }

/-- Set a bound of a repetition; other descriptions have none. -/
def set (limit : Limit) (n : Nat) : Description → Description
  | .repetition item separator fewest greatest name =>
    match limit with
    | .least => .repetition item separator n greatest name
    | .most => .repetition item separator fewest (some n) name
  | d => d

/-- The bound of a description. -/
def get? (limit : Limit) : Description → Option Nat
  | .repetition _ _ fewest greatest _ =>
    match limit with
    | .least => some fewest
    | .most => greatest
  | _ => none

variable (limit : Limit) {n : Nat}

theorem key_entry : limit.entry.key = limit.key := by cases limit <;> rfl

/-- A repetition has the bound that has been set. -/
theorem get?_set (n : Nat) {d : Description} (h : ∃ item separator fewest greatest name,
    limit.set n d = .repetition item separator fewest greatest name) :
    limit.get? (limit.set n d) = some n := by
  obtain ⟨item, separator, fewest, greatest, name, h⟩ := h
  cases d with
  | repetition => cases limit <;> rfl
  | _ => cases h

/-- Setting a bound does not change which construct a draft is. -/
theorem describe_put (n : Nat) (d : Draft) :
    (limit.put n d).describe = d.describe.map (limit.set n) := by
  obtain ⟨pattern, contains, first, repeats, _, _, _, _, _, _⟩ := d
  cases limit <;> cases pattern <;> cases contains <;> cases first <;> cases repeats <;> rfl

end Limit

/-- A draft with something that is repeated is a repetition, if it is a description. -/
theorem Draft.exists_of_describe {draft : Draft} {d : Description} (h : draft.describe = .ok d)
    (hr : draft.repeats.isSome) : ∃ item separator fewest greatest name,
      d = .repetition item separator fewest greatest name := by
  obtain ⟨pattern, contains, first, repeats, _, _, _, _, _, _⟩ := draft
  cases repeats with
  | none => cases hr
  | some item =>
    cases pattern <;> cases contains <;> cases first <;> cases h
    exact ⟨_, _, _, _, _, rfl⟩

/-! ### The notation -/

namespace Notation

/-- A whole number of up to 64 bits is read as it is if it is a multiple of the unit, or the
greatest bound. -/
theorem exact_iff {n : Nat} (hn : n < 2 ^ 64) :
    min greatestBound (Binary.double.nearest n) = n ↔
      n = greatestBound ∨ 2 ^ Binary.double.excess n ∣ n := by
  have hle : n ≤ greatestBound := Nat.le_pred_of_lt hn
  rw [← Binary.Format.nearest_eq_self_iff]
  constructor
  · intro h
    rcases Nat.le_total greatestBound (Binary.double.nearest n) with hg | hg
    · rw [Nat.min_eq_left hg] at h
      exact .inl h.symm
    · rw [Nat.min_eq_right hg] at h
      exact .inr h
  · rintro (rfl | h)
    · decide +kernel
    · rw [h, Nat.min_eq_right hle]

namespace Literal

variable {rule : String} {before after : List (String × Literal)} {limit : Limit} {n : Nat}
  {digits : String}

/-- Properties are read one after the other. -/
theorem draft_cons (property : String × Literal) (rest : List (String × Literal)) (d : Draft) :
    draft rule (property :: rest) d = draft rule [property] d >>= draft rule rest := by
  obtain ⟨key, literal⟩ := property
  simp only [draft]
  split
  · cases describeArray rule "contains" literal <;> rfl
  · cases describeArray rule "first" literal <;> rfl
  · cases describe rule literal <;> rfl
  · cases describe rule literal <;> rfl
  · cases bound rule "min" literal <;> rfl
  · cases bound rule "max" literal <;> rfl
  · cases label rule "nest" literal <;> rfl
  · cases label rule "name" literal <;> rfl
  · rfl
  · rfl

theorem draft_append (before after : List (String × Literal)) (d : Draft) :
    draft rule (before ++ after) d = draft rule before d >>= draft rule after := by
  induction before generalizing d with
  | nil => rfl
  | cons property before ih =>
    rw [List.cons_append, draft_cons, draft_cons property before, bind_assoc]
    congr
    funext d
    exact ih d

/-- A property with another key leaves a bound as it is. -/
theorem draft_singleton_put {property : String × Literal} (h : limit.key ≠ property.1) (d : Draft) :
    draft rule [property] (limit.put n d) = (draft rule [property] d).map (limit.put n) := by
  obtain ⟨key, literal⟩ := property
  cases limit with
  | least =>
    simp only [draft]
    split
    · cases describeArray rule "contains" literal <;> rfl
    · cases describeArray rule "first" literal <;> rfl
    · cases describe rule literal <;> rfl
    · cases describe rule literal <;> rfl
    · exact absurd rfl h
    · cases bound rule "max" literal <;> rfl
    · cases label rule "nest" literal <;> rfl
    · cases label rule "name" literal <;> rfl
    · rfl
    · rfl
  | most =>
    simp only [draft]
    split
    · cases describeArray rule "contains" literal <;> rfl
    · cases describeArray rule "first" literal <;> rfl
    · cases describe rule literal <;> rfl
    · cases describe rule literal <;> rfl
    · cases bound rule "min" literal <;> rfl
    · exact absurd rfl h
    · cases label rule "nest" literal <;> rfl
    · cases label rule "name" literal <;> rfl
    · rfl
    · rfl

/-- A bound that no later property sets stays. -/
theorem draft_put (h : limit.key ∉ after.map Prod.fst) (d : Draft) :
    draft rule after (limit.put n d) = (draft rule after d).map (limit.put n) := by
  induction after generalizing d with
  | nil => rfl
  | cons property after ih =>
    rw [List.map_cons, List.mem_cons, not_or] at h
    rw [draft_cons, draft_cons property after, draft_singleton_put h.1]
    cases draft rule [property] d with
    | error e => rfl
    | ok d => exact ih h.2 d

/-- The property of a bound, and those after it. -/
theorem draft_bound (h : limit.key ∉ after.map Prod.fst) (hd : Decimal n digits) (hn : n < 2 ^ 64)
    (d : Draft) : draft rule ((limit.key, .number digits) :: after) d =
      (draft rule after d).map (limit.put (min greatestBound (Binary.double.nearest n))) := by
  rw [← draft_put h]
  cases limit with
  | least =>
    rw [Limit.key, draft, bound, bound?_of_decimal hd hn]
    rfl
  | most =>
    rw [Limit.key, draft, bound, bound?_of_decimal hd hn]
    rfl

/-- **A bound of an object**: the description is that of the object without it, with the bound that
is read. -/
theorem describe_bound (h : limit.key ∉ after.map Prod.fst) (hd : Decimal n digits)
    (hn : n < 2 ^ 64) (rule : String) :
    (object (before ++ (limit.key, .number digits) :: after)).describe rule =
      ((object (before ++ after)).describe rule).map
        (limit.set (min greatestBound (Binary.double.nearest n))) := by
  rw [describe, describe, draft_append, draft_append]
  cases draft rule before {} with
  | error e => rfl
  | ok d =>
    simp only [bind, Except.bind, draft_bound h hd hn]
    cases draft rule after d with
    | error e => rfl
    | ok d =>
      simp only [Except.map, Limit.describe_put]
      cases d.describe <;> rfl

/-- A property sets what is repeated, or leaves it as it is. -/
theorem repeats_of_draft_singleton {property : String × Literal} {d d' : Draft}
    (h : draft rule [property] d = .ok d') :
    (property.1 = "repeats" ∧ d'.repeats.isSome) ∨
      (property.1 ≠ "repeats" ∧ d'.repeats = d.repeats) := by
  obtain ⟨key, literal⟩ := property
  simp only [draft] at h
  split at h
  case h_3 =>
    obtain ⟨item, -, h⟩ := bind_eq_ok_iff.1 h
    cases h
    exact .inl ⟨rfl, rfl⟩
  case h_9 =>
    cases h
    exact .inr ⟨by simp, rfl⟩
  case h_10 => cases h
  all_goals
    obtain ⟨part, -, h⟩ := bind_eq_ok_iff.1 h
    cases h
    exact .inr ⟨by simp, rfl⟩

/-- What is repeated stays, whatever comes later. -/
theorem isSome_repeats_of_draft {properties : List (String × Literal)} {d d' : Draft}
    (h : draft rule properties d = .ok d')
    (hr : d.repeats.isSome ∨ "repeats" ∈ properties.map Prod.fst) : d'.repeats.isSome := by
  induction properties generalizing d with
  | nil =>
    cases h
    simpa using hr
  | cons property properties ih =>
    rw [draft_cons] at h
    obtain ⟨middle, hmiddle, h⟩ := bind_eq_ok_iff.1 h
    refine ih h ?_
    rw [List.map_cons, List.mem_cons] at hr
    rcases repeats_of_draft_singleton hmiddle with ⟨-, hsome⟩ | ⟨hne, heq⟩
    · exact .inl hsome
    · rw [heq]
      exact hr.imp_right fun hr => hr.resolve_left hne.symm

/-- **An object with `repeats` is a repetition**, if it is described. -/
theorem exists_of_repeats {properties : List (String × Literal)} {d : Description}
    (h : (object properties).describe rule = .ok d)
    (hr : "repeats" ∈ properties.map Prod.fst) : ∃ item separator fewest greatest name,
      d = .repetition item separator fewest greatest name := by
  rw [describe] at h
  obtain ⟨draft, hdraft, h⟩ := bind_eq_ok_iff.1 h
  have hrepeats := isSome_repeats_of_draft hdraft (.inr hr)
  cases hd : draft.describe with
  | error m =>
    rw [hd] at h
    cases h
  | ok d' =>
    rw [hd] at h
    cases h
    exact Draft.exists_of_describe hd hrepeats

end Literal
end Notation

/-! ### Documents -/

namespace Document

variable {limit : Limit} {n : Nat} {before after : List (Key × Tree)}

/-- Setting another field leaves a bound as it is. -/
theorem Facets.set?_put {entry : Entry} (h : entry ≠ limit.entry) (f : Facets) (d : Draft) :
    f.set? entry (limit.put n d) = (f.set? entry d).map (limit.put n) := by
  cases limit with
  | least =>
    cases entry
    case least => exact absurd rfl h
    all_goals
      simp only [Facets.set?, Option.map_map]
      rfl
  | most =>
    cases entry
    case most => exact absurd rfl h
    all_goals
      simp only [Facets.set?, Option.map_map]
      rfl

/-- Setting the field of a bound. -/
theorem Facets.set?_integer (limit : Limit) (n : Nat) (d : Draft) :
    (Tree.integer n).facets.set? limit.entry d = some (limit.put n d) := by
  cases limit <;> simp [Limit.entry, Facets.set?, Tree.facets, Tree.bound?, Limit.put]

/-- No key is that of the bound. -/
def Lacks (limit : Limit) (entries : List (Key × Tree)) : Prop :=
  ∀ e ∈ entries, Entry.ofKey? e.1 ≠ some limit.entry

/-- A bound that no later field sets stays. That its field has been seen does not count. -/
theorem Facets.draftOfMap?_put (h : Lacks limit after) {seen seen' : List Entry}
    (hs : ∀ entry, entry ≠ limit.entry → (entry ∈ seen' ↔ entry ∈ seen)) (d : Draft) :
    draftOfMap? (Tree.entryFacets after) seen' (limit.put n d) =
      (draftOfMap? (Tree.entryFacets after) seen d).map (limit.put n) := by
  induction after generalizing seen seen' d with
  | nil => rfl
  | cons e after ih =>
    obtain ⟨key, t⟩ := e
    obtain ⟨hkey, hafter⟩ := List.forall_mem_cons.1 h
    rw [Tree.entryFacets, draftOfMap?, draftOfMap?]
    cases hentry : Entry.ofKey? key with
    | none => rfl
    | some entry =>
      have hne : entry ≠ limit.entry := by
        rintro rfl
        exact hkey hentry
      dsimp only
      by_cases hseen : entry ∈ seen
      · rw [if_pos hseen, if_pos ((hs entry hne).2 hseen)]
        rfl
      · rw [if_neg hseen, if_neg (mt (hs entry hne).1 hseen), set?_put hne]
        cases t.facets.set? entry d with
        | none => rfl
        | some d =>
          refine ih hafter (fun other ho => ?_) d
          rw [List.mem_cons, List.mem_cons, hs other ho]

/-- The field of a bound, among others. -/
theorem Facets.draftOfMap?_bound (hb : Lacks limit before) (ha : Lacks limit after)
    {seen : List Entry} (hs : limit.entry ∉ seen) (d : Draft) :
    draftOfMap? (Tree.entryFacets (before ++ (.text limit.key, .integer n) :: after)) seen d =
      (draftOfMap? (Tree.entryFacets (before ++ after)) seen d).map (limit.put n) := by
  induction before generalizing seen d with
  | nil =>
    have hkey : Entry.ofKey? (.text limit.key) = some limit.entry := by cases limit <;> decide
    rw [List.nil_append, List.nil_append, Tree.entryFacets, draftOfMap?, hkey]
    dsimp only
    rw [if_neg hs, set?_integer]
    refine draftOfMap?_put ha (fun entry hne => ?_) d
    rw [List.mem_cons, or_iff_right hne]
  | cons e before ih =>
    obtain ⟨key, t⟩ := e
    obtain ⟨hkey, hbefore⟩ := List.forall_mem_cons.1 hb
    rw [List.cons_append, List.cons_append, Tree.entryFacets, Tree.entryFacets, draftOfMap?,
      draftOfMap?]
    cases hentry : Entry.ofKey? key with
    | none => rfl
    | some entry =>
      dsimp only
      split
      · rfl
      · cases t.facets.set? entry d with
        | none => rfl
        | some d =>
          refine ih hbefore ?_ d
          rw [List.mem_cons, not_or]
          refine ⟨?_, hs⟩
          rintro rfl
          exact hkey hentry

/-- **A bound of an object in a document**: the description is that of the object without it, with
the bound as it is. -/
theorem describe?_bound (hb : Lacks limit before) (ha : Lacks limit after) (n : Nat) :
    (Tree.map (before ++ (.text limit.key, .integer n) :: after)).describe? =
      (Tree.map (before ++ after)).describe?.map (Except.map (limit.set n)) := by
  rw [Tree.describe?, Tree.describe?, Tree.facets, Tree.facets, Facets.ofMap, Facets.ofMap]
  dsimp only
  have hput : Draft.describe ∘ limit.put n = Except.map (limit.set n) ∘ Draft.describe :=
    funext (limit.describe_put n)
  rw [Facets.draftOfMap?_bound hb ha List.not_mem_nil, Option.map_map, hput, Option.map_map]

end Document
/-! ### Loading -/

/-- Reading the text of a grammar with one rule that is described. -/
theorem Notation.definitions_of_rule {rule : String} {literal : Literal} {text : String}
    (h : Document [(rule, literal)] text.toList)
    (hr : (root [(rule, literal)]).references ≤ greatestReferences) {d : Description}
    (hd : literal.describe rule = .ok d) (name : String) :
    definitions name text = .ok (.ofList [(rule, d)]) := by
  rw [(definitions_of_document h name).1 hr, define, hd]
  rfl

namespace Document

theorem entriesOfJson_append (before after : List (String × Json)) :
    Tree.entriesOfJson (before ++ after) =
      Tree.entriesOfJson before ++ Tree.entriesOfJson after := by
  induction before with
  | nil => rfl
  | cons entry before ih =>
    obtain ⟨key, j⟩ := entry
    rw [List.cons_append, Tree.entriesOfJson, ih]
    rfl

/-- The keys of an object in JSON are text. -/
theorem lacks_entriesOfJson {limit : Limit} {entries : List (String × Json)}
    (h : limit.key ∉ entries.map Prod.fst) : Lacks limit (Tree.entriesOfJson entries) := by
  induction entries with
  | nil => exact List.forall_mem_nil _
  | cons entry entries ih =>
    obtain ⟨key, j⟩ := entry
    rw [List.map_cons, List.mem_cons, not_or] at h
    refine List.forall_mem_cons.2 ⟨fun hkey => h.1 ?_, ih h.2⟩
    change Entry.all.find? (fun entry => entry.key = key) = some limit.entry at hkey
    rw [← limit.key_entry]
    have hfound := List.find?_some hkey
    exact of_decide_eq_true hfound

/-- A bound of an object in JSON. -/
theorem describe?_ofJson {limit : Limit} {before after : List (String × Json)}
    (hb : limit.key ∉ before.map Prod.fst) (ha : limit.key ∉ after.map Prod.fst) (n : Nat) :
    (Tree.ofJson (.object (before ++ (limit.key, .integer n) :: after))).describe? =
      (Tree.ofJson (.object (before ++ after))).describe?.map (Except.map (limit.set n)) := by
  rw [Tree.ofJson, Tree.ofJson, entriesOfJson_append, entriesOfJson_append]
  exact describe?_bound (lacks_entriesOfJson hb) (lacks_entriesOfJson ha) n

/-- Reading the text of a document with one rule that is described. -/
theorem definitions_of_rule {rule : String} {j : Json} {text : String}
    (h : Json.Document [(rule, j)] text.toList)
    (hdepth : (Json.root [(rule, j)]).depth ≤ Json.maxDepth) {d : Description}
    (hd : (Tree.ofJson j).describe? = some (.ok d)) :
    definitions text = .ok (.ofList [(rule, d)]) := by
  have hread := toOption_definitions h hdepth
  have hfacets : (Tree.ofJson j).facets.describe? = some d := by
    rw [Tree.describe?] at hd
    rw [Facets.describe?, hd]
  rw [ruleDefinitions?, List.map_singleton, rule?, hfacets] at hread
  cases hdefinitions : definitions text with
  | error e =>
    rw [hdefinitions] at hread
    cases hread
  | ok d' =>
    rw [hdefinitions] at hread
    exact congrArg Except.ok (Option.some.inj hread)

end Document

namespace GrammarFormat

open Notation (Literal Decimal greatestBound greatestReferences)
open Document (Tree)

/-- **The bounds of repetitions in the notation and in JSON.** In the notation the bound of an
object is the nearest number that floating point has to its digits, but not more than the greatest
bound; in JSON it is the number itself. Otherwise the description is that of the object without it.
So the formats agree if and only if the number is a multiple of the unit that floating point has
there, or is the greatest bound. -/
theorem bounds_of_digits {n : Nat} (hn : n < 2 ^ 64) {digits : String} (hd : Decimal n digits)
    (limit : Limit) :
    (∀ rule (before after : List (String × Literal)), limit.key ∉ after.map Prod.fst →
      (Literal.object (before ++ (limit.key, .number digits) :: after)).describe rule =
        ((Literal.object (before ++ after)).describe rule).map
          (limit.set (min greatestBound (Binary.double.nearest n))) ∧
      ∀ d, (Literal.object (before ++ (limit.key, .number digits) :: after)).describe rule = .ok d →
        "repeats" ∈ (before ++ after).map Prod.fst →
        limit.get? d = some (min greatestBound (Binary.double.nearest n))) ∧
    (∀ name text rule (before after : List (String × Literal)) d,
      limit.key ∉ after.map Prod.fst → (Literal.object (before ++ after)).describe rule = .ok d →
      Notation.Document [(rule, .object (before ++ (limit.key, .number digits) :: after))]
        text.toList →
      (Notation.root [(rule, .object (before ++ (limit.key, .number digits) :: after))]).references
        ≤ greatestReferences →
      native.definitions name text =
        .ok (.ofList [(rule, limit.set (min greatestBound (Binary.double.nearest n)) d)])) ∧
    (∀ before after : List (String × Json), limit.key ∉ (before ++ after).map Prod.fst →
      (Tree.ofJson (.object (before ++ (limit.key, .integer n) :: after))).describe? =
        (Tree.ofJson (.object (before ++ after))).describe?.map (Except.map (limit.set n))) ∧
    (∀ name text rule (before after : List (String × Json)) d,
      limit.key ∉ (before ++ after).map Prod.fst →
      (Tree.ofJson (.object (before ++ after))).describe? = some (.ok d) →
      Json.Document [(rule, .object (before ++ (limit.key, .integer n) :: after))] text.toList →
      (Json.root [(rule, .object (before ++ (limit.key, .integer n) :: after))]).depth
        ≤ Json.maxDepth →
      json.definitions name text = .ok (.ofList [(rule, limit.set n d)])) ∧
    (min greatestBound (Binary.double.nearest n) = n ↔
      n = greatestBound ∨ 2 ^ Binary.double.excess n ∣ n) := by
  have hjson : ∀ before after : List (String × Json), limit.key ∉ (before ++ after).map Prod.fst →
      (Tree.ofJson (.object (before ++ (limit.key, .integer n) :: after))).describe? =
        (Tree.ofJson (.object (before ++ after))).describe?.map (Except.map (limit.set n)) := by
    intro before after h
    rw [List.map_append, List.mem_append, not_or] at h
    exact Document.describe?_ofJson h.1 h.2 n
  refine ⟨?_, ?_, hjson, ?_, Notation.exact_iff hn⟩
  · intro rule before after h
    have heq : (Literal.object (before ++ (limit.key, .number digits) :: after)).describe rule = _ :=
      Literal.describe_bound h hd hn rule
    refine ⟨heq, fun d hdescribe hr => ?_⟩
    have hr' : "repeats" ∈ (before ++ (limit.key, .number digits) :: after).map Prod.fst := by
      rw [List.map_append, List.map_cons, List.mem_append, List.mem_cons]
      rw [List.map_append, List.mem_append] at hr
      exact hr.imp_right .inr
    have hrepetition := Literal.exists_of_repeats hdescribe hr'
    rw [heq] at hdescribe
    cases hless : (Literal.object (before ++ after)).describe rule with
    | error e =>
      rw [hless] at hdescribe
      cases hdescribe
    | ok d' =>
      rw [hless] at hdescribe
      cases hdescribe
      exact limit.get?_set _ hrepetition
  · intro name text rule before after d h hdescribe ht hr
    refine Notation.definitions_of_rule ht hr ?_ name
    rw [Literal.describe_bound h hd hn rule, hdescribe]
    rfl
  · intro name text rule before after d h hdescribe ht hdepth
    have heq := hjson before after h
    rw [hdescribe] at heq
    rw [definitions, Document.definitions_of_rule ht hdepth heq]

/-- A repetition with the bound `2 ^ 53 + 1`, in the notation. -/
def wideNotation : String :=
  "\x7bdefinitions:\x7ba:\x7brepeats:b,min:9007199254740993\x7d\x7d\x7d"

/-- The same in JSON. -/
def wideJson : String :=
  "\x7b\"definitions\":\x7b\"a\":\x7b\"repeats\":\"b\",\"min\":9007199254740993\x7d\x7d\x7d"

/-- The notation loses the last bit of the bound, and JSON does not. -/
theorem definitions_wide :
    native.definitions "grammar" wideNotation =
        .ok (.ofList [("a", .repetition (.ref "b") none 9007199254740992 none none)]) ∧
      json.definitions "grammar" wideJson =
        .ok (.ofList [("a", .repetition (.ref "b") none 9007199254740993 none none)]) := by
  decide +kernel

/-- The rule in the notation. -/
def wideLiterals : List (String × Literal) :=
  [("a", .object ([("repeats", .word "b")] ++ (Limit.least.key, .number "9007199254740993") :: []))]

/-- The rule in JSON. -/
def wideTrees : List (String × Json) :=
  [("a", .object ([("repeats", .text "b")] ++ (Limit.least.key, .integer 9007199254740993) :: []))]

theorem document_wideLiterals : Notation.Document wideLiterals wideNotation.toList := by
  have hname : ∀ {name : String}, Notation.isIdentifier name.toList = true →
      Notation.NameWritten name name.toList := fun h => .inl ⟨h, rfl⟩
  have hnumber : (Literal.number "9007199254740993").Written "9007199254740993".toList :=
    ⟨by decide, List.all_eq_true.1 (by decide), rfl⟩
  have hword : (Literal.word "b").Written ['b'] := ⟨by decide, by decide, rfl⟩
  have hrule : (Literal.object [("repeats", .word "b"),
      ("min", .number "9007199254740993")]).Written _ :=
    .pair (.intro (hname (by decide)) hword) (.intro (hname (by decide)) hnumber)
  have hrules : (Literal.object wideLiterals).Written _ :=
    .singleton (.intro (hname (by decide)) hrule)
  have hroot : (Notation.root wideLiterals).Written _ :=
    .singleton (.intro (hname (by decide)) hrules)
  exact ⟨[], _, [], blank_nil, hroot, blank_nil, by decide⟩

theorem document_wideTrees : Json.Document wideTrees wideJson.toList := by
  have hnumber : (Json.integer 9007199254740993).Written "9007199254740993".toList :=
    ⟨9007199254740993, rfl, by decide, by decide, List.all_eq_true.1 (by decide), by decide,
      by decide⟩
  have htext : ∀ {content : String}, _ → Json.TextWritten content _ := textWritten_of_plain
  have hrule : (Json.object [("repeats", .text "b"),
      ("min", .integer 9007199254740993)]).Written _ :=
    .pair (.intro (htext (by decide)) (htext (by decide))) (.intro (htext (by decide)) hnumber)
  have hrules : (Json.object wideTrees).Written _ := .singleton (.intro (htext (by decide)) hrule)
  have hroot : (Json.root wideTrees).Written _ := .singleton (.intro (htext (by decide)) hrules)
  exact ⟨[], _, [], blank_nil, hroot, blank_nil, by decide⟩

theorem bounds_of_digits_wide : 9007199254740993 < 2 ^ 64 ∧
    Decimal 9007199254740993 "9007199254740993" ∧
    native.definitions "grammar" wideNotation =
      .ok (.ofList [("a", .repetition (.ref "b") none 9007199254740992 none none)]) ∧
    json.definitions "grammar" wideJson =
      .ok (.ofList [("a", .repetition (.ref "b") none 9007199254740993 none none)]) ∧
    ¬ (9007199254740993 = greatestBound ∨
      2 ^ Binary.double.excess 9007199254740993 ∣ 9007199254740993) := by
  have hn : 9007199254740993 < 2 ^ 64 := by decide
  have hd : Decimal 9007199254740993 "9007199254740993" :=
    ⟨by decide, List.all_eq_true.1 (by decide), by decide⟩
  obtain ⟨-, hnative, -, hjson, hexact⟩ := bounds_of_digits hn hd .least
  have hread : min greatestBound (Binary.double.nearest 9007199254740993) = 9007199254740992 := by
    decide +kernel
  rw [hread] at hnative hexact
  refine ⟨hn, hd, ?_, ?_, hexact.not.1 (by decide)⟩
  · exact hnative "grammar" wideNotation "a" [("repeats", .word "b")] [] _ (by decide) rfl
      document_wideLiterals (by decide)
  · exact hjson "grammar" wideJson "a" [("repeats", .text "b")] [] _ (by decide) rfl
      document_wideTrees (by decide)

end GrammarFormat
end DataGrammar
