import DataGrammar.Proofs.Notation.Document
import DataGrammar.Proofs.Notation.Spelling

/-!
# The notation round trip

Whatever way a grammar is written in the notation, reading the text gives the grammar.

* `Description.Outlines`: the outlines of a description. A series may be a list or an object, a
  bound of zero and the lack of nesting may be left out, and members come in any order.
* `Description.meaning?_of_outlines`: an outline of a description amounts to the description.
* `Definitions.Writes`: the texts of a grammar.
* `definitions_of_writes`: reading such a text.
-/

namespace DataGrammar

open Draft (put)
open Outline (Member)
open scoped List

namespace Description

/-- The member with the name of a construct. -/
def named (name : Option String) : List Member := (name.map .name).toList

/-- The member with the default of a construct. -/
def defaulted (default : Option Value) : List Member := (default.map .default).toList

/-- The member with the upper bound of a repetition. -/
def bounded (most : Option Nat) : List Member := (most.map .most).toList

/-- The member with the lower bound of a repetition, which may be left out if it is zero. -/
def StartsAt (least : Nat) (members : List Member) : Prop :=
  (least = 0 ∧ members = []) ∨ members = [.least least]

/-- The member with the nesting of a choice, which may be left out if there is none. -/
def NestsAs (nesting : Nesting) (members : List Member) : Prop :=
  (nesting = .none ∧ members = []) ∨
    ∃ keyword, Nesting.ofKeyword keyword = nesting ∧ members = [.nesting keyword]

mutual

/-- This is an outline of the description. -/
def Outlines : Description → Outline → Prop
  | .pattern source, o => o = .pattern source
  | .reference ref, o => ∃ text, Reference.ofText text = ref ∧ o = .reference text
  | .sequence parts separator name default, o => ∃ items, OutlinesAll parts items ∧
    ((separator = none ∧ name = none ∧ default = none ∧ o = .series items) ∨
      ∃ between members, OutlinesOption separator between ∧
        members.Perm (.contains items :: (between ++ named name ++ defaulted default)) ∧
        o = .object members)
  | .choice branches nesting name default, o => ∃ items nest members, OutlinesAll branches items ∧
    NestsAs nesting nest ∧
    members.Perm (.first items :: (nest ++ named name ++ defaulted default)) ∧ o = .object members
  | .repetition item separator least most name, o => ∃ inner between start members,
    Outlines item inner ∧ OutlinesOption separator between ∧ StartsAt least start ∧
    members.Perm (.repeats inner :: (between ++ start ++ bounded most ++ named name)) ∧
    o = .object members

/-- These are outlines of the descriptions. -/
def OutlinesAll : List Description → List Outline → Prop
  | [], [] => True
  | d :: ds, o :: os => Outlines d o ∧ OutlinesAll ds os
  | _, _ => False

/-- This is the member with an outline of a separator. -/
def OutlinesOption : Option Description → List Member → Prop
  | none, members => members = []
  | some d, members => ∃ o, Outlines d o ∧ members = [.separator o]

end

section Settings

variable {d : Draft} {name : Option String} {default : Option Value} {most : Option Nat}
  {least : Nat} {nesting : Nesting} {members : List Member}

theorem foldl_named (hd : d.name = none) :
    (Outline.settings (named name)).foldl put (some d) = some { d with name } := by
  cases name with
  | none => exact congrArg some (by rw [← hd])
  | some name => rfl

theorem foldl_defaulted (hd : d.default = none) :
    (Outline.settings (defaulted default)).foldl put (some d) = some { d with default } := by
  cases default with
  | none => exact congrArg some (by rw [← hd])
  | some v => rfl

theorem foldl_bounded (hd : d.most = none) :
    (Outline.settings (bounded most)).foldl put (some d) = some { d with most } := by
  cases most with
  | none => exact congrArg some (by rw [← hd])
  | some n => rfl

theorem foldl_start (h : StartsAt least members) (hd : d.least = 0) :
    (Outline.settings members).foldl put (some d) = some { d with least } := by
  obtain ⟨rfl, rfl⟩ | rfl := h
  · exact congrArg some (by rw [← hd])
  · rfl

theorem foldl_nest (h : NestsAs nesting members) (hd : d.nesting = .none) :
    (Outline.settings members).foldl put (some d) = some { d with nesting } := by
  obtain ⟨rfl, rfl⟩ | ⟨keyword, rfl, rfl⟩ := h
  · exact congrArg some (by rw [← hd])
  · rfl

/-! No member comes twice among these. -/

theorem entries_named : (named name).map Member.entry <+ [.name] := by
  cases name <;> simp [named, Member.entry]

theorem entries_defaulted : (defaulted default).map Member.entry <+ [.default] := by
  cases default <;> simp [defaulted, Member.entry]

theorem entries_bounded : (bounded most).map Member.entry <+ [.most] := by
  cases most <;> simp [bounded, Member.entry]

theorem entries_start (h : StartsAt least members) : members.map Member.entry <+ [.least] := by
  obtain ⟨-, rfl⟩ | rfl := h <;> simp [Member.entry]

theorem entries_nest (h : NestsAs nesting members) : members.map Member.entry <+ [.nesting] := by
  obtain ⟨-, rfl⟩ | ⟨keyword, -, rfl⟩ := h <;> simp [Member.entry]

theorem entries_between {separator : Option Description} (h : OutlinesOption separator members) :
    members.map Member.entry <+ [.separator] := by
  cases separator with
  | none =>
    obtain rfl : members = [] := h
    exact List.nil_sublist _
  | some separator =>
    obtain ⟨o, -, rfl⟩ := h
    exact List.Sublist.refl _

end Settings

mutual

/-- **An outline of a description amounts to the description.** -/
theorem meaning?_of_outlines (d : Description) {o : Outline} (h : d.Outlines o) :
    o.meaning? = some d := by
  cases d with
  | pattern source =>
    obtain rfl : o = .pattern source := h
    rfl
  | reference ref =>
    obtain ⟨text, rfl, rfl⟩ := h
    rfl
  | sequence parts separator name default =>
    obtain ⟨items, hitems, ⟨rfl, rfl, rfl, rfl⟩ | ⟨between, members, hbetween, hp, rfl⟩⟩ := h
    · rw [Outline.meaning?, meanings?_of_outlinesAll parts hitems]
      rfl
    · have hitems := meanings?_of_outlinesAll parts hitems
      have hentries : (Member.contains items :: (between ++ named name ++ defaulted default)).map
          Member.entry <+ [.contains, .separator, .name, .default] := by
        simp only [List.map_cons, List.map_append]
        exact (((entries_between hbetween).append entries_named).append entries_defaulted).cons_cons _
      rw [Outline.meaning?, Outline.foldl_settings_perm hp (hentries.nodup (by decide)),
        Outline.settings, Member.setting, hitems, List.foldl_cons, Outline.settings_append, Outline.settings_append,
        List.foldl_append, List.foldl_append, Option.map_some, Draft.put_some,
        foldl_between separator hbetween rfl, foldl_named rfl, foldl_defaulted rfl]
      rfl
  | choice branches nesting name default =>
    obtain ⟨items, nest, members, hitems, hnest, hp, rfl⟩ := h
    have hitems := meanings?_of_outlinesAll branches hitems
    have hentries : (Member.first items :: (nest ++ named name ++ defaulted default)).map
        Member.entry <+ [.first, .nesting, .name, .default] := by
      simp only [List.map_cons, List.map_append]
      exact (((entries_nest hnest).append entries_named).append entries_defaulted).cons_cons _
    rw [Outline.meaning?, Outline.foldl_settings_perm hp (hentries.nodup (by decide)),
      Outline.settings, Member.setting, hitems, List.foldl_cons, Outline.settings_append,
      Outline.settings_append, List.foldl_append, List.foldl_append, Option.map_some,
      Draft.put_some, foldl_nest hnest rfl, foldl_named rfl, foldl_defaulted rfl]
    rfl
  | repetition item separator least most name =>
    obtain ⟨inner, between, start, members, hinner, hbetween, hstart, hp, rfl⟩ := h
    have hinner := meaning?_of_outlines item hinner
    have hentries : (Member.repeats inner :: (between ++ start ++ bounded most ++ named name)).map
        Member.entry <+ [.repeats, .separator, .least, .most, .name] := by
      simp only [List.map_cons, List.map_append]
      exact ((((entries_between hbetween).append (entries_start hstart)).append
        entries_bounded).append entries_named).cons_cons _
    rw [Outline.meaning?, Outline.foldl_settings_perm hp (hentries.nodup (by decide)),
      Outline.settings, Member.setting, hinner, List.foldl_cons, Outline.settings_append,
      Outline.settings_append, Outline.settings_append, List.foldl_append, List.foldl_append,
      List.foldl_append, Option.map_some, Draft.put_some, foldl_between separator hbetween rfl,
      foldl_start hstart rfl, foldl_bounded rfl, foldl_named rfl]
    rfl

theorem meanings?_of_outlinesAll (ds : List Description) {os : List Outline}
    (h : OutlinesAll ds os) : Outline.meanings? os = some ds := by
  cases ds with
  | nil =>
    cases os with
    | nil => rfl
    | cons o os => exact h.elim
  | cons d ds =>
    cases os with
    | nil => exact h.elim
    | cons o os =>
      rw [Outline.meanings?, meaning?_of_outlines d h.1, meanings?_of_outlinesAll ds h.2]
      rfl

theorem foldl_between (separator : Option Description) {members : List Member}
    (h : OutlinesOption separator members) {d : Draft} (hd : d.separator = none) :
    (Outline.settings members).foldl put (some d) = some { d with separator } := by
  cases separator with
  | none =>
    obtain rfl : members = [] := h
    exact congrArg some (by rw [← hd])
  | some separator =>
    obtain ⟨o, ho, rfl⟩ := h
    rw [Outline.settings, Member.setting, meaning?_of_outlines separator ho]
    rfl

end

end Description

/-- These are outlines of the rules. -/
def OutlinedRules (rules : List (String × Description)) (outlines : List (String × Outline)) :
    Prop :=
  List.Forall₂ (fun rule outline => rule.1 = outline.1 ∧ rule.2.Outlines outline.2) rules outlines

theorem OutlinedRules.names {rules : List (String × Description)}
    {outlines : List (String × Outline)} (h : OutlinedRules rules outlines) :
    outlines.map Prod.fst = rules.map Prod.fst := by
  induction h with
  | nil => rfl
  | cons hrule _ ih => rw [List.map_cons, List.map_cons, ih, hrule.1]

/-- Defining rules by their outlines is filing the rules. -/
theorem OutlinedRules.foldl_define? {rules : List (String × Description)}
    {outlines : List (String × Outline)} (h : OutlinedRules rules outlines) (filed : Definitions) :
    ∃ d : Definitions, outlines.foldl Outline.define? (some filed) = some d ∧
      d.rules = rules.foldl (fun filed e => Keyed.insert e.1 e.2 filed) filed.rules := by
  induction h generalizing filed with
  | nil => exact ⟨filed, rfl, rfl⟩
  | @cons rule outline rules outlines hrule _ ih =>
    obtain ⟨d, hd, hrules⟩ := ih (filed.insert outline.1 rule.2)
    refine ⟨d, ?_, ?_⟩
    · rw [List.foldl_cons, Outline.define?, Option.bind_some,
        Description.meaning?_of_outlines rule.2 hrule.2]
      exact hd
    · rw [hrules, List.foldl_cons, hrule.1]
      rfl

namespace Definitions

/-- The text is one of the grammar: its rules have outlines, which are written as literals in any
order, and these make up the text. -/
def Writes (d : Definitions) (rules : List (String × Notation.Literal)) (text : String) : Prop :=
  ∃ outlines, OutlinedRules d.rules outlines ∧
    Outline.SpelledRules Notation.spelling outlines rules ∧ Notation.Document rules text.toList

/-- Outlines of the rules amount to the definitions. -/
theorem definitions?_of_outlined {d : Definitions} {outlines : List (String × Outline)}
    (h : OutlinedRules d.rules outlines) : Outline.definitions? outlines = some d := by
  obtain ⟨d', hd', hrules⟩ := h.foldl_define? .empty
  have hfiled : Keyed.ofEntries d.rules = d.rules :=
    Keyed.ofEntries_of_perm d.ascending (List.Perm.refl _)
  rw [Outline.definitions?, hd']
  exact congrArg some (ext (hrules.trans hfiled))

theorem distinct_of_outlined {d : Definitions} {outlines : List (String × Outline)}
    (h : OutlinedRules d.rules outlines) : Keyed.Distinct outlines := by
  have hd : (d.rules.map Prod.fst).Nodup := d.ascending.distinct
  rwa [← h.names] at hd

end Definitions

namespace Notation

/-- **The notation round trip.** Every text of a grammar is read as that grammar, or else nests so
deep that reading it is aborted; it is not aborted if all references that it takes may be active
at once. -/
theorem definitions_of_writes {d : Definitions} {rules : List (String × Literal)} {text : String}
    (h : d.Writes rules text) (name : String) :
    ((root rules).references ≤ greatestReferences → definitions name text = .ok d) ∧
    (definitions name text = .ok d ∨
      definitions name text = .error (Cause.recursionLimit defaultMaxDepth)) := by
  obtain ⟨outlines, houtlines, hspelled, hdocument⟩ := h
  have hdefine : define rules .empty = .ok d := by
    have hoption := toOption_define hspelled (Definitions.distinct_of_outlined houtlines)
    rw [Definitions.definitions?_of_outlined houtlines] at hoption
    cases hrules : define rules .empty with
    | error e => rw [hrules] at hoption; cases hoption
    | ok d' => rw [hrules] at hoption; exact congrArg _ (Option.some.inj hoption)
  rw [← hdefine]
  exact definitions_of_document hdocument name

/-- A grammar with two rules. -/
def sampleWords : Definitions where
  rules := [("a\tb", .repetition (.ref "word") (some (.pattern "/")) 0 none none),
    ("word", .pattern "x")]
  ascending := by decide

/-- The rules of a text of the grammar, the last one first. -/
def sampleRules : List (String × Literal) :=
  [("word", .regex "x"), ("a\tb", .object [("separator", .regex "\\/"), ("repeats", .word "word")])]

/-- A text of the grammar, with an escaped slash, a bare word and commas after last entries. -/
def sampleText : String :=
  "\x7bdefinitions: \x7bword:/x/ ,'a\\tb':\x7bseparator:/\\//,repeats:word,\x7d,\x7d\x7d "

/-- A name and a literal with nothing but a colon between them. -/
theorem paired_of_written {name : String} {key body : List Char} {literal : Literal}
    (hkey : NameWritten name key) (hbody : literal.Written body) :
    Paired Unicode.space.contains (NameWritten name) literal.Written (key ++ ':' :: body) :=
  ⟨key, [], [], body, hkey, blank_nil, blank_nil, hbody, by simp⟩

/-- The object of the rules as it is written. -/
theorem written_sampleRules : Literal.Written (.object sampleRules)
    "\x7bword:/x/ ,'a\\tb':\x7bseparator:/\\//,repeats:word,\x7d,\x7d".toList := by
  have hname : ∀ name : String, isIdentifier name.toList = true → NameWritten name name.toList :=
    fun name h => .inl ⟨h, rfl⟩
  have hquoted : NameWritten "a\tb" "'a\\tb'".toList :=
    .inr ⟨'\'', "a\\tb".toList, .inr rfl, .plain (by decide) (by decide)
      (.escape (show ('t', '\t') ∈ escapes by decide) (.plain (by decide) (by decide) .nil)), by decide⟩
  have hx : Literal.Written (.regex "x") "/x/".toList :=
    ⟨⟨['x'], .plain (by decide) (by decide) .nil⟩, by decide⟩
  have hslash : Literal.Written (.regex "\\/") "/\\//".toList := ⟨⟨['/'], .slash .nil⟩, by decide⟩
  have hword : Literal.Written (.word "word") "word".toList := ⟨by decide, by decide, rfl⟩
  have hobject : Literal.Written
      (.object [("separator", .regex "\\/"), ("repeats", .word "word")])
      "\x7bseparator:/\\//,repeats:word,\x7d".toList :=
    ⟨[], "separator:/\\//,repeats:word,".toList, blank_nil,
      .cons (paired_of_written (hname "separator" (by decide)) hslash) blank_nil blank_nil
        (.trailing (paired_of_written (hname "repeats" (by decide)) hword) rfl blank_nil blank_nil),
      by decide⟩
  refine ⟨[], "word:/x/ ,'a\\tb':\x7bseparator:/\\//,repeats:word,\x7d,".toList, blank_nil, ?_,
    by decide⟩
  have hblank : Blank Unicode.space.contains [' '] := by decide
  exact .cons (paired_of_written (hname "word" (by decide)) hx) hblank blank_nil
    (.trailing (paired_of_written hquoted hobject) rfl blank_nil blank_nil)

theorem writes_sampleWords : sampleWords.Writes sampleRules sampleText := by
  refine ⟨[("a\tb", .object [.separator (.pattern "/"), .repeats (.reference "word")]),
    ("word", .pattern "x")], ?_, ?_, ?_⟩
  · exact .cons ⟨rfl, .reference "word", [.separator (.pattern "/")], [], _, ⟨"word", rfl, rfl⟩,
      ⟨_, rfl, rfl⟩, .inl ⟨rfl, rfl⟩, .swap .., rfl⟩ (.cons ⟨rfl, rfl⟩ .nil)
  · refine ⟨_, .swap .., .cons ⟨rfl, "x", .plain (by decide) (by decide) .nil, rfl⟩
      (.cons ⟨rfl, by decide, [("separator", .regex "\\/"), ("repeats", .word "word")], _,
        ⟨rfl, ⟨"\\/", .slash .nil, rfl⟩, rfl, .inr rfl, trivial⟩, .refl _, rfl⟩ .nil)⟩
  · have hroot : Paired Unicode.space.contains (NameWritten "definitions")
        (Literal.object sampleRules).Written
        "definitions: \x7bword:/x/ ,'a\\tb':\x7bseparator:/\\//,repeats:word,\x7d,\x7d".toList :=
      ⟨"definitions".toList, [], [' '], _, .inl ⟨by decide, rfl⟩, blank_nil, by decide,
        written_sampleRules, by decide⟩
    exact ⟨[], _, [' '], blank_nil, ⟨[], _, blank_nil, .last hroot blank_nil, rfl⟩,
      by decide, by decide⟩

theorem definitions_of_writes_sample :
    sampleWords.Writes sampleRules sampleText ∧
      (root sampleRules).references ≤ greatestReferences ∧
      definitions "sample" sampleText = .ok sampleWords := by
  have hle : (root sampleRules).references ≤ greatestReferences := by decide
  exact ⟨writes_sampleWords, hle, (definitions_of_writes writes_sampleWords "sample").1 hle⟩

end Notation
end DataGrammar
