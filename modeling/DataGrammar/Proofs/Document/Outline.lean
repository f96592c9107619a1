import DataGrammar.Document.Describe
import DataGrammar.Proofs.Keyed
import Mathlib.Data.List.Perm.Basic

/-!
# Outlines

An outline is what a grammar document says about a rule, whatever its format: a tree of references,
patterns, lists and objects, which may have the right members or not. Every format has its own way
to write texts, patterns and numbers; how lists, objects and values are put together from these is
the same in all of them.

* `Draft.Setting`: what one member of an object sets in a draft; settings of different members may
  be made in any order.
* `Outline`, `Outline.Member`, `Outline.meaning?`: outlines and the descriptions that they amount to.
* `Spelling`: a way to write texts, patterns and numbers; `Outline.Spelled` and `Value.Spelled`:
  what outlines and values are written as. The members of an object come in any order.
-/

namespace DataGrammar

/-! ### Settings -/

namespace Draft

/-- What one member of an object sets in a draft. -/
inductive Setting where
  | pattern (source : String)
  | contains (parts : List Description)
  | first (branches : List Description)
  | repeats (item : Description)
  | separator (item : Description)
  | least (n : Nat)
  | most (n : Nat)
  | nesting (n : Nesting)
  | name (text : String)
  | default (v : Value)

/-- The member that is set. -/
def Setting.entry : Setting → Document.Entry
  | .pattern _ => .pattern
  | .contains _ => .contains
  | .first _ => .first
  | .repeats _ => .repeats
  | .separator _ => .separator
  | .least _ => .least
  | .most _ => .most
  | .nesting _ => .nesting
  | .name _ => .name
  | .default _ => .default

/-- Set a member. -/
def Setting.apply : Setting → Draft → Draft
  | .pattern source, d => { d with pattern := some source }
  | .contains parts, d => { d with contains := some parts }
  | .first branches, d => { d with first := some branches }
  | .repeats item, d => { d with repeats := some item }
  | .separator item, d => { d with separator := some item }
  | .least n, d => { d with least := n }
  | .most n, d => { d with most := some n }
  | .nesting n, d => { d with nesting := n }
  | .name text, d => { d with name := some text }
  | .default v, d => { d with default := some v }

/-- Settings of different members may be made in any order. -/
theorem Setting.apply_comm {s t : Setting} (h : s.entry ≠ t.entry) (d : Draft) :
    t.apply (s.apply d) = s.apply (t.apply d) := by
  cases s <;> cases t <;> first | exact absurd rfl h | rfl

/-- Make a setting in a draft, if both are there. -/
def put (d? : Option Draft) (s? : Option Setting) : Option Draft :=
  d?.bind fun d => s?.map fun s => s.apply d

@[simp] theorem put_some (d : Draft) (s : Setting) : put (some d) (some s) = some (s.apply d) := rfl

@[simp] theorem put_none (d? : Option Draft) : put d? none = none := by
  cases d? <;> rfl

@[simp] theorem none_put (s? : Option Setting) : put none s? = none := rfl

theorem foldl_put_none (settings : List (Option Setting)) : settings.foldl put none = none := by
  induction settings with
  | nil => rfl
  | cons s settings ih => exact ih

end Draft

open Draft (Setting put)

/-! ### Outlines -/

mutual

/-- What a grammar document says about a rule. -/
inductive Outline where
  /-- A reference. -/
  | reference (text : String)
  /-- A regular expression. -/
  | pattern (source : String)
  /-- A sequence that has nothing but parts. -/
  | series (items : List Outline)
  /-- Any other construct, and what may be none. -/
  | object (members : List Outline.Member)

/-- A member of an object. -/
inductive Outline.Member where
  | contains (items : List Outline)
  | first (items : List Outline)
  | repeats (item : Outline)
  | separator (item : Outline)
  | least (n : Nat)
  | most (n : Nat)
  | nesting (keyword : String)
  | name (text : String)
  | default (v : Value)

end

namespace Outline

/-- Which member it is. -/
def Member.entry : Member → Document.Entry
  | .contains _ => .contains
  | .first _ => .first
  | .repeats _ => .repeats
  | .separator _ => .separator
  | .least _ => .least
  | .most _ => .most
  | .nesting _ => .nesting
  | .name _ => .name
  | .default _ => .default

mutual

/-- The description that an outline amounts to, if it is one. -/
def meaning? : Outline → Option Description
  | .reference text => some (.ref text)
  | .pattern source => some (.pattern source)
  | .series items => (meanings? items).map .series
  | .object members => ((settings members).foldl put (some {})).bind fun d => d.describe.toOption

/-- The descriptions that items amount to. -/
def meanings? : List Outline → Option (List Description)
  | [] => some []
  | item :: items => item.meaning?.bind fun d => (meanings? items).map (d :: ·)

/-- What a member sets. -/
def Member.setting : Member → Option Setting
  | .contains items => (meanings? items).map .contains
  | .first items => (meanings? items).map .first
  | .repeats item => item.meaning?.map .repeats
  | .separator item => item.meaning?.map .separator
  | .least n => some (.least n)
  | .most n => some (.most n)
  | .nesting keyword => some (.nesting (.ofKeyword keyword))
  | .name text => some (.name text)
  | .default v => some (.default v)

/-- What members set. -/
def settings : List Member → List (Option Setting)
  | [] => []
  | member :: members => member.setting :: settings members

end

theorem settings_eq_map (members : List Member) : settings members = members.map Member.setting := by
  induction members with
  | nil => rfl
  | cons member members ih => rw [settings, ih, List.map_cons]

theorem settings_append (members more : List Member) :
    settings (members ++ more) = settings members ++ settings more := by
  simp only [settings_eq_map, List.map_append]

theorem Member.entry_of_setting {member : Member} {s : Setting} (h : member.setting = some s) :
    s.entry = member.entry := by
  cases member <;> simp only [Member.setting, Option.map_eq_some_iff, Option.some.injEq] at h
  case least | most | nesting | name | default =>
    subst h
    rfl
  all_goals
    obtain ⟨_, -, rfl⟩ := h
    rfl

/-- Different members may be set in any order. -/
theorem Member.put_comm {member other : Member} (h : member.entry ≠ other.entry) (d? : Option Draft) :
    put (put d? member.setting) other.setting = put (put d? other.setting) member.setting := by
  cases d? with
  | none => rfl
  | some d =>
    cases hs : member.setting with
    | none => simp
    | some s =>
      cases ht : other.setting with
      | none => simp
      | some t =>
        rw [← entry_of_setting hs, ← entry_of_setting ht] at h
        simp only [Draft.put_some, Setting.apply_comm h]

/-- **The order of members does not matter** if no member comes twice. -/
theorem foldl_settings_perm {members more : List Member} (hp : more.Perm members)
    (hd : (members.map Member.entry).Nodup) (d? : Option Draft) :
    (settings more).foldl put d? = (settings members).foldl put d? := by
  rw [settings_eq_map, settings_eq_map, List.foldl_map, List.foldl_map]
  have hd' : (more.map Member.entry).Nodup := (hp.map _).nodup_iff.2 hd
  refine hp.foldl_eq' (fun x hx y hy d => ?_) d?
  by_cases he : x.entry = y.entry
  · rw [List.inj_on_of_nodup_map hd' hx hy he]
  · exact Member.put_comm he d

end Outline

/-! ### Spellings -/

/-- A way to write texts, patterns and numbers, in a format that has lists and objects. -/
structure Spelling (T : Type) where
  /-- What a text is written as. -/
  text : String → T → Prop
  /-- What a reference is written as. -/
  reference : String → T → Prop
  /-- What a regular expression is written as. -/
  pattern : String → T → Prop
  /-- What the bound of a repetition is written as. -/
  bound : Nat → T → Prop
  /-- What nothing is written as. -/
  null : T
  array : List T → T
  object : List (String × T) → T

variable {T : Type}

namespace Value

variable (s : Spelling T)

mutual

/-- A value is written so. The entries of a map come in any order. -/
def Spelled : Value → T → Prop
  | .null, t => t = s.null
  | .text content, t => s.text content t
  | .list items, t => ∃ spelled, SpelledItems items spelled ∧ t = s.array spelled
  | .map entries, t => Keyed.Ascending entries ∧ ∃ spelled properties,
    SpelledEntries entries spelled ∧ properties.Perm spelled ∧ t = s.object properties

/-- Items are written so. -/
def SpelledItems : List Value → List T → Prop
  | [], [] => True
  | v :: items, t :: spelled => Spelled v t ∧ SpelledItems items spelled
  | _, _ => False

/-- Entries are written so. -/
def SpelledEntries : List (String × Value) → List (String × T) → Prop
  | [], [] => True
  | (key, v) :: entries, (name, t) :: spelled =>
    key = name ∧ Spelled v t ∧ SpelledEntries entries spelled
  | _, _ => False

end

end Value

namespace Outline

variable (s : Spelling T)

mutual

/-- An outline is written so. The members of an object come in any order, and none comes twice. -/
def Spelled : Outline → T → Prop
  | .reference text, t => s.reference text t
  | .pattern source, t => s.pattern source t
  | .series items, t => ∃ spelled, SpelledItems items spelled ∧ t = s.array spelled
  | .object members, t => (members.map Member.entry).Nodup ∧ ∃ spelled properties,
    SpelledMembers members spelled ∧ properties.Perm spelled ∧ t = s.object properties

/-- Items are written so. -/
def SpelledItems : List Outline → List T → Prop
  | [], [] => True
  | item :: items, t :: spelled => Spelled item t ∧ SpelledItems items spelled
  | _, _ => False

/-- What a member has is written so. -/
def Member.Spelled : Member → T → Prop
  | .contains items, t => ∃ spelled, SpelledItems items spelled ∧ t = s.array spelled
  | .first items, t => ∃ spelled, SpelledItems items spelled ∧ t = s.array spelled
  | .repeats item, t => Outline.Spelled item t
  | .separator item, t => Outline.Spelled item t
  | .least n, t => n ≤ 2 ^ 53 ∧ s.bound n t
  | .most n, t => n ≤ 2 ^ 53 ∧ s.bound n t
  | .nesting keyword, t => s.text keyword t
  | .name text, t => s.text text t
  | .default v, t => v.Spelled s t

/-- Members are written so, each one under its key. -/
def SpelledMembers : List Member → List (String × T) → Prop
  | [], [] => True
  | member :: members, (key, t) :: spelled =>
    key = member.entry.key ∧ Member.Spelled member t ∧ SpelledMembers members spelled
  | _, _ => False

end

/-- What is in some order on one side is in some order on the other one. -/
theorem exists_perm_of_forall₂ {α β : Type} {r : α → β → Prop} {as : List α} {bs cs : List β}
    (h : List.Forall₂ r as bs) (hp : cs.Perm bs) :
    ∃ order, order.Perm as ∧ List.Forall₂ r order cs := by
  have hcomp : Relation.Comp (List.Forall₂ r) List.Perm as cs := ⟨bs, h, hp.symm⟩
  rw [List.forall₂_comp_perm_eq_perm_comp_forall₂] at hcomp
  obtain ⟨order, horder, hr⟩ := hcomp
  exact ⟨order, horder.symm, hr⟩

variable {s}

/-- The members in the order in which they are written. -/
theorem exists_order {members : List Member} {spelled properties : List (String × T)}
    (h : SpelledMembers s members spelled) (hp : properties.Perm spelled) :
    ∃ order, order.Perm members ∧ List.Forall₂
      (fun member p => p.1 = member.entry.key ∧ member.Spelled s p.2) order properties := by
  refine exists_perm_of_forall₂ ?_ hp
  clear hp
  induction members generalizing spelled with
  | nil =>
    cases spelled with
    | nil => exact .nil
    | cons p spelled => exact h.elim
  | cons member members ih =>
    cases spelled with
    | nil => exact h.elim
    | cons p spelled => exact .cons ⟨h.1, h.2.1⟩ (ih h.2.2)

end Outline

/-- The entries of a map in the order in which they are written. -/
theorem Value.exists_order {s : Spelling T} {entries : List (String × Value)}
    {spelled properties : List (String × T)} (h : SpelledEntries s entries spelled)
    (hp : properties.Perm spelled) :
    ∃ order, order.Perm entries ∧ List.Forall₂
      (fun e p => e.1 = p.1 ∧ e.2.Spelled s p.2) order properties := by
  refine Outline.exists_perm_of_forall₂ ?_ hp
  clear hp
  induction entries generalizing spelled with
  | nil =>
    cases spelled with
    | nil => exact .nil
    | cons p spelled => exact h.elim
  | cons e entries ih =>
    cases spelled with
    | nil => exact h.elim
    | cons p spelled => exact .cons ⟨h.1, h.2.1⟩ (ih h.2.2)

/-! ### Grammars -/

namespace Outline

/-- The rules of a grammar are written so, in any order. -/
def SpelledRules (s : Spelling T) (rules : List (String × Outline))
    (properties : List (String × T)) : Prop :=
  ∃ order, order.Perm rules ∧ List.Forall₂
    (fun rule p => rule.1 = p.1 ∧ rule.2.Spelled s p.2) order properties

/-- Define a rule by its outline, if there are definitions and the outline has a meaning. -/
def define? (d? : Option Definitions) (rule : String × Outline) : Option Definitions :=
  d?.bind fun d => rule.2.meaning?.map fun description => d.insert rule.1 description

/-- The definitions that rules amount to. -/
def definitions? (rules : List (String × Outline)) : Option Definitions :=
  rules.foldl define? (some .empty)

theorem foldl_define?_none (rules : List (String × Outline)) :
    rules.foldl define? none = none := by
  induction rules with
  | nil => rfl
  | cons rule rules ih => exact ih

theorem define?_comm {rule other : String × Outline} (h : rule.1 ≠ other.1)
    (d? : Option Definitions) :
    define? (define? d? rule) other = define? (define? d? other) rule := by
  cases d? with
  | none => rfl
  | some d =>
    simp only [define?, Option.bind_some]
    cases rule.2.meaning? with
    | none => cases other.2.meaning? <;> rfl
    | some a =>
      cases other.2.meaning? with
      | none => rfl
      | some b => exact congrArg some (Definitions.insert_comm h d a b)

/-- The order of rules does not matter if their names differ. -/
theorem definitions?_perm {rules more : List (String × Outline)} (hp : more.Perm rules)
    (hd : Keyed.Distinct rules) : definitions? more = definitions? rules := by
  refine hp.foldl_eq' (fun x hx y hy d => ?_) _
  by_cases he : x.1 = y.1
  · rw [List.inj_on_of_nodup_map (hd.perm hp) hx hy he]
  · exact define?_comm he d

end Outline
end DataGrammar
