import DataGrammar.Proofs.Document.Outline
import DataGrammar.Proofs.Notation.Written
import DataGrammar.Proofs.Number.Exact

/-!
# Outlines in the notation

What outlines are written as in the notation, and that reading such a literal gives what the
outline amounts to.

* `Notation.spelling`: texts, patterns and numbers of the notation.
* `Literal.value_of_spelled`, `Literal.toOption_describe`: values and descriptions are read back.
* `toOption_define`: so are rules.
-/

namespace DataGrammar

theorem toOption_bind {ε α β : Type} (x : Except ε α) (f : α → Except ε β) :
    (x >>= f).toOption = x.toOption.bind fun a => (f a).toOption := by
  cases x <;> rfl

namespace Notation

/-- A spelling of a number in decimal digits. -/
def Decimal (n : Nat) (spelling : String) : Prop :=
  spelling ≠ "" ∧ (∀ c ∈ spelling.toList, c.isDigit = true) ∧
    Number.digitsValue spelling.toList = n

/-- How texts, patterns and numbers are written in the notation. -/
def spelling : Spelling Literal where
  text content literal := literal = .string content ∨ literal = .word content
  reference text literal := literal = .string text ∨ literal = .word text
  pattern source literal :=
    ∃ body : String, Slashed source.toList body.toList ∧ literal = .regex body
  bound n literal := ∃ digits, Decimal n digits ∧ literal = .number digits
  null := .null "null"
  array := .array
  object := .object

/-- A bound is read as the nearest whole number that floating point has, or as the greatest one. -/
theorem bound?_of_decimal {n : Nat} {digits : String} (h : Decimal n digits) (hn : n < 2 ^ 64) :
    bound? digits = some (min greatestBound (Binary.double.nearest n)) := by
  obtain ⟨hne, hdigits, rfl⟩ := h
  simp only [bound?, Number.float?_digits hne hdigits, Bool.false_and, Bool.false_eq_true,
    if_false, Binary.Format.floor?_roundDecimal hn, Option.map_some]

/-- A bound of up to 53 bits is read as it is. -/
theorem bound?_of_le {n : Nat} {digits : String} (h : Decimal n digits) (hn : n ≤ 2 ^ 53) :
    bound? digits = some n := by
  have hnearest : Binary.double.nearest n = n := Binary.Format.nearest_of_le (by decide) hn
  have hmin : min greatestBound n = n := Nat.min_eq_right (hn.trans (by decide))
  rw [bound?_of_decimal h (hn.trans_lt (by decide)), hnearest, hmin]

namespace Literal

theorem bound_of_spelled {n : Nat} {literal : Literal} (h : spelling.bound n literal)
    (hn : n ≤ 2 ^ 53) (rule key : String) : literal.bound rule key = .ok n := by
  obtain ⟨digits, hdigits, rfl⟩ := h
  simp only [bound, bound?_of_le hdigits hn]

theorem label_of_spelled {content : String} {literal : Literal}
    (h : spelling.text content literal) (rule key : String) :
    literal.label rule key = .ok content := by
  obtain rfl | rfl := h <;> rfl

/-! ### Values -/

/-- Entries are read back if their values are. -/
theorem entries_of_forall₂ {order : List (String × Value)} {properties : List (String × Literal)}
    (h : List.Forall₂ (fun e p => e.1 = p.1 ∧ e.2.Spelled spelling p.2) order properties)
    (hvalue : ∀ e ∈ order, ∀ literal, e.2.Spelled spelling literal → literal.value = e.2) :
    entries properties = order := by
  induction h with
  | nil => rfl
  | @cons e p order properties hp _ ih =>
    obtain ⟨he, horder⟩ := List.forall_mem_cons.1 hvalue
    rw [entries, ih horder, he _ hp.2, ← hp.1]

mutual

/-- **Values are read back.** -/
theorem value_of_spelled (v : Value) {literal : Literal} (h : v.Spelled spelling literal) :
    literal.value = v := by
  cases v with
  | null =>
    have h : literal = .null "null" := h
    rw [h, value]
  | text content =>
    obtain rfl | rfl : literal = .string content ∨ literal = .word content := h
    all_goals rw [value]
  | list items =>
    obtain ⟨spelled, hitems, rfl⟩ := h
    exact congrArg Value.list (values_of_spelled items hitems)
  | map entries =>
    obtain ⟨hascending, spelled, properties, hentries, hp, rfl⟩ := h
    obtain ⟨order, horder, hall⟩ := Value.exists_order hentries hp
    have hread := entries_of_forall₂ hall fun e he =>
      value_of_spelled_of_mem entries e (horder.mem_iff.1 he)
    change Value.ofEntries (Literal.entries properties) = _
    rw [hread, Value.ofEntries, Keyed.ofEntries_of_perm hascending horder]

theorem values_of_spelled (items : List Value) {spelled : List Literal}
    (h : Value.SpelledItems spelling items spelled) : values spelled = items := by
  cases items with
  | nil =>
    cases spelled with
    | nil => rfl
    | cons literal spelled => exact h.elim
  | cons v items =>
    cases spelled with
    | nil => exact h.elim
    | cons literal spelled =>
      rw [values, value_of_spelled v h.1, values_of_spelled items h.2]

theorem value_of_spelled_of_mem (entries : List (String × Value)) (e : String × Value)
    (he : e ∈ entries) (literal : Literal) (h : e.2.Spelled spelling literal) :
    literal.value = e.2 := by
  cases entries with
  | nil => cases he
  | cons first entries =>
    obtain ⟨key, v⟩ := first
    rcases List.mem_cons.1 he with rfl | he
    · exact value_of_spelled v h
    · exact value_of_spelled_of_mem entries e he literal h

end

/-- A default is read back. -/
theorem default?_of_spelled {v : Value} {literal : Literal} (h : v.Spelled spelling literal) :
    literal.default? = some v := by
  have hvalue := value_of_spelled v h
  unfold default?
  split
  · have hnull : v = .null := by rw [← hvalue, value]
    subst hnull
    have h : Literal.null "undefined" = .null "null" := h
    simp at h
  · rw [hvalue]

/-! ### Descriptions -/

/-- Reading a property that is a member is making its setting. -/
def DraftsAs (rule : String) (member : Outline.Member) : Prop :=
  ∀ literal, member.Spelled spelling literal → ∀ rest d,
    (draft rule ((member.entry.key, literal) :: rest) d).toOption =
      (Draft.put (some d) member.setting).bind fun d => (draft rule rest d).toOption

/-- Reading properties that are members is making their settings. -/
theorem toOption_draft {rule : String} {order : List Outline.Member}
    {properties : List (String × Literal)}
    (h : List.Forall₂ (fun member p => p.1 = member.entry.key ∧ member.Spelled spelling p.2)
      order properties) (hdraft : ∀ member ∈ order, DraftsAs rule member) (d : Draft) :
    (draft rule properties d).toOption = (Outline.settings order).foldl Draft.put (some d) := by
  induction h generalizing d with
  | nil => rfl
  | @cons member p order properties hp _ ih =>
    obtain ⟨hmember, horder⟩ := List.forall_mem_cons.1 hdraft
    obtain ⟨key, literal⟩ := p
    obtain ⟨rfl, hp⟩ := hp
    rw [hmember literal hp, Outline.settings, List.foldl_cons]
    cases Draft.put (some d) member.setting with
    | none => exact (Draft.foldl_put_none _).symm
    | some d => exact ih horder d

mutual

/-- **Descriptions are read back.** -/
theorem toOption_describe (o : Outline) {literal : Literal} (h : o.Spelled spelling literal)
    (rule : String) : (literal.describe rule).toOption = o.meaning? := by
  cases o with
  | reference text =>
    obtain rfl | rfl : literal = .string text ∨ literal = .word text := h
    all_goals rfl
  | pattern source =>
    obtain ⟨body, hbody, rfl⟩ := h
    change some (Description.slashed body) = some (.pattern source)
    rw [Description.slashed, unslash_of_slashed hbody, String.ofList_toList]
  | series items =>
    obtain ⟨spelled, hitems, rfl⟩ := h
    change (describe rule (.array spelled)).toOption = _
    rw [describe, toOption_bind, toOption_describeItems items hitems rule, Outline.meaning?]
    cases Outline.meanings? items <;> rfl
  | object members =>
    obtain ⟨hd, spelled, properties, hmembers, hp, rfl⟩ := h
    obtain ⟨order, horder, hall⟩ := Outline.exists_order hmembers hp
    have hdraft := toOption_draft hall (fun member hf =>
      toOption_draft_cons members member (horder.mem_iff.1 hf) rule) {}
    change (describe rule (.object properties)).toOption = _
    rw [describe, toOption_bind, hdraft, Outline.meaning?, Outline.foldl_settings_perm horder hd]
    congr 1
    funext d
    cases d.describe <;> rfl

theorem toOption_describeItems (items : List Outline) {spelled : List Literal}
    (h : Outline.SpelledItems spelling items spelled) (rule : String) :
    (describeItems rule spelled).toOption = Outline.meanings? items := by
  cases items with
  | nil =>
    cases spelled with
    | nil => rfl
    | cons literal spelled => exact h.elim
  | cons item items =>
    cases spelled with
    | nil => exact h.elim
    | cons literal spelled =>
      rw [describeItems, Outline.meanings?, toOption_bind, toOption_describe item h.1 rule]
      congr 1
      funext d
      rw [toOption_bind, toOption_describeItems items h.2 rule]
      cases Outline.meanings? items <;> rfl

theorem toOption_draft_cons (members : List Outline.Member) (member : Outline.Member)
    (hf : member ∈ members) (rule : String) : DraftsAs rule member := by
  cases members with
  | nil => cases hf
  | cons first members =>
    rcases List.mem_cons.1 hf with rfl | hf
    · exact draftsAs member rule
    · exact toOption_draft_cons members member hf rule

theorem draftsAs (member : Outline.Member) (rule : String) : DraftsAs rule member := by
  intro literal h rest d
  cases member with
  | contains items =>
    obtain ⟨spelled, hitems, rfl⟩ := h
    have hread : (describeArray rule "contains" (spelling.array spelled)).toOption = _ :=
      toOption_describeItems items hitems rule
    rw [Outline.Member.entry, Document.Entry.key, draft, toOption_bind, hread, Outline.Member.setting]
    cases Outline.meanings? items <;> rfl
  | first items =>
    obtain ⟨spelled, hitems, rfl⟩ := h
    have hread : (describeArray rule "first" (spelling.array spelled)).toOption = _ :=
      toOption_describeItems items hitems rule
    rw [Outline.Member.entry, Document.Entry.key, draft, toOption_bind, hread, Outline.Member.setting]
    cases Outline.meanings? items <;> rfl
  | repeats item =>
    have h : item.Spelled spelling literal := h
    rw [Outline.Member.entry, Document.Entry.key, draft, toOption_bind, toOption_describe item h rule,
      Outline.Member.setting]
    cases item.meaning? <;> rfl
  | separator item =>
    have h : item.Spelled spelling literal := h
    rw [Outline.Member.entry, Document.Entry.key, draft, toOption_bind, toOption_describe item h rule,
      Outline.Member.setting]
    cases item.meaning? <;> rfl
  | least n =>
    obtain ⟨hn, h⟩ : n ≤ 2 ^ 53 ∧ spelling.bound n literal := h
    rw [Outline.Member.entry, Document.Entry.key, draft, bound_of_spelled h hn]
    rfl
  | most n =>
    obtain ⟨hn, h⟩ : n ≤ 2 ^ 53 ∧ spelling.bound n literal := h
    rw [Outline.Member.entry, Document.Entry.key, draft, bound_of_spelled h hn]
    rfl
  | nesting keyword =>
    rw [Outline.Member.entry, Document.Entry.key, draft, label_of_spelled h]
    rfl
  | name text =>
    rw [Outline.Member.entry, Document.Entry.key, draft, label_of_spelled h]
    rfl
  | default v =>
    rw [Outline.Member.entry, Document.Entry.key, draft, default?_of_spelled h]
    rfl

end

end Literal

/-! ### Rules -/

/-- Rules are defined one after the other if their names are new. -/
theorem toOption_define_of_forall₂ {order : List (String × Outline)}
    {literals : List (String × Literal)}
    (h : List.Forall₂ (fun rule p => rule.1 = p.1 ∧ rule.2.Spelled spelling p.2) order literals)
    (hd : Keyed.Distinct order) {d : Definitions}
    (hnew : ∀ rule ∈ order, d.contains rule.1 = false) :
    (define literals d).toOption = order.foldl Outline.define? (some d) := by
  induction h generalizing d with
  | nil => rfl
  | @cons rule p order literals hp _ ih =>
    obtain ⟨name, o⟩ := rule
    obtain ⟨_, literal⟩ := p
    obtain ⟨rfl, hp⟩ := hp
    obtain ⟨hname, hd⟩ := Keyed.distinct_cons.1 hd
    obtain ⟨hd', hnew⟩ := List.forall_mem_cons.1 hnew
    have hd' : d.contains name = false := hd'
    rw [define, toOption_bind, Literal.toOption_describe o hp, List.foldl_cons]
    change _ = order.foldl Outline.define?
      (o.meaning?.map fun description => d.insert name description)
    cases o.meaning? with
    | none => exact (Outline.foldl_define?_none order).symm
    | some description =>
      simp only [Option.bind_some, hd', Bool.false_eq_true, if_false]
      refine ih hd fun rule hr => ?_
      have hne : rule.1 ≠ name := fun he => hname (List.mem_map.2 ⟨rule, hr, he⟩)
      simpa [Definitions.contains, Definitions.get?_insert, hne] using hnew rule hr

/-- **Rules are read back**, whatever the order in which they are written. -/
theorem toOption_define {rules : List (String × Outline)} {literals : List (String × Literal)}
    (h : Outline.SpelledRules spelling rules literals) (hd : Keyed.Distinct rules) :
    (define literals .empty).toOption = Outline.definitions? rules := by
  obtain ⟨order, horder, hall⟩ := h
  rw [toOption_define_of_forall₂ hall (hd.perm horder) fun _ _ => rfl]
  exact Outline.definitions?_perm horder hd

end Notation
end DataGrammar
