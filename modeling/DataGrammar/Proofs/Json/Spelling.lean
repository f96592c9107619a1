import DataGrammar.Document.OfJson
import DataGrammar.Proofs.Document.Outline

/-!
# Outlines in JSON

What outlines are written as in JSON, and that reading such a value gives what the outline amounts
to. A text between slashes is a pattern, so it is no reference; patterns are written as objects. A
list that is no list of descriptions might still be the fields of an object in their order, but the
value of an outline never is: the place of the lower bound holds no number.

* `Json.spelling`: texts, patterns and numbers in JSON.
* `Json.value?_of_spelled`, `Json.describe?_of_spelled`: values and descriptions are read back.
-/

namespace DataGrammar

open Document (Facets Tree)

namespace Json

/-- A text between slashes, which may meet. -/
def Delimited (text : List Char) : Prop :=
  2 ≤ text.length ∧ text.head? = some '/' ∧ text.getLast? = some '/'

instance {text : List Char} : Decidable (Delimited text) := inferInstanceAs (Decidable (_ ∧ _))

/-- How texts, patterns and numbers are written in JSON. -/
def spelling : Spelling Json where
  text content j := j = .text content
  reference text j := ¬ Delimited text.toList ∧ j = .text text
  pattern source j := j = .object [("pattern", .text source)]
  bound n j := j = .integer n
  null := .null
  array := .array
  object := .object

/-- A text that is not between slashes is a reference. -/
theorem describeText_eq_ref {text : String} (h : ¬ Delimited text.toList) :
    Document.describeText text = .ref text := by
  unfold Document.describeText
  split
  · next rest hrest =>
    split
    · next body hbody =>
      refine absurd ⟨?_, ?_, ?_⟩ h
      · rw [hrest, ← List.length_reverse, List.reverse_cons, hbody]
        simp
      · rw [hrest, List.head?_cons]
      · rw [hrest, List.getLast?_eq_head?_reverse, List.reverse_cons, hbody]
        rfl
    · rfl
  · rfl

/-! ### Values -/

/-- Entries are read back if their values are. -/
theorem entryValues?_of_forall₂ {order : List (String × Value)} {properties : List (String × Json)}
    (h : List.Forall₂ (fun e p => e.1 = p.1 ∧ e.2.Spelled spelling p.2) order properties)
    (hvalue : ∀ e ∈ order, ∀ j, e.2.Spelled spelling j → (Tree.ofJson j).value? = some e.2) :
    Tree.entryValues? (Tree.entriesOfJson properties) = some order := by
  induction h with
  | nil => rfl
  | @cons e p order properties hp _ ih =>
    obtain ⟨he, horder⟩ := List.forall_mem_cons.1 hvalue
    obtain ⟨key, v⟩ := e
    obtain ⟨_, j⟩ := p
    obtain ⟨rfl, hp⟩ := hp
    simp only [Tree.entriesOfJson, Tree.entryValues?, he j hp, ih horder]

mutual

/-- **Values are read back.** -/
theorem value?_of_spelled (v : Value) {j : Json} (h : v.Spelled spelling j) :
    (Tree.ofJson j).value? = some v := by
  cases v with
  | null =>
    obtain rfl : j = .null := h
    rfl
  | text content =>
    obtain rfl : j = .text content := h
    rfl
  | list items =>
    obtain ⟨spelled, hitems, rfl⟩ := h
    change (Tree.values? (Tree.itemsOfJson spelled)).map Value.list = _
    rw [values?_of_spelled items hitems]
    rfl
  | map entries =>
    obtain ⟨hascending, spelled, properties, hentries, hp, rfl⟩ := h
    obtain ⟨order, horder, hall⟩ := Value.exists_order hentries hp
    have hread := entryValues?_of_forall₂ hall fun e he =>
      value?_of_spelled_of_mem entries e (horder.mem_iff.1 he)
    change (Tree.entryValues? (Tree.entriesOfJson properties)).map Value.ofEntries = _
    rw [hread, Option.map_some, Value.ofEntries, Keyed.ofEntries_of_perm hascending horder]

theorem values?_of_spelled (items : List Value) {spelled : List Json}
    (h : Value.SpelledItems spelling items spelled) :
    Tree.values? (Tree.itemsOfJson spelled) = some items := by
  cases items with
  | nil =>
    cases spelled with
    | nil => rfl
    | cons j spelled => exact h.elim
  | cons v items =>
    cases spelled with
    | nil => exact h.elim
    | cons j spelled =>
      simp only [Tree.itemsOfJson, Tree.values?, value?_of_spelled v h.1,
        values?_of_spelled items h.2]

theorem value?_of_spelled_of_mem (entries : List (String × Value)) (e : String × Value)
    (he : e ∈ entries) (j : Json) (h : e.2.Spelled spelling j) :
    (Tree.ofJson j).value? = some e.2 := by
  cases entries with
  | nil => cases he
  | cons first entries =>
    obtain ⟨key, v⟩ := first
    rcases List.mem_cons.1 he with rfl | he
    · exact value?_of_spelled v h
    · exact value?_of_spelled_of_mem entries e he j h

end

/-! ### Lists -/

@[simp] theorem tree_facets (t : Tree) : t.facets.tree = t := by
  cases t <;> rfl

/-- A tree that is neither nothing nor a bound. -/
def Unbounded (t : Tree) : Prop := t.bound? = none

/-- **A list without a bound is no list of fields.** -/
theorem draftOfList?_eq_none {entries : List Document.Entry} {facets : List Facets}
    (he : Document.Entry.least ∈ entries) (hf : ∀ f ∈ facets, Unbounded f.tree) (d : Draft) :
    Facets.draftOfList? entries facets d = none := by
  -- The induction goes down to the lower bound, where the facet at hand has no number to give.
  induction entries generalizing facets d with
  | nil => cases he
  | cons entry entries ih =>
    cases facets with
    | nil =>
      unfold Facets.draftOfList?
      split
      · next h _ => cases h
      · next h _ =>
        rw [h] at he
        exact absurd he (by decide)
      · next h => cases h
      · rfl
    | cons f facets =>
      obtain ⟨hf, hfacets⟩ := List.forall_mem_cons.1 hf
      rw [Facets.draftOfList?]
      rcases List.mem_cons.1 he with rfl | he
      · have hset : f.set? .least d = none := by
          simp only [Facets.set?, show f.tree.bound? = none from hf, Option.map_none]
        rw [hset, Option.bind_none]
      · rw [show Facets.draftOfList? entries facets = fun _ => none from
          funext fun d => ih he hfacets d, Option.bind_fun_none]

theorem unbounded_of_spelled {o : Outline} {j : Json} (h : o.Spelled spelling j) :
    Unbounded (Tree.ofJson j) := by
  cases o with
  | reference text =>
    obtain ⟨-, rfl⟩ := h
    rfl
  | pattern source =>
    obtain rfl : j = _ := h
    rfl
  | series items =>
    obtain ⟨spelled, -, rfl⟩ := h
    rfl
  | object members =>
    obtain ⟨-, spelled, properties, -, -, rfl⟩ := h
    rfl

theorem unbounded_of_spelledItems {items : List Outline} {spelled : List Json}
    (h : Outline.SpelledItems spelling items spelled) :
    ∀ f ∈ Tree.itemFacets (Tree.itemsOfJson spelled), Unbounded f.tree := by
  induction items generalizing spelled with
  | nil =>
    cases spelled with
    | nil => exact nofun
    | cons j spelled => exact h.elim
  | cons item items ih =>
    cases spelled with
    | nil => exact h.elim
    | cons j spelled =>
      refine List.forall_mem_cons.2 ⟨?_, ih h.2⟩
      rw [tree_facets]
      exact unbounded_of_spelled h.1

/-! ### Descriptions -/

/-- Reading the value of a member is making its setting. -/
def SetsAs (member : Outline.Member) : Prop :=
  ∀ j, member.Spelled spelling j → ∀ d,
    (Tree.ofJson j).facets.set? member.entry d = Draft.put (some d) member.setting

theorem ofKey?_key (entry : Document.Entry) : Document.Entry.ofKey? (.text entry.key) = some entry := by
  cases entry <;> decide

/-- Reading properties that are members is making their settings. -/
theorem draftOfMap?_of_forall₂ {order : List Outline.Member} {properties : List (String × Json)}
    (h : List.Forall₂ (fun member p => p.1 = member.entry.key ∧ member.Spelled spelling p.2)
      order properties) (hsets : ∀ member ∈ order, SetsAs member)
    (hd : (order.map Outline.Member.entry).Nodup) {seen : List Document.Entry}
    (hs : ∀ member ∈ order, member.entry ∉ seen) (d : Draft) :
    Facets.draftOfMap? (Tree.entryFacets (Tree.entriesOfJson properties)) seen d =
      (Outline.settings order).foldl Draft.put (some d) := by
  induction h generalizing seen d with
  | nil => rfl
  | @cons member p order properties hp _ ih =>
    obtain ⟨hmember, horder⟩ := List.forall_mem_cons.1 hsets
    obtain ⟨hnew, hs⟩ := List.forall_mem_cons.1 hs
    obtain ⟨hne, hd⟩ := List.nodup_cons.1 hd
    obtain ⟨_, j⟩ := p
    obtain ⟨rfl, hp⟩ := hp
    simp only [Tree.entriesOfJson, Tree.entryFacets, Facets.draftOfMap?, ofKey?_key, if_neg hnew,
      hmember j hp, Outline.settings, List.foldl_cons]
    cases Draft.put (some d) member.setting with
    | none => exact (Draft.foldl_put_none _).symm
    | some d =>
      refine ih horder hd (fun other ho hmem => ?_) d
      rcases List.mem_cons.1 hmem with he | hmem
      · exact hne (List.mem_map.2 ⟨other, ho, he⟩)
      · exact hs other ho hmem

/-- The description of a list is that of its items. -/
theorem describe?_ofList {items : List Tree} {facets : List Facets}
    (hf : ∀ f ∈ facets, Unbounded f.tree) :
    (Facets.ofList items facets).describe? = (facets.mapM Facets.describe?).map .series := by
  rw [Facets.ofList, draftOfList?_eq_none (by decide) hf]
  generalize facets.mapM Facets.describe? = parts
  cases parts <;> rfl

/-- What an outline is written as is something. -/
theorem optional?_of_spelled {o : Outline} {j : Json} (h : o.Spelled spelling j) :
    (Tree.ofJson j).facets.optional? = (Tree.ofJson j).facets.describe?.map some := by
  have hunbounded := unbounded_of_spelled h
  rw [← tree_facets (Tree.ofJson j)] at hunbounded
  unfold Facets.optional?
  split
  · next hnull =>
    rw [hnull] at hunbounded
    cases hunbounded
  · rfl

theorem describe?_ofMap (entries : List (Document.Key × Tree))
    (facets : List (Document.Key × Facets)) :
    (Facets.ofMap entries facets).describe? =
      (Facets.draftOfMap? facets [] {}).bind fun d => d.describe.toOption := by
  unfold Facets.ofMap Facets.describe?
  cases Facets.draftOfMap? facets [] {} with
  | none => rfl
  | some d =>
    simp only [Option.map_some, Option.bind_some]
    cases d.describe <;> rfl

mutual

/-- **Descriptions are read back.** -/
theorem describe?_of_spelled (o : Outline) {j : Json} (h : o.Spelled spelling j) :
    (Tree.ofJson j).facets.describe? = o.meaning? := by
  cases o with
  | reference text =>
    obtain ⟨htext, rfl⟩ := h
    exact congrArg some (describeText_eq_ref htext)
  | pattern source =>
    obtain rfl : j = _ := h
    rfl
  | series items =>
    obtain ⟨spelled, hitems, rfl⟩ := h
    change (Facets.ofList _ (Tree.itemFacets (Tree.itemsOfJson spelled))).describe? = _
    rw [describe?_ofList (unbounded_of_spelledItems hitems), describes?_of_spelled items hitems,
      Outline.meaning?]
  | object members =>
    obtain ⟨hd, spelled, properties, hmembers, hp, rfl⟩ := h
    obtain ⟨order, horder, hall⟩ := Outline.exists_order hmembers hp
    have hd' : (order.map Outline.Member.entry).Nodup := (horder.map _).nodup_iff.2 hd
    have hnone : ∀ member ∈ order, member.entry ∉ [] := fun _ _ => List.not_mem_nil
    have hdraft := draftOfMap?_of_forall₂ hall (fun member hm =>
      setsAs_of_mem members member (horder.mem_iff.1 hm)) hd' hnone {}
    change (Facets.ofMap _ (Tree.entryFacets (Tree.entriesOfJson properties))).describe? = _
    rw [describe?_ofMap, hdraft, Outline.meaning?, Outline.foldl_settings_perm horder hd]

theorem describes?_of_spelled (items : List Outline) {spelled : List Json}
    (h : Outline.SpelledItems spelling items spelled) :
    (Tree.itemFacets (Tree.itemsOfJson spelled)).mapM Facets.describe? = Outline.meanings? items := by
  cases items with
  | nil =>
    cases spelled with
    | nil => rfl
    | cons j spelled => exact h.elim
  | cons item items =>
    cases spelled with
    | nil => exact h.elim
    | cons j spelled =>
      rw [Tree.itemsOfJson, Tree.itemFacets, List.mapM_cons, describe?_of_spelled item h.1,
        describes?_of_spelled items h.2, Outline.meanings?]
      cases item.meaning? with
      | none => rfl
      | some d => cases Outline.meanings? items <;> rfl

theorem setsAs_of_mem (members : List Outline.Member) (member : Outline.Member)
    (hm : member ∈ members) : SetsAs member := by
  cases members with
  | nil => cases hm
  | cons first members =>
    rcases List.mem_cons.1 hm with rfl | hm
    · exact setsAs member
    · exact setsAs_of_mem members member hm

theorem setsAs (member : Outline.Member) : SetsAs member := by
  intro j h d
  cases member with
  | contains items =>
    obtain ⟨spelled, hitems, rfl⟩ := h
    change ((((Tree.itemFacets (Tree.itemsOfJson spelled)).mapM Facets.describe?).map some).map
      fun contains => { d with contains }) = _
    rw [describes?_of_spelled items hitems, Outline.Member.setting]
    cases Outline.meanings? items <;> rfl
  | first items =>
    obtain ⟨spelled, hitems, rfl⟩ := h
    change ((((Tree.itemFacets (Tree.itemsOfJson spelled)).mapM Facets.describe?).map some).map
      fun first => { d with first }) = _
    rw [describes?_of_spelled items hitems, Outline.Member.setting]
    cases Outline.meanings? items <;> rfl
  | repeats item =>
    have h : item.Spelled spelling j := h
    rw [Outline.Member.entry, Facets.set?, optional?_of_spelled h, describe?_of_spelled item h,
      Outline.Member.setting]
    cases item.meaning? <;> rfl
  | separator item =>
    have h : item.Spelled spelling j := h
    rw [Outline.Member.entry, Facets.set?, optional?_of_spelled h, describe?_of_spelled item h,
      Outline.Member.setting]
    cases item.meaning? <;> rfl
  | least n =>
    obtain ⟨-, rfl⟩ := h
    rfl
  | most n =>
    obtain ⟨-, rfl⟩ := h
    rfl
  | nesting keyword =>
    obtain rfl : j = .text keyword := h
    rfl
  | name text =>
    obtain rfl : j = .text text := h
    rfl
  | default v =>
    have h : v.Spelled spelling j := h
    change ((Tree.ofJson j).facets.tree.value?.map fun v => { d with default := some v }) = _
    rw [tree_facets, value?_of_spelled v h]
    rfl

end

end Json
end DataGrammar
