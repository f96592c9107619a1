import DataGrammar.Coercion
import Mathlib.Data.List.Basic

/-!
# Where coercion fails

A coercion into scalars, options, lists, mappings, newtypes and records fails at one kind of place
only: a record that lacks a required field. Whatever else does not fit gives the zero value of its
type.

* `Target.Plain`: the types in question.
* `Target.Lacks`: walking a value along a type, one meets a record without a required field.
* `Target.datum`: what a value gives, wherever it does not fit.
* `Target.prune`: what is left of a value without the keys that its records do not know.
* `Ends`: a coercion ends with a name that is lacking, or with a datum if none is.
* `Value.coerce_lenient`: coercion fails if and only if a required field is lacking.
-/

namespace DataGrammar

namespace Target

/-! ### Types -/

mutual

/-- The type is made of scalars, options, lists, mappings under text keys, newtypes and open
records, whose fields have different keys. -/
def Plain : Target → Prop
  | .wide _ | .tuple _ _ | .choice _ => False
  | .optional content => content.Plain
  | .list item => item.Plain
  | .wrapped content => content.Plain
  | .mapping key item => key = .text ∧ item.Plain
  | .record closed fields =>
    closed = false ∧ (fields.map fun f => f.1.key).Nodup ∧ PlainFields fields
  | _ => True

/-- The types of the fields are plain. -/
def PlainFields : List (Field × Target) → Prop
  | [] => True
  | (_, target) :: rest => target.Plain ∧ PlainFields rest

end

/-- Walking the value along the type, one meets a record without the required field `name`. A
walk goes into what is not null, into the items of a list, the entries of a map, and the fields of
a record that are there. A field is required if it has no default and is not optional. -/
inductive Lacks : Target → Value → (name : String) → Prop
  | present {content : Target} {v : Value} {name : String} (hv : v ≠ .null)
    (h : Lacks content v name) : Lacks (.optional content) v name
  | item {item : Target} {items : List Value} {v : Value} {name : String} (hm : v ∈ items)
    (h : Lacks item v name) : Lacks (.list item) (.list items) name
  | content {content : Target} {v : Value} {name : String} (h : Lacks content v name) :
    Lacks (.wrapped content) v name
  | entry {key : KeyTarget} {item : Target} {entries : List (String × Value)} {k : String}
    {v : Value} {name : String} (hm : (k, v) ∈ entries) (h : Lacks item v name) :
    Lacks (.mapping key item) (.map entries) name
  | field {closed : Bool} {fields : List (Field × Target)} {field : Field} {target : Target}
    {entries : List (String × Value)} {v : Value} {name : String} (hf : (field, target) ∈ fields)
    (hm : (field.key, v) ∈ entries) (h : Lacks target v name) :
    Lacks (.record closed fields) (.map entries) name
  | missing {closed : Bool} {fields : List (Field × Target)} {field : Field} {target : Target}
    {v : Value} (hf : (field, target) ∈ fields) (hd : field.default = none)
    (ho : ∀ content, target ≠ .optional content) (hm : v.get? field.key = none) :
    Lacks (.record closed fields) v field.key

/-! ### Data -/

/-- The scalar of a type that a text spells. -/
def literal? : Target → Value → Option Datum
  | .boolean, .text s =>
    if trim s = "true" then some (.boolean true)
    else if trim s = "false" then some (.boolean false)
    else none
  | .integer signed bits, .text s => (Number.integer? signed bits (trim s)).map .integer
  | .float f, .text s => (Number.float? f (trim s)).map fun r => .float f r.1 r.2
  | .character, .text s => s.toList.head?.map .character
  | .text, .text s => some (.text s)
  | .bytes, .text s => some (.bytes (s.toList.flatMap String.utf8EncodeChar))
  | _, _ => none

/-- The zero value of a type. -/
def zero : Target → Datum
  | .boolean => .boolean false
  | .integer .. => .integer 0
  | .float f => .float f false (.finite 0 0)
  | .character => .character '\x00'
  | .text => .text ""
  | .bytes => .bytes []
  | .optional _ => .absent
  | .list _ => .list []
  | .mapping .. => .mapping []
  | .wrapped content => content.zero
  | .ignored => .ignored
  | _ => .unit

/-- The types of which a text spells the data. -/
def isSpelled : Target → Bool
  | .boolean | .integer .. | .float _ | .character | .text | .bytes => true
  | _ => false

/-- The value does not fit the type: it spells no scalar, or is no list, no map, or null. -/
def Mismatched : Target → Value → Prop
  | .optional _, v => v = .null
  | .list _, v => v.list? = none
  | .mapping .., v => v.map? = none
  | .wrapped content, v => content.Mismatched v
  | target, v => target.isSpelled = true ∧ target.literal? v = none

mutual

/-- What a value gives whose records lack no required field. -/
def datum : Target → Value → Datum
  | .value, v => .value v
  | .optional content, v => if v.isNull then .absent else .present (content.datum v)
  | .list item, v => .list (v.items.map item.datum)
  | .wrapped content, v => content.datum v
  | .mapping _ item, v => .mapping (v.mapEntries.map fun e => (e.1, item.datum e.2))
  | .record _ fields, v => .record (fieldData fields v)
  | target, v => (literal? target v).getD target.zero

/-- The fields of a record: what is there, or else its default, or no datum. -/
def fieldData : List (Field × Target) → Value → List (String × Datum)
  | [], _ => []
  | (field, target) :: rest, v =>
    (field.label, match v.get? field.key with
      | some w => target.datum w
      | none => field.default.getD .absent) :: fieldData rest v

end

/-! ### Unknown keys -/

mutual

/-- A value without the keys that the records on the walk along the type do not know. -/
def prune : Target → Value → Value
  | .optional content, v => content.prune v
  | .list item, .list items => .list (items.map item.prune)
  | .wrapped content, v => content.prune v
  | .mapping _ item, .map entries => .map (entries.map fun e => (e.1, item.prune e.2))
  | .record _ fields, .map entries =>
    .map (entries.filterMap fun e => (pruneField fields e.1 e.2).map (Prod.mk e.1))
  | _, v => v

/-- What is left of the entry of a key; nothing if no field has the key. -/
def pruneField : List (Field × Target) → (key : String) → Value → Option Value
  | [], _, _ => none
  | (field, target) :: rest, key, v =>
    if field.key = key then some (target.prune v) else pruneField rest key v

end

end Target

/-! ### Ends of a coercion -/

/-- A coercion ends with the name of a field that is lacking, or with a datum if none is. -/
def Ends {α : Type} (result : Except Mismatch α) (lacks : String → Prop) (a : α) : Prop :=
  (∃ name, result = .error (.missingField name) ∧ lacks name) ∨
    (result = .ok a ∧ ∀ name, ¬ lacks name)

namespace Ends

variable {α β : Type} {result : Except Mismatch α} {lacks lacks' : String → Prop} {a : α}

theorem ok (a : α) (h : ∀ name, ¬ lacks name) : Ends (.ok a) lacks a := .inr ⟨rfl, h⟩

theorem congr (h : Ends result lacks a) (hl : ∀ name, lacks' name ↔ lacks name) :
    Ends result lacks' a := by
  rwa [funext fun name => propext (hl name)]

/-- One coercion after the other. -/
theorem bind {f : α → Except Mismatch β} {b : β} (h : Ends result lacks a)
    (hf : Ends (f a) lacks' b) : Ends (result >>= f) (fun name => lacks name ∨ lacks' name) b := by
  rcases h with ⟨name, rfl, h⟩ | ⟨rfl, h⟩
  · exact .inl ⟨name, rfl, .inl h⟩
  · rcases hf with ⟨name, he, hf⟩ | ⟨he, hf⟩
    · exact .inl ⟨name, he, .inr hf⟩
    · exact .inr ⟨he, fun name hn => hn.elim (h name) (hf name)⟩

/-- What a coercion gives is changed. -/
theorem map (h : Ends result lacks a) (f : α → β) : Ends (f <$> result) lacks (f a) := by
  rcases h with ⟨name, rfl, h⟩ | ⟨rfl, h⟩
  · exact .inl ⟨name, rfl, h⟩
  · exact .inr ⟨rfl, h⟩

end Ends

variable {α β : Type}

/-- Coercions of the items of a list. -/
theorem ends_mapM {f : α → Except Mismatch β} {g : α → β} {lacks : α → String → Prop}
    {as : List α} (h : ∀ a ∈ as, Ends (f a) (lacks a) (g a)) :
    Ends (as.mapM f) (fun name => ∃ a ∈ as, lacks a name) (as.map g) := by
  induction as with
  | nil => exact .ok [] fun name hn => by simp at hn
  | cons a as ih =>
    obtain ⟨ha, has⟩ := List.forall_mem_cons.1 h
    rw [List.mapM_cons]
    refine (ha.bind ((ih has).map (g a :: ·))).congr fun name => ?_
    exact List.exists_mem_cons_iff ..

namespace Target

open Coercion

variable {v : Value} {name : String}

/-! ### Walks -/

theorem lacks_optional_iff {content : Target} :
    Lacks (.optional content) v name ↔ v ≠ .null ∧ Lacks content v name := by
  constructor
  · rintro ⟨⟩
    exact ⟨‹_›, ‹_›⟩
  · exact fun h => .present h.1 h.2

theorem lacks_list_iff {item : Target} :
    Lacks (.list item) v name ↔ ∃ w ∈ v.items, Lacks item w name := by
  constructor
  · rintro ⟨⟩
    exact ⟨_, ‹_›, ‹_›⟩
  · rintro ⟨w, hm, h⟩
    cases v with
    | list items => exact .item hm h
    | null | text _ | map _ => cases hm

theorem lacks_wrapped_iff {content : Target} :
    Lacks (.wrapped content) v name ↔ Lacks content v name := by
  constructor
  · rintro ⟨⟩
    assumption
  · exact .content

theorem lacks_mapping_iff {key : KeyTarget} {item : Target} :
    Lacks (.mapping key item) v name ↔ ∃ e ∈ v.mapEntries, Lacks item e.2 name := by
  constructor
  · rintro ⟨⟩
    exact ⟨_, ‹_›, ‹_›⟩
  · rintro ⟨e, hm, h⟩
    cases v with
    | map entries => exact .entry hm h
    | null | text _ | list _ => cases hm

/-- A record lacks a field of its own, or one of its fields does. -/
theorem lacks_record_iff {closed : Bool} {fields : List (Field × Target)} :
    Lacks (.record closed fields) v name ↔
      (∃ e ∈ v.mapEntries, ∃ f ∈ fields, f.1.key = e.1 ∧ Lacks f.2 e.2 name) ∨
        ∃ f ∈ fields, (f.1.default = none ∧ (∀ content, f.2 ≠ .optional content) ∧
          v.get? f.1.key = none) ∧ name = f.1.key := by
  constructor
  · intro h
    cases h with
    | field hf hm h => exact .inl ⟨_, hm, _, hf, rfl, h⟩
    | missing hf hd ho hm => exact .inr ⟨_, hf, ⟨hd, ho, hm⟩, rfl⟩
  · rintro (⟨⟨key, w⟩, hm, ⟨field, target⟩, hf, rfl, h⟩ | ⟨⟨field, target⟩, hf, ⟨hd, ho, hm⟩, rfl⟩)
    · cases v with
      | map entries => exact .field hf hm h
      | null | text _ | list _ => cases hm
    · exact .missing hf hd ho hm

/-! ### Records -/

section Record

variable {fields : List (Field × Target)} {entries : List (String × Value)} {key : String}

theorem coerceField_eq (fields : List (Field × Target)) (key : String) (v : Value) :
    coerceField fields key v =
      (fields.find? fun f => f.1.key = key).map fun f => f.2.coerce v := by
  induction fields with
  | nil => rfl
  | cons f fields ih =>
    rw [coerceField, List.find?_cons]
    by_cases h : f.1.key = key
    · simp [h]
    · simp [h, ih]

/-- The field of a key is the only one that has it. -/
theorem find?_key {f : Field × Target} (hn : (fields.map fun f => f.1.key).Nodup)
    (hf : f ∈ fields) : fields.find? (fun g => g.1.key = f.1.key) = some f := by
  induction fields with
  | nil => cases hf
  | cons g fields ih =>
    rw [List.map_cons, List.nodup_cons] at hn
    rw [List.find?_cons]
    rcases List.mem_cons.1 hf with rfl | hf
    · simp
    · have hne : g.1.key ≠ f.1.key := fun h => hn.1 (h ▸ List.mem_map_of_mem hf)
      simp [hne, ih hn.2 hf]

/-- The fields of a record are read in the order of the entries. Under the key of a field then
stands what the entry of that key gives. -/
theorem exists_ends_readEntries (hn : (fields.map fun f => f.1.key).Nodup)
    (h : ∀ f ∈ fields, ∀ v, Ends (f.2.coerce v) (Lacks f.2 v) (f.2.datum v)) (keys : List String)
    (entries : List (String × Value)) : ∃ read,
      Ends (readEntries (coerceField fields) false keys entries)
        (fun name => ∃ e ∈ entries, ∃ f ∈ fields, f.1.key = e.1 ∧ Lacks f.2 e.2 name) read ∧
      ∀ f ∈ fields, read.find? (fun e => e.1 = f.1.key) =
        (Keyed.find? f.1.key entries).map fun v => (f.1.key, f.2.datum v) := by
  induction entries with
  | nil => exact ⟨[], .ok [] fun name hn => by simp at hn, fun _ _ => rfl⟩
  | cons e entries ih =>
    obtain ⟨key, v⟩ := e
    obtain ⟨read, hends, hread⟩ := ih
    cases hfind : fields.find? fun f => f.1.key = key with
    | none =>
      have hno : ∀ f ∈ fields, f.1.key ≠ key := by simpa using hfind
      refine ⟨read, ?_, fun f hf => ?_⟩
      · rw [readEntries, coerceField_eq, hfind]
        refine hends.congr fun name => ?_
        rw [List.exists_mem_cons_iff]
        exact or_iff_right fun ⟨f, hf, hk, _⟩ => hno f hf hk
      · rw [hread f hf, Keyed.find?_cons, if_neg (hno f hf)]
    | some g =>
      have hg : g ∈ fields := List.mem_of_find?_eq_some hfind
      obtain rfl : g.1.key = key := by simpa using List.find?_some hfind
      refine ⟨(g.1.key, g.2.datum v) :: read, ?_, fun f hf => ?_⟩
      · rw [readEntries, coerceField_eq, hfind]
        refine ((h g hg v).bind (hends.map ((g.1.key, g.2.datum v) :: ·))).congr fun name => ?_
        rw [List.exists_mem_cons_iff]
        refine or_congr_left ⟨fun ⟨f, hf, hk, hl⟩ => ?_, fun hl => ⟨g, hg, rfl, hl⟩⟩
        change f.1.key = g.1.key at hk
        rw [← hk, find?_key hn hf] at hfind
        exact Option.some.inj hfind ▸ hl
      · rw [Keyed.find?_cons, List.find?_cons]
        by_cases hk : g.1.key = f.1.key
        · have hfg : f = g := by
            rw [hk, find?_key hn hf] at hfind
            exact Option.some.inj hfind
          simp [hfg]
        · simp [hk, Ne.symm hk, hread f hf]

theorem isOptional_eq_false_iff {target : Target} :
    target.isOptional = false ↔ ∀ content, target ≠ .optional content := by
  cases target <;> simp [isOptional]

/-- One field of a record, from those that were read. -/
def filled (read : List (String × Datum)) (f : Field × Target) : Except Mismatch Datum :=
  match read.find? fun e => e.1 = f.1.key with
  | some (_, d) => .ok d
  | none =>
    match f.1.default with
    | some d => .ok d
    | none => if f.2.isOptional then .ok .absent else .error (.missingField f.1.key)

theorem complete_cons (read : List (String × Datum)) (f : Field × Target) :
    complete read (f :: fields) =
      filled read f >>= fun d => List.cons (f.1.label, d) <$> complete read fields := by
  obtain ⟨field, target⟩ := f
  simp only [complete, filled]
  cases read.find? fun e => e.1 = field.key with
  | some e => rfl
  | none =>
    cases field.default with
    | some d => rfl
    | none => cases target.isOptional <;> rfl

/-- A field that is lacking in a record. -/
def LacksField (f : Field × Target) (v : Value) : Prop :=
  f.1.default = none ∧ (∀ content, f.2 ≠ .optional content) ∧ v.get? f.1.key = none

/-- A field is there, or filled in from its default. -/
theorem ends_filled {read : List (String × Datum)} {f : Field × Target} {v : Value}
    (hread : read.find? (fun e => e.1 = f.1.key) =
      (v.get? f.1.key).map fun w => (f.1.key, f.2.datum w)) :
    Ends (filled read f) (fun name => LacksField f v ∧ name = f.1.key)
      (match v.get? f.1.key with
        | some w => f.2.datum w
        | none => f.1.default.getD .absent) := by
  rw [filled, hread]
  cases hv : v.get? f.1.key with
  | some w => exact .ok _ fun name h => by simp [LacksField, hv] at h
  | none =>
    cases hd : f.1.default with
    | some d => exact .ok _ fun name h => by simp [LacksField, hd] at h
    | none =>
      cases ho : f.2.isOptional with
      | true =>
        refine .ok _ fun name h => ?_
        rw [isOptional_eq_false_iff.2 h.1.2.1] at ho
        cases ho
      | false => exact .inl ⟨f.1.key, rfl, ⟨hd, isOptional_eq_false_iff.1 ho, hv⟩, rfl⟩

/-- What was not read is filled in. -/
theorem ends_complete (read : List (String × Datum)) (v : Value)
    (hread : ∀ f ∈ fields, read.find? (fun e => e.1 = f.1.key) =
      (v.get? f.1.key).map fun w => (f.1.key, f.2.datum w)) :
    Ends (complete read fields) (fun name => ∃ f ∈ fields, LacksField f v ∧ name = f.1.key)
      (fieldData fields v) := by
  induction fields with
  | nil => exact .ok [] fun name hn => by simp at hn
  | cons f fields ih =>
    obtain ⟨hf, hfields⟩ := List.forall_mem_cons.1 hread
    rw [complete_cons, fieldData]
    refine (Ends.bind (f := fun d => List.cons (f.1.label, d) <$> complete read fields)
      (ends_filled hf) ((ih hfields).map _)).congr fun name => ?_
    exact List.exists_mem_cons_iff ..

theorem get?_eq (v : Value) (key : String) : v.get? key = Keyed.find? key v.mapEntries := by
  cases v <;> rfl

/-- A record of plain types. -/
theorem ends_record (hn : (fields.map fun f => f.1.key).Nodup)
    (h : ∀ f ∈ fields, ∀ v, Ends (f.2.coerce v) (Lacks f.2 v) (f.2.datum v)) (v : Value) :
    Ends ((record false fields).coerce v) (Lacks (.record false fields) v)
      ((record false fields).datum v) := by
  obtain ⟨read, hends, hread⟩ :=
    exists_ends_readEntries hn h (fields.map fun f => f.1.key) v.mapEntries
  have hfields := ends_complete read v fun f hf => by rw [hread f hf, get?_eq]
  rw [coerce, datum]
  exact (hends.bind (hfields.map Datum.record)).congr fun name => lacks_record_iff

end Record

/-! ### Plain types -/

/-- The types of which every value has a datum. -/
def isScalar : Target → Bool
  | .unit | .value | .ignored => true
  | target => target.isSpelled

/-- A text that spells no scalar gives the zero value, and so does what is no text. -/
theorem coerce_scalar {target : Target} (h : target.isScalar = true) (v : Value) :
    target.coerce v = .ok (target.datum v) := by
  cases target with
  | boolean =>
    cases v with
    | text s =>
      simp only [coerce, datum, literal?, zero, Coercion.boolean, Value.text?, Option.map_some,
        Option.some.injEq]
      split
      · next hs => simp [hs]
      · next hs => split <;> simp [hs]
    | null | list _ | map _ => rfl
  | integer signed bits =>
    cases v with
    | text s =>
      simp only [coerce, datum, literal?, zero, Coercion.integer, Value.text?, Option.bind_some]
      cases Number.integer? signed bits (trim s) <;> rfl
    | null | list _ | map _ => rfl
  | float f =>
    cases v with
    | text s =>
      simp only [coerce, datum, literal?, zero, Coercion.float, Value.text?, Option.bind_some]
      cases Number.float? f (trim s) <;> rfl
    | null | list _ | map _ => rfl
  | character =>
    cases v with
    | text s =>
      simp only [coerce, datum, literal?, zero, Coercion.character, Value.textOrEmpty, Value.text?,
        Option.getD_some]
      cases s.toList <;> rfl
    | null | list _ | map _ => rfl
  | text | bytes => cases v <;> rfl
  | unit | value | ignored => rfl
  | optional _ | list _ | tuple _ _ | wrapped _ | mapping _ _ | record _ _ | choice _ | wide _ =>
    cases h

theorem not_lacks_scalar {target : Target} (h : target.isScalar = true) :
    ¬ Lacks target v name := by
  intro hl
  cases hl <;> cases h

mutual

/-- **A coercion into a plain type** fails where a required field is lacking, and gives its datum
otherwise. -/
theorem ends_coerce (target : Target) (h : target.Plain) (v : Value) :
    Ends (target.coerce v) (Lacks target v) (target.datum v) := by
  cases target with
  | optional content =>
    rw [coerce, datum]
    cases v with
    | null => exact .ok _ fun name hl => (lacks_optional_iff.1 hl).1 rfl
    | text _ | list _ | map _ =>
      refine ((ends_coerce content h _).map Datum.present).congr fun name => ?_
      exact lacks_optional_iff.trans (and_iff_right nofun)
  | list item =>
    rw [coerce, datum]
    refine (Ends.map (ends_mapM fun w _ => ends_coerce item h w) Datum.list).congr fun name => ?_
    exact lacks_list_iff
  | wrapped content =>
    rw [coerce, datum]
    exact (ends_coerce content h v).congr fun name => lacks_wrapped_iff
  | mapping key item =>
    obtain ⟨rfl, h⟩ := h
    rw [coerce, datum]
    refine (Ends.map (ends_mapM fun e _ => ?_) Datum.mapping).congr fun name => lacks_mapping_iff
    exact (ends_coerce item h e.2).map (Prod.mk e.1)
  | record closed fields =>
    obtain ⟨rfl, hn, hfields⟩ := h
    exact ends_record hn (ends_fields fields hfields) v
  | wide _ | tuple _ _ | choice _ => exact h.elim
  | _ => exact .inr ⟨coerce_scalar rfl v, fun _ => not_lacks_scalar rfl⟩

theorem ends_fields (fields : List (Field × Target)) (h : PlainFields fields) :
    ∀ f ∈ fields, ∀ v, Ends (f.2.coerce v) (Lacks f.2 v) (f.2.datum v) := by
  cases fields with
  | nil => exact fun _ hf => by cases hf
  | cons f fields =>
    obtain ⟨field, target⟩ := f
    exact List.forall_mem_cons.2 ⟨ends_coerce target h.1, ends_fields fields h.2⟩

end

/-! ### Values that do not fit -/

/-- What does not fit a type gives its zero value, and no walk goes into it. -/
theorem coerce_mismatched (target : Target) {v : Value} (h : target.Mismatched v) :
    target.coerce v = .ok target.zero := by
  have hscalar : ∀ t : Target, t.isSpelled = true → t.literal? v = none →
      t.coerce v = .ok t.zero := by
    intro t ht hl
    have hs : t.isScalar = true := by cases t <;> first | rfl | exact ht
    rw [coerce_scalar hs]
    cases t with
    | boolean | integer _ _ | float _ | character | text | bytes =>
      simp only [datum, hl, Option.getD_none]
    | _ => cases ht
  cases target with
  | optional content =>
    obtain rfl : v = .null := h
    rfl
  | list item =>
    rw [coerce, Value.items, h]
    rfl
  | mapping key item =>
    rw [coerce, Value.mapEntries, h]
    rfl
  | wrapped content =>
    rw [coerce, zero]
    exact coerce_mismatched content h
  | _ => exact hscalar _ h.1 h.2

/-! ### Keys that records do not know -/

theorem isNull_prune (target : Target) (v : Value) : (target.prune v).isNull = v.isNull := by
  cases target with
  | optional content =>
    rw [prune]
    exact isNull_prune content v
  | wrapped content =>
    rw [prune]
    exact isNull_prune content v
  | _ => cases v <;> rfl

theorem pruneField_eq (fields : List (Field × Target)) (key : String) (v : Value) :
    pruneField fields key v = (fields.find? fun f => f.1.key = key).map fun f => f.2.prune v := by
  induction fields with
  | nil => rfl
  | cons f fields ih =>
    rw [pruneField, List.find?_cons]
    by_cases h : f.1.key = key
    · simp [h]
    · simp [h, ih]

/-- Entries of which the keys are not known are passed over. -/
theorem readEntries_prune {fields : List (Field × Target)}
    (h : ∀ f ∈ fields, ∀ v, f.2.coerce (f.2.prune v) = f.2.coerce v) (keys : List String)
    (entries : List (String × Value)) :
    readEntries (coerceField fields) false keys
        (entries.filterMap fun e => (pruneField fields e.1 e.2).map (Prod.mk e.1)) =
      readEntries (coerceField fields) false keys entries := by
  induction entries with
  | nil => rfl
  | cons e entries ih =>
    obtain ⟨key, v⟩ := e
    rw [List.filterMap_cons, pruneField_eq, readEntries, coerceField_eq]
    cases hfind : fields.find? fun f => f.1.key = key with
    | none => exact ih
    | some g =>
      simp only [Option.map_some, readEntries, coerceField_eq, hfind, ih,
        h g (List.mem_of_find?_eq_some hfind)]

mutual

/-- **Unknown keys make no difference** to a coercion into a plain type. -/
theorem coerce_prune (target : Target) (h : target.Plain) (v : Value) :
    target.coerce (target.prune v) = target.coerce v := by
  cases target with
  | optional content =>
    rw [prune, coerce, coerce, isNull_prune, coerce_prune content h]
  | wrapped content =>
    rw [prune, coerce, coerce]
    exact coerce_prune content h v
  | list item =>
    cases v with
    | list items =>
      have hitem : item.coerce ∘ item.prune = item.coerce := funext (coerce_prune item h)
      simp only [prune, coerce, Value.items, Value.list?, Option.getD_some, List.mapM_map, hitem]
    | null | text _ | map _ => rfl
  | mapping key item =>
    cases v with
    | map entries =>
      have hitem := coerce_prune item h.2
      simp only [prune, coerce, Value.mapEntries, Value.map?, Option.getD_some, List.mapM_map,
        Function.comp_def, hitem]
    | null | text _ | list _ => rfl
  | record closed fields =>
    obtain ⟨rfl, -, hfields⟩ := h
    cases v with
    | map entries =>
      simp only [prune, coerce, Value.mapEntries, Value.map?, Option.getD_some]
      rw [readEntries_prune (coerce_pruneFields fields hfields)]
    | null | text _ | list _ => rfl
  | wide _ | tuple _ _ | choice _ => exact h.elim
  | _ => rfl

theorem coerce_pruneFields (fields : List (Field × Target)) (h : PlainFields fields) :
    ∀ f ∈ fields, ∀ v, f.2.coerce (f.2.prune v) = f.2.coerce v := by
  cases fields with
  | nil => exact fun _ hf => by cases hf
  | cons f fields =>
    obtain ⟨field, target⟩ := f
    exact List.forall_mem_cons.2 ⟨coerce_prune target h.1, coerce_pruneFields fields h.2⟩

end

end Target

open Target

/-- **Coercion fails only on a missing required field.** A coercion into a plain type fails if and
only if walking the value along the type meets a record without a required field, and then it says
so. Otherwise it gives the datum of the value, in which all that does not fit is zero, empty or
absent. Keys that no record knows make no difference. -/
theorem Value.coerce_lenient (target : Target) (h : target.Plain) (v : Value) :
    ((∃ e, v.coerce target = .error e) ↔ ∃ name, Lacks target v name) ∧
      (∀ e, v.coerce target = .error e → ∃ name, Lacks target v name ∧
        e = Diagnostic.ofCause (.coercion (Mismatch.missingField name).message)) ∧
      ((∀ name, ¬ Lacks target v name) → v.coerce target = .ok (target.datum v)) ∧
      (target.Mismatched v → v.coerce target = .ok target.zero) ∧
      ∀ w, target.prune w = target.prune v → w.coerce target = v.coerce target := by
  have hends := ends_coerce target h v
  refine ⟨?_, ?_, ?_, fun hm => ?_, fun w hw => ?_⟩
  · rcases hends with ⟨name, he, hl⟩ | ⟨hok, hl⟩
    · exact ⟨fun _ => ⟨name, hl⟩, fun _ => ⟨_, by rw [Value.coerce, he]⟩⟩
    · refine ⟨fun ⟨e, he⟩ => ?_, fun ⟨name, hn⟩ => absurd hn (hl name)⟩
      rw [Value.coerce, hok] at he
      cases he
  · intro e he
    rcases hends with ⟨name, hs, hl⟩ | ⟨hok, -⟩
    · rw [Value.coerce, hs] at he
      exact ⟨name, hl, (Except.error.inj he).symm⟩
    · rw [Value.coerce, hok] at he
      cases he
  · intro hn
    rcases hends with ⟨name, -, hl⟩ | ⟨hok, -⟩
    · exact absurd hl (hn name)
    · rw [Value.coerce, hok]
  · rw [Value.coerce, coerce_mismatched target hm]
  · rw [Value.coerce, Value.coerce, ← coerce_prune target h w, hw, coerce_prune target h v]

/-- A name and points with a number each, that may have a note. -/
def sampleTarget : Target :=
  .record false [(.required "name", .text), (.defaulted "points" (.list []), .list (.record false
    [(.required "x", .integer true 32), (.required "note", .optional .text)]))]

/-- Points that have the number, with something else, and a name that is no text. -/
def sampleWhole : Value :=
  .map [("name", .list []), ("points", .list [.map [("x", .text "7"), ("y", .null)]])]

/-- A point without the number. -/
def sampleLacking : Value := .map [("name", .text "a"), ("points", .list [.text "7"])]

/-- The number of the second value is lacking, and nothing of the first one is. -/
theorem Value.coerce_lenient_sample : sampleTarget.Plain ∧
    (∃ e, sampleLacking.coerce sampleTarget = .error e) ∧
    sampleWhole.coerce sampleTarget = .ok (.record [("name", .text ""), ("points", .list [.record
      [("x", .integer 7), ("note", .absent)]])]) := by
  have hplain : sampleTarget.Plain :=
    ⟨rfl, by decide, trivial, ⟨rfl, by decide, trivial, trivial, trivial⟩, trivial⟩
  have hlacks : Lacks sampleTarget sampleLacking "x" :=
    .field (List.mem_cons_of_mem _ (List.mem_singleton_self _))
      (List.mem_cons_of_mem _ (List.mem_singleton_self _))
      (.item (List.mem_singleton_self _)
        (.missing (List.mem_cons_self ..) rfl nofun rfl))
  have hwhole : ∀ name, ¬ Lacks sampleTarget sampleWhole name := by
    intro name
    have htext : ∀ w, ¬ Lacks .text w name := fun w => not_lacks_scalar rfl
    have hinteger : ∀ w, ¬ Lacks (.integer true 32) w name := fun w => not_lacks_scalar rfl
    simp [sampleTarget, sampleWhole, lacks_record_iff, lacks_list_iff, lacks_optional_iff,
      Field.required, Field.defaulted, Value.mapEntries, Value.map?, Value.items, Value.list?,
      Value.get?, htext, hinteger]
  exact ⟨hplain, (coerce_lenient _ hplain _).1.2 ⟨_, hlacks⟩,
    (coerce_lenient _ hplain _).2.2.1 hwhole⟩

end DataGrammar
