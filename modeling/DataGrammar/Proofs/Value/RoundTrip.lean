import DataGrammar.Proofs.Json.Printing
import DataGrammar.Proofs.Keyed
import DataGrammar.Proofs.Text.Order
import DataGrammar.Value.Json

/-!
# Values survive serialization

A value is written with no tree in between, or displayed by way of its JSON tree. Both give the same
text. The text is one of the tree, so it is read as the tree where that does not nest too deep, and
the tree stands for the value again.

* `Json.KeysAscend`: the keys of every object are in the order of their bytes.
* `Value.depth`: how deep lists and maps nest in a value.
* `Value.display_eq_serialize`: both ways give the same text.
* `Value.ofJson_toJson`: the JSON tree of a value stands for the value.
* `Value.toJson_injective`: no two values have one tree.
* `Value.serialize_faithful`: the text of a value is in order and is read as the value.
-/

namespace DataGrammar

namespace Json

mutual

/-- The keys of every object are in strictly ascending order of their bytes. -/
def KeysAscend : Json → Prop
  | .array items => KeysAscendItems items
  | .object entries =>
    entries.Pairwise (fun a b => bytes a.1 < bytes b.1) ∧ KeysAscendEntries entries
  | _ => True

/-- The keys ascend in every item. -/
def KeysAscendItems : List Json → Prop
  | [] => True
  | j :: rest => j.KeysAscend ∧ KeysAscendItems rest

/-- The keys ascend in the value of every entry. -/
def KeysAscendEntries : List (String × Json) → Prop
  | [] => True
  | (_, j) :: rest => j.KeysAscend ∧ KeysAscendEntries rest

end

end Json

namespace Value

mutual

/-- How deep lists and maps nest. -/
def depth : Value → Nat
  | .null => 0
  | .text _ => 0
  | .list items => itemsDepth items + 1
  | .map entries => entriesDepth entries + 1

/-- The most of what items take. -/
def itemsDepth : List Value → Nat
  | [] => 0
  | v :: rest => max v.depth (itemsDepth rest)

/-- The most of what the values of entries take. -/
def entriesDepth : List (String × Value) → Nat
  | [] => 0
  | (_, v) :: rest => max v.depth (entriesDepth rest)

end

/-! ### The tree of a value -/

theorem entriesToJson_eq_map (entries : List (String × Value)) :
    entriesToJson entries = entries.map fun e => (e.1, e.2.toJson) := by
  induction entries with
  | nil => rfl
  | cons e entries ih => rw [entriesToJson, ih, List.map_cons]

mutual

theorem depth_toJson (v : Value) : v.toJson.depth = v.depth := by
  cases v with
  | null => rfl
  | text s => rfl
  | list items => rw [toJson, Json.depth, depth, itemsDepth_toJson items]
  | map entries => rw [toJson, Json.depth, depth, entriesDepth_toJson entries]

theorem itemsDepth_toJson (items : List Value) :
    Json.itemsDepth (itemsToJson items) = itemsDepth items := by
  cases items with
  | nil => rfl
  | cons v rest =>
    rw [itemsToJson, Json.itemsDepth, itemsDepth, depth_toJson v, itemsDepth_toJson rest]

theorem entriesDepth_toJson (entries : List (String × Value)) :
    Json.entriesDepth (entriesToJson entries) = entriesDepth entries := by
  cases entries with
  | nil => rfl
  | cons e rest =>
    rw [entriesToJson, Json.entriesDepth, entriesDepth, depth_toJson e.2, entriesDepth_toJson rest]

end

mutual

/-- The tree of a value has no numbers. -/
theorem printable_toJson (v : Value) : v.toJson.Printable := by
  cases v with
  | null => trivial
  | text s => trivial
  | list items => exact printableItems_toJson items
  | map entries => exact printableEntries_toJson entries

theorem printableItems_toJson (items : List Value) :
    Json.PrintableItems (itemsToJson items) := by
  cases items with
  | nil => trivial
  | cons v rest => exact ⟨printable_toJson v, printableItems_toJson rest⟩

theorem printableEntries_toJson (entries : List (String × Value)) :
    Json.PrintableEntries (entriesToJson entries) := by
  cases entries with
  | nil => trivial
  | cons e rest => exact ⟨printable_toJson e.2, printableEntries_toJson rest⟩

end

mutual

/-- Text that ascends has ascending bytes. -/
theorem keysAscend_toJson (v : Value) (h : v.Ordered) : v.toJson.KeysAscend := by
  cases v with
  | null => trivial
  | text s => trivial
  | list items => exact keysAscendItems_toJson items h
  | map entries =>
    refine ⟨?_, keysAscendEntries_toJson entries h.2⟩
    rw [entriesToJson_eq_map]
    exact List.pairwise_map.2 (h.1.imp bytes_lt)

theorem keysAscendItems_toJson (items : List Value) (h : OrderedItems items) :
    Json.KeysAscendItems (itemsToJson items) := by
  cases items with
  | nil => trivial
  | cons v rest => exact ⟨keysAscend_toJson v h.1, keysAscendItems_toJson rest h.2⟩

theorem keysAscendEntries_toJson (entries : List (String × Value)) (h : OrderedEntries entries) :
    Json.KeysAscendEntries (entriesToJson entries) := by
  cases entries with
  | nil => trivial
  | cons e rest => exact ⟨keysAscend_toJson e.2 h.1, keysAscendEntries_toJson rest h.2⟩

end

mutual

/-- **The tree of a value stands for the value**: filing entries that are in order changes
nothing. -/
theorem ofJson_toJson (v : Value) (h : v.Ordered) : ofJson v.toJson = v := by
  cases v with
  | null => rfl
  | text s => rfl
  | list items => rw [toJson, ofJson, itemsOfJson_toJson items h]
  | map entries =>
    rw [toJson, ofJson, entriesOfJson_toJson entries h.2, ofEntries,
      Keyed.ofEntries_of_perm h.1 (.refl _)]

theorem itemsOfJson_toJson (items : List Value) (h : OrderedItems items) :
    itemsOfJson (itemsToJson items) = items := by
  cases items with
  | nil => rfl
  | cons v rest =>
    rw [itemsToJson, itemsOfJson, ofJson_toJson v h.1, itemsOfJson_toJson rest h.2]

theorem entriesOfJson_toJson (entries : List (String × Value)) (h : OrderedEntries entries) :
    entriesOfJson (entriesToJson entries) = entries := by
  cases entries with
  | nil => rfl
  | cons e rest =>
    rw [entriesToJson, entriesOfJson, ofJson_toJson e.2 h.1, entriesOfJson_toJson rest h.2]

end

mutual

theorem eq_of_toJson_eq (v w : Value) (h : v.toJson = w.toJson) : v = w := by
  cases v with
  | null =>
    cases w with
    | null => rfl
    | _ => cases h
  | text s =>
    cases w with
    | text t => rw [Json.text.inj h]
    | _ => cases h
  | list items =>
    cases w with
    | list others => rw [items_eq_of_toJson_eq items others (Json.array.inj h)]
    | _ => cases h
  | map entries =>
    cases w with
    | map others => rw [entries_eq_of_toJson_eq entries others (Json.object.inj h)]
    | _ => cases h

theorem items_eq_of_toJson_eq (items others : List Value)
    (h : itemsToJson items = itemsToJson others) : items = others := by
  cases items with
  | nil =>
    cases others with
    | nil => rfl
    | cons w others => cases h
  | cons v items =>
    cases others with
    | nil => cases h
    | cons w others =>
      obtain ⟨hhead, hrest⟩ := List.cons.inj h
      rw [eq_of_toJson_eq v w hhead, items_eq_of_toJson_eq items others hrest]

theorem entries_eq_of_toJson_eq (entries others : List (String × Value))
    (h : entriesToJson entries = entriesToJson others) : entries = others := by
  cases entries with
  | nil =>
    cases others with
    | nil => rfl
    | cons w others => cases h
  | cons e entries =>
    cases others with
    | nil => cases h
    | cons e' others =>
      obtain ⟨key, v⟩ := e
      obtain ⟨key', w⟩ := e'
      obtain ⟨hhead, hrest⟩ := List.cons.inj h
      obtain ⟨rfl, hvalue⟩ := Prod.mk.inj hhead
      rw [eq_of_toJson_eq v w hvalue, entries_eq_of_toJson_eq entries others hrest]

end

/-- **No two values have one tree**, also where keys are out of order. -/
theorem toJson_injective : Function.Injective toJson := fun v w => eq_of_toJson_eq v w

/-! ### The text of a value -/

mutual

/-- Commas stand before all items but the first one, which is behind all items but the last one. -/
theorem serializeChars_eq (v : Value) : v.serializeChars = v.toJson.compactChars := by
  cases v with
  | null => rfl
  | text s => rfl
  | list items => rw [serializeChars, toJson, Json.compactChars, serializeItems_eq items]
  | map entries => rw [serializeChars, toJson, Json.compactChars, serializeEntries_eq entries]

theorem serializeItems_eq (items : List Value) :
    serializeItems true items = Json.compactItems (itemsToJson items) := by
  cases items with
  | nil => rfl
  | cons v rest =>
    cases rest with
    | nil => simp [serializeItems, itemsToJson, Json.compactItems, serializeChars_eq v]
    | cons w rest =>
      have hcomma : serializeItems false (w :: rest) = ',' :: serializeItems true (w :: rest) := rfl
      rw [serializeItems, hcomma, serializeItems_eq (w :: rest), serializeChars_eq v]
      simp [itemsToJson, Json.compactItems]

theorem serializeEntries_eq (entries : List (String × Value)) :
    serializeEntries true entries = Json.compactEntries (entriesToJson entries) := by
  cases entries with
  | nil => rfl
  | cons e rest =>
    cases rest with
    | nil => simp [serializeEntries, entriesToJson, Json.compactEntries, serializeChars_eq e.2]
    | cons e' rest =>
      have hcomma : serializeEntries false (e' :: rest) =
          ',' :: serializeEntries true (e' :: rest) := rfl
      rw [serializeEntries, hcomma, serializeEntries_eq (e' :: rest), serializeChars_eq e.2]
      simp [entriesToJson, Json.compactEntries]

end

/-- **A value is displayed as it is serialized.** -/
theorem display_eq_serialize (v : Value) : v.display = v.serialize := by
  rw [display, Json.compact, serialize, serializeChars_eq]

theorem written_serialize (v : Value) : v.toJson.Written v.serialize.toList := by
  rw [← display_eq_serialize]
  exact Json.written_compact (printable_toJson v)

/-- What is read is the value, unless it nests too deep. -/
theorem deserialize_serialize {v : Value} (h : v.Ordered) (hd : v.depth ≤ 127) :
    deserialize v.serialize = .ok v := by
  have hread : Json.ofText v.serialize = .ok v.toJson :=
    Json.ofTextWithin_of_written (written_serialize v) (depth_toJson v ▸ hd)
  rw [deserialize, hread, Except.map, ofJson_toJson v h]

/-- **Values survive serialization.** The text of a value denotes its tree, in which the keys of
each map are in the order of their bytes, and up to 127 nested lists and maps are read as they
were. -/
theorem serialize_faithful (v : Value) (h : v.Ordered) :
    v.display = v.serialize ∧ Json.Denotes v.serialize v.toJson ∧ v.toJson.KeysAscend ∧
      (v.depth ≤ 127 → deserialize v.serialize = .ok v) :=
  ⟨display_eq_serialize v, Json.denotes_of_written (written_serialize v), keysAscend_toJson v h,
    deserialize_serialize h⟩

/-- A value of which keys and texts hold quotes, backslashes, control characters and more than
ASCII. -/
def escaped : Value :=
  .map [("", .list [.null, .text "\"\\\n\x01", .map [("\t\"", .text "é"), ("é😀", .list [])]]),
    ("\x7f", .text "😀\\u0041"), ("ÿ", .map [])]

theorem serialize_faithful_escaped :
    escaped.display = escaped.serialize ∧ Json.Denotes escaped.serialize escaped.toJson ∧
      escaped.toJson.KeysAscend ∧ deserialize escaped.serialize = .ok escaped := by
  have hordered : escaped.Ordered := by
    refine ⟨by decide, ⟨trivial, trivial, ⟨by decide, trivial, trivial, trivial⟩, trivial⟩,
      trivial, ⟨by decide, trivial⟩, trivial⟩
  obtain ⟨hdisplay, hdenotes, hkeys, hread⟩ := serialize_faithful escaped hordered
  exact ⟨hdisplay, hdenotes, hkeys, hread (by decide)⟩

end Value

end DataGrammar
