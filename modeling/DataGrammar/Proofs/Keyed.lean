import DataGrammar.Proofs.Compilation.Inversion
import Mathlib.Data.List.Nodup

/-!
# Filing entries in any order

Where keys differ, a keyed list does not depend on the order in which its entries are filed.

* `Keyed.Distinct`: no two entries have one key.
* `Keyed.mem_of_mem_ofEntries`: filing adds no entries.
* `Keyed.find?_ofEntries_eq_reverse`: the last entry of each key is found.
* `Keyed.mem_ofEntries_iff`, `Keyed.ofEntries_congr`: the last entry of each key stays, and nothing
  else counts.
* `Keyed.find?_ofEntries`: every entry is found under its key.
* `Keyed.ofEntries_of_perm`: filing the entries of a keyed list in any order gives that list.
* `Definitions.get?_ofList`: the same for rules.
-/

namespace DataGrammar

namespace Keyed

variable {α : Type} {key : String} {value : α} {entries more : List (String × α)}

/-- The keys differ. -/
def Distinct (entries : List (String × α)) : Prop := (entries.map Prod.fst).Nodup

instance : Decidable (Distinct entries) := inferInstanceAs (Decidable (List.Nodup _))

instance : Decidable (Ascending entries) := inferInstanceAs (Decidable (List.Pairwise _ _))

theorem distinct_cons {entry : String × α} :
    Distinct (entry :: entries) ↔ entry.1 ∉ entries.map Prod.fst ∧ Distinct entries :=
  List.nodup_cons

theorem Distinct.perm (h : Distinct entries) (hp : more.Perm entries) : Distinct more :=
  (hp.map Prod.fst).nodup_iff.2 h

theorem Ascending.distinct (h : Ascending entries) : Distinct entries := by
  refine List.pairwise_map.2 (h.imp ?_)
  intro a b hlt he
  rw [he] at hlt
  exact String.lt_irrefl _ hlt

/-- An entry of the list after `insert` is the new one or an old one. -/
theorem mem_of_mem_insert {e : String × α} (h : e ∈ insert key value entries) :
    e = (key, value) ∨ e ∈ entries := by
  induction entries with
  | nil => exact .inl (List.mem_singleton.1 h)
  | cons head rest ih =>
    simp only [insert] at h
    split at h
    · exact (List.mem_cons.1 h).imp_right (List.mem_cons_of_mem _)
    · split at h
      · exact List.mem_cons.1 h
      · rcases List.mem_cons.1 h with rfl | h
        · exact .inr (List.mem_cons_self ..)
        · exact (ih h).imp_right (List.mem_cons_of_mem _)

/-- Filing entries adds no others. -/
theorem mem_of_mem_ofEntries {e : String × α} (h : e ∈ ofEntries entries) : e ∈ entries := by
  suffices h : ∀ filed : List (String × α),
      e ∈ entries.foldl (fun filed e => insert e.1 e.2 filed) filed → e ∈ filed ∨ e ∈ entries from
    (h [] ‹_›).resolve_left List.not_mem_nil
  clear h
  induction entries with
  | nil => exact fun _ h => .inl h
  | cons head rest ih =>
    intro filed h
    rcases ih _ h with h | h
    · rcases mem_of_mem_insert h with rfl | h
      · exact .inr (List.mem_cons_self ..)
      · exact .inl h
    · exact .inr (List.mem_cons_of_mem _ h)

theorem mem_of_find? (h : find? key entries = some value) : (key, value) ∈ entries := by
  induction entries with
  | nil => cases h
  | cons e rest ih =>
    rw [find?_cons] at h
    split at h
    · next he =>
      cases h
      exact he ▸ List.mem_cons_self ..
    · exact List.mem_cons_of_mem _ (ih h)

theorem find?_eq_some_iff (hd : Distinct entries) :
    find? key entries = some value ↔ (key, value) ∈ entries := by
  refine ⟨mem_of_find?, fun h => ?_⟩
  induction entries with
  | nil => cases h
  | cons e rest ih =>
    obtain ⟨hne, hrest⟩ := distinct_cons.1 hd
    rw [find?_cons]
    rcases List.mem_cons.1 h with rfl | hm
    · exact if_pos rfl
    · have hkey : key ∈ rest.map Prod.fst := List.mem_map_of_mem (f := Prod.fst) hm
      have hk : key ≠ e.1 := by
        rintro rfl
        exact hne hkey
      rw [if_neg hk]
      exact ih hrest hm

theorem find?_perm (hd : Distinct entries) (hp : more.Perm entries) :
    find? key more = find? key entries :=
  Option.ext fun v => by
    rw [find?_eq_some_iff hd, find?_eq_some_iff (hd.perm hp), hp.mem_iff]

/-- A keyed list is determined by what is found in it. -/
theorem eq_of_find?_eq (he : Ascending entries) (hm : Ascending more)
    (h : ∀ key, find? key entries = find? key more) : entries = more := by
  have hmem : ∀ e, e ∈ entries ↔ e ∈ more := fun e => by
    rw [← find?_eq_some_iff he.distinct, ← find?_eq_some_iff hm.distinct, h]
  have hperm : entries.Perm more :=
    (List.perm_ext_iff_of_nodup (.of_map _ he.distinct) (.of_map _ hm.distinct)).2 hmem
  refine hperm.eq_of_pairwise (fun a b _ _ hab hba => ?_) he hm
  exact absurd (String.lt_trans hab hba) (String.lt_irrefl _)

theorem find?_append :
    find? key (entries ++ more) = (find? key entries).or (find? key more) := by
  induction entries with
  | nil => rfl
  | cons e rest ih =>
    rw [List.cons_append, find?_cons, find?_cons, ih]
    split <;> rfl

theorem find?_foldl_insert (filed : List (String × α)) :
    find? key (entries.foldl (fun filed e => insert e.1 e.2 filed) filed) =
      (find? key entries.reverse).or (find? key filed) := by
  induction entries generalizing filed with
  | nil => rfl
  | cons e rest ih =>
    rw [List.foldl_cons, ih, find?_insert, List.reverse_cons, find?_append, Option.or_assoc,
      find?_cons, find?_nil]
    split <;> rfl

/-- What is found is the last entry that was filed under the key. -/
theorem find?_ofEntries_eq_reverse :
    find? key (ofEntries entries) = find? key entries.reverse := by
  rw [ofEntries, find?_foldl_insert, find?_nil, Option.or_none]

/-- What is found is the first entry under the key. -/
theorem find?_eq_some_iff_append :
    find? key entries = some value ↔ ∃ before after,
      entries = before ++ (key, value) :: after ∧ key ∉ before.map Prod.fst := by
  constructor
  · intro h
    induction entries with
    | nil => cases h
    | cons e rest ih =>
      rw [find?_cons] at h
      split at h
      · next he =>
        cases h
        exact ⟨[], rest, he ▸ rfl, List.not_mem_nil⟩
      · next he =>
        obtain ⟨before, after, rfl, hbefore⟩ := ih h
        exact ⟨e :: before, after, rfl, List.not_mem_cons_of_ne_of_not_mem he hbefore⟩
  · rintro ⟨before, after, rfl, hbefore⟩
    rw [find?_append, find?_eq_none_iff.2 hbefore, find?_cons, if_pos rfl, Option.none_or]

/-- An entry is the last one of its key. -/
def Stays (entries : List (String × α)) (key : String) (value : α) : Prop :=
  ∃ earlier later, entries = earlier ++ (key, value) :: later ∧ key ∉ later.map Prod.fst

theorem stays_iff : Stays entries key value ↔ find? key entries.reverse = some value := by
  rw [find?_eq_some_iff_append]
  constructor
  · rintro ⟨earlier, later, rfl, hlater⟩
    refine ⟨later.reverse, earlier.reverse, ?_, ?_⟩
    · rw [List.reverse_append, List.reverse_cons, List.append_assoc, List.singleton_append]
    · rwa [List.map_reverse, List.mem_reverse]
  · rintro ⟨before, after, hentries, hbefore⟩
    refine ⟨after.reverse, before.reverse, ?_, ?_⟩
    · rw [← List.reverse_reverse entries, hentries, List.reverse_append, List.reverse_cons,
        List.append_assoc, List.singleton_append]
    · rwa [List.map_reverse, List.mem_reverse]

/-- **The last entry of each key stays**, and no other. -/
theorem mem_ofEntries_iff : (key, value) ∈ ofEntries entries ↔ Stays entries key value := by
  rw [← find?_eq_some_iff (ascending_ofEntries entries).distinct, find?_ofEntries_eq_reverse,
    stays_iff]

/-- Filed entries depend only on the last one of each key. -/
theorem ofEntries_congr (h : ∀ key value, Stays entries key value ↔ Stays more key value) :
    ofEntries entries = ofEntries more := by
  refine eq_of_find?_eq (ascending_ofEntries entries) (ascending_ofEntries more) fun key => ?_
  refine Option.ext fun value => ?_
  rw [find?_ofEntries_eq_reverse, find?_ofEntries_eq_reverse, ← stays_iff, ← stays_iff, h]

/-- An entry is found under its key, whatever is filed besides it. -/
theorem find?_ofEntries (hd : Distinct entries) :
    find? key (ofEntries entries) = find? key entries := by
  rw [find?_ofEntries_eq_reverse, find?_perm hd entries.reverse_perm]

/-- Filing adds and drops no keys. -/
theorem mem_keys_ofEntries :
    key ∈ (ofEntries entries).map Prod.fst ↔ key ∈ entries.map Prod.fst := by
  rw [← not_iff_not, ← find?_eq_none_iff, find?_ofEntries_eq_reverse, find?_eq_none_iff,
    List.map_reverse, List.mem_reverse]

/-- **Filing the entries of a keyed list in any order gives that list.** -/
theorem ofEntries_of_perm (ha : Ascending entries) (hp : more.Perm entries) :
    ofEntries more = entries := by
  refine eq_of_find?_eq (ascending_ofEntries more) ha fun key => ?_
  rw [find?_ofEntries (ha.distinct.perm hp), find?_perm ha.distinct hp]

/-- Entries under different keys may be filed in any order. -/
theorem insert_comm {k k' : String} (h : k ≠ k') (v v' : α) (ha : Ascending entries) :
    insert k v (insert k' v' entries) = insert k' v' (insert k v entries) := by
  refine eq_of_find?_eq (ascending_insert (ascending_insert ha))
    (ascending_insert (ascending_insert ha)) fun key => ?_
  simp only [find?_insert]
  split
  · next hk => rw [if_neg (hk ▸ h)]
  · rfl

end Keyed

namespace Definitions

theorem insert_comm {name other : String} (h : name ≠ other) (d : Definitions)
    (a b : Description) : (d.insert name a).insert other b = (d.insert other b).insert name a :=
  ext (Keyed.insert_comm h.symm b a d.ascending)

theorem get?_ofList {rules : List (String × Description)} {name : String} {d : Description}
    (hd : Keyed.Distinct rules) (h : (name, d) ∈ rules) : (ofList rules).get? name = some d := by
  rw [get?, ofList, Keyed.find?_ofEntries hd, Keyed.find?_eq_some_iff hd]
  exact h

end Definitions

end DataGrammar
