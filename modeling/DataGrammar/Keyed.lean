/-!
# Keyed lists

A keyed list files entries under text keys and holds them in strictly ascending key order, so
two keyed lists with the same entries are equal. The order of text is the order of its code
points, which is also the order of its UTF-8 bytes.

* `Keyed.insert` files an entry, replacing the one that had its key.
* `Keyed.find?` looks an entry up.
* `Keyed.ofEntries` files entries one after the other; the last one of each key stays.
* `Keyed.Ascending` says that a list is in order, and every operation here keeps it.
-/

namespace DataGrammar.Keyed

variable {α : Type}

/-- The keys are strictly ascending. -/
def Ascending (entries : List (String × α)) : Prop :=
  entries.Pairwise fun a b => a.1 < b.1

/-- File `value` under `key`; an entry that was there before is replaced. -/
def insert (key : String) (value : α) : List (String × α) → List (String × α)
  | [] => [(key, value)]
  | (k, v) :: rest =>
    if key = k then (key, value) :: rest
    else if key < k then (key, value) :: (k, v) :: rest
    else (k, v) :: insert key value rest

/-- The entry under `key`. -/
def find? (key : String) : List (String × α) → Option α
  | [] => none
  | (k, v) :: rest => if key = k then some v else find? key rest

/-- File entries one after the other. -/
def ofEntries (entries : List (String × α)) : List (String × α) :=
  entries.foldl (fun filed e => insert e.1 e.2 filed) []

@[simp] theorem insert_nil (key : String) (value : α) : insert key value [] = [(key, value)] := rfl

@[simp] theorem find?_nil (key : String) : find? key ([] : List (String × α)) = none := rfl

@[simp] theorem find?_cons (key k : String) (v : α) (rest : List (String × α)) :
    find? key ((k, v) :: rest) = if key = k then some v else find? key rest := rfl

/-- A key of the list after `insert` is the new key or an old one. -/
theorem key_of_mem_insert {key : String} {value : α} {entries : List (String × α)}
    {e : String × α} (h : e ∈ insert key value entries) : e.1 = key ∨ e ∈ entries := by
  induction entries with
  | nil => simp_all
  | cons head rest ih =>
    obtain ⟨k, v⟩ := head
    simp only [insert] at h
    split at h
    · rcases List.mem_cons.1 h with rfl | h
      · exact .inl rfl
      · exact .inr (List.mem_cons_of_mem _ h)
    · split at h
      · rcases List.mem_cons.1 h with rfl | h
        · exact .inl rfl
        · exact .inr h
      · rcases List.mem_cons.1 h with rfl | h
        · exact .inr (List.mem_cons_self ..)
        · exact (ih h).imp_right (List.mem_cons_of_mem _)

theorem ascending_insert {key : String} {value : α} {entries : List (String × α)}
    (h : Ascending entries) : Ascending (insert key value entries) := by
  induction entries with
  | nil => exact List.pairwise_singleton _ _
  | cons head rest ih =>
    obtain ⟨k, v⟩ := head
    obtain ⟨hk, hr⟩ := List.pairwise_cons.1 h
    simp only [insert]
    split
    · next he => exact List.pairwise_cons.2 ⟨fun e m => he ▸ hk e m, hr⟩
    · next he =>
      split
      · next hl =>
        refine List.pairwise_cons.2 ⟨fun e m => ?_, h⟩
        rcases List.mem_cons.1 m with rfl | m
        · exact hl
        · exact String.lt_trans hl (hk e m)
      · next hl =>
        refine List.pairwise_cons.2 ⟨fun e m => ?_, ih hr⟩
        rcases key_of_mem_insert m with rfl | m
        · rcases String.le_total e.1 k with hle | hle
          · exact absurd (String.le_antisymm hle (String.not_lt.1 hl)) he
          · refine Decidable.byContradiction fun hn => he ?_
            exact String.le_antisymm (String.not_lt.1 hn) hle
        · exact hk e m

theorem ascending_ofEntries (entries : List (String × α)) : Ascending (ofEntries entries) := by
  suffices h : ∀ filed : List (String × α), Ascending filed →
      Ascending (entries.foldl (fun filed e => insert e.1 e.2 filed) filed) from
    h [] List.Pairwise.nil
  induction entries with
  | nil => exact fun _ h => h
  | cons e rest ih => exact fun _ h => ih _ (ascending_insert h)

theorem find?_insert (key k : String) (value : α) (entries : List (String × α)) :
    find? k (insert key value entries) = if k = key then some value else find? k entries := by
  induction entries with
  | nil => rfl
  | cons head rest ih =>
    obtain ⟨k', v'⟩ := head
    simp only [insert]
    split
    · next he => subst he; simp only [find?_cons]; split <;> rfl
    · next he =>
      split
      · rfl
      · simp only [find?_cons, ih]
        split
        · next h => rw [if_neg (fun h' => he (h'.symm.trans h))]
        · rfl

end DataGrammar.Keyed
