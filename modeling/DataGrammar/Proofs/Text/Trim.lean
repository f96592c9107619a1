import DataGrammar.Proofs.Text.Listed
import DataGrammar.Text.Trim
import Mathlib.Data.List.Basic
import Mathlib.Data.List.TakeWhile

/-!
# What trimming leaves

Trimming takes white space off both ends of a text, as much as there is.

* `Padded`: white space around a text.
* `padded_trim`, `trim_of_padded`: trimming undoes it.
-/

namespace DataGrammar

/-- The text is `core` with white space around it. -/
def Padded (text core : List Char) : Prop :=
  ∃ before after, Blank Unicode.space.contains before ∧ Blank Unicode.space.contains after ∧
    text = before ++ core ++ after

/-- Neither end of the text is white space. -/
def Bare (text : List Char) : Prop :=
  (∀ c ∈ text.head?, Unicode.space.contains c = false) ∧
    ∀ c ∈ text.getLast?, Unicode.space.contains c = false

variable {text core blanks : List Char}

theorem exists_trimStart (text : List Char) :
    ∃ blanks, Blank Unicode.space.contains blanks ∧ text = blanks ++ trimStart text :=
  ⟨text.takeWhile Unicode.space.contains, fun _ h => List.mem_takeWhile_imp h,
    List.takeWhile_append_dropWhile.symm⟩

theorem exists_trimEnd (text : List Char) :
    ∃ blanks, Blank Unicode.space.contains blanks ∧ text = trimEnd text ++ blanks := by
  obtain ⟨blanks, hblanks, htext⟩ := exists_trimStart text.reverse
  refine ⟨blanks.reverse, fun c hc => hblanks c (List.mem_reverse.1 hc), ?_⟩
  rw [trimEnd, ← List.reverse_append, ← htext, List.reverse_reverse]

/-- Trimming takes off white space and nothing else. -/
theorem padded_trim (text : String) : Padded text.toList (trim text).toList := by
  obtain ⟨before, hbefore, hstart⟩ := exists_trimStart text.toList
  obtain ⟨after, hafter, hend⟩ := exists_trimEnd (trimStart text.toList)
  refine ⟨before, after, hbefore, hafter, ?_⟩
  rw [trim, String.toList_ofList, List.append_assoc, ← hend, ← hstart]

theorem trimStart_append (hb : Blank Unicode.space.contains blanks)
    (hc : ∀ c ∈ core.head?, Unicode.space.contains c = false) :
    trimStart (blanks ++ core) = core := by
  rw [trimStart, List.dropWhile_append_of_pos hb]
  cases core with
  | nil => rfl
  | cons c core => exact List.dropWhile_cons_of_neg (by simp [hc c rfl])

theorem trimEnd_append (hb : Blank Unicode.space.contains blanks)
    (hc : ∀ c ∈ core.getLast?, Unicode.space.contains c = false) :
    trimEnd (core ++ blanks) = core := by
  rw [trimEnd, List.reverse_append, trimStart_append, List.reverse_reverse]
  · exact fun c h => hb c (List.mem_reverse.1 h)
  · rwa [List.head?_reverse]

/-- **Trimming leaves what does not start or end with white space.** -/
theorem trim_of_padded {text : String} (h : Padded text.toList core) (hc : Bare core)
    (hne : core ≠ []) : trim text = .ofList core := by
  obtain ⟨before, after, hbefore, hafter, htext⟩ := h
  have hhead : ∀ c ∈ (core ++ after).head?, Unicode.space.contains c = false := by
    rw [List.head?_append_of_ne_nil _ hne]
    exact hc.1
  rw [trim, htext, List.append_assoc, trimStart_append hbefore hhead, trimEnd_append hafter hc.2]

end DataGrammar
