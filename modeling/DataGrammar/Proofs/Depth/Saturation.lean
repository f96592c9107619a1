import DataGrammar.Proofs.Depth.Limit
import Mathlib.Data.Fintype.Card
import Mathlib.Data.Fintype.Prod
import Mathlib.Order.Monotone.Basic

/-!
# Where the limit saturates

For one text, what a reference does is settled by its rule and the offset at which it stands.
With more references left, more of these pairs come to an end (`Parser.settled`), and none of
them changes its attempt. If one more reference settles no further pair, then no number of
references does, so that the limit has no effect from `Parser.saturation` on: the number of the
pairs (`Parser.agree_call_saturation`).
-/

namespace DataGrammar

/-- Both sides do the same. -/
def Lockstep.same : Lockstep Option Option where
  Holds P x y := x = y ∧ ∀ a, x = some a → P a
  holds_pure := by
    rintro α P a h
    exact ⟨rfl, by rintro _ ⟨⟩; exact h⟩
  holds_bind := by
    rintro α β P Q x _ f g ⟨rfl, hP⟩ hf
    cases x with
    | none => exact ⟨rfl, nofun⟩
    | some a => exact hf a (hP a rfl)

namespace Parser

variable {text : String}

theorem agree_same_succ {p : Parser} {d d' : Nat}
    (h : ∀ rule, Step.Agree .same text (p.call d rule) (p.call d' rule)) (rule : Fin p.size) :
    Step.Agree .same text (p.call (d + 1) rule) (p.call (d' + 1) rule) :=
  Node.agree_step_of_call h (p.node rule)

open Classical in
/-- The rules and offsets at which a reference comes to an end with `d` more references left. -/
noncomputable def settled (p : Parser) (text : String) (d : Nat) :
    Finset (Fin p.size × Fin (text.utf8ByteSize + 1)) :=
  Finset.univ.filter fun v => ∃ c, Cursor.At text c ∧ c.offset = v.2 ∧ (p.call d v.1 c).isSome

theorem mem_settled {p : Parser} {d : Nat} {v : Fin p.size × Fin (text.utf8ByteSize + 1)} :
    v ∈ p.settled text d ↔
      ∃ c, Cursor.At text c ∧ c.offset = v.2 ∧ (p.call d v.1 c).isSome := by
  simp [settled]

theorem settled_mono (p : Parser) (text : String) : Monotone (p.settled text) := by
  intro d d' h v hv
  obtain ⟨c, hc, ho, hs⟩ := mem_settled.1 hv
  obtain ⟨a, ha⟩ := Option.isSome_iff_exists.1 hs
  have ha' := (p.agree_call_mono h v.1 c hc a ha).1
  exact mem_settled.2 ⟨c, hc, ho, Option.isSome_iff_exists.2 ⟨a, ha'⟩⟩

/-- References that come to an end at the same places do the same there. -/
theorem agree_same_of_settled_eq {p : Parser} {d d' : Nat} (hd : d ≤ d')
    (h : p.settled text d = p.settled text d') (rule : Fin p.size) :
    Step.Agree .same text (p.call d rule) (p.call d' rule) := by
  intro c hc
  have hmono := p.agree_call_mono hd rule c hc
  cases ha : p.call d rule c with
  | some a =>
    obtain ⟨ha', hr⟩ := hmono a ha
    exact ⟨ha'.symm, by rintro _ ⟨⟩; exact hr⟩
  | none =>
    refine ⟨?_, nofun⟩
    by_contra hne
    obtain ⟨a, ha'⟩ := Option.ne_none_iff_exists'.1 (Ne.symm hne)
    have hlt : c.offset < text.utf8ByteSize + 1 := Nat.lt_succ_of_le hc.offset_le
    have hv : (rule, ⟨c.offset, hlt⟩) ∈ p.settled text d' :=
      mem_settled.2 ⟨c, hc, rfl, Option.isSome_iff_exists.2 ⟨a, ha'⟩⟩
    obtain ⟨c', hc', ho, hs⟩ := mem_settled.1 (h ▸ hv)
    rw [hc'.eq_of_offset_eq hc ho] at hs
    simp [ha] at hs

theorem settled_eq_of_agree {p : Parser} {d d' : Nat}
    (h : ∀ rule, Step.Agree .same text (p.call d rule) (p.call d' rule)) :
    p.settled text d = p.settled text d' := by
  ext v
  rw [mem_settled, mem_settled]
  constructor
  · rintro ⟨c, hc, ho, hs⟩
    exact ⟨c, hc, ho, by rwa [← (h v.1 c hc).1]⟩
  · rintro ⟨c, hc, ho, hs⟩
    exact ⟨c, hc, ho, by rwa [(h v.1 c hc).1]⟩

/-- The number of pairs of a rule and an offset. -/
def saturation (p : Parser) (input : String) : Nat := p.size * (input.utf8ByteSize + 1)

theorem card_settled_le (p : Parser) (text : String) (d : Nat) :
    (p.settled text d).card ≤ p.saturation text := by
  have h := Finset.card_le_univ (p.settled text d)
  rwa [Fintype.card_prod, Fintype.card_fin, Fintype.card_fin] at h

/-- **From `saturation` on, the number of references left has no effect.** -/
theorem agree_call_saturation (p : Parser) {d : Nat} (h : p.saturation text ≤ d)
    (rule : Fin p.size) :
    Step.Agree .same text (p.call (p.saturation text) rule) (p.call d rule) := by
  have hmono : Monotone fun d => (p.settled text d).card :=
    fun _ _ h => Finset.card_le_card (p.settled_mono text h)
  have heq : ∀ {d d'}, d ≤ d' → (p.settled text d).card = (p.settled text d').card →
      p.settled text d = p.settled text d' := fun hd hc =>
    Finset.eq_of_subset_of_card_le (p.settled_mono text hd) hc.ge
  -- once a further reference settles nothing, the next one does not either
  have hstab : ∀ m, (p.settled text m).card = (p.settled text (m + 1)).card →
      (p.settled text (m + 1)).card = (p.settled text (m + 2)).card := by
    intro m hm
    have hagree := agree_same_of_settled_eq m.le_succ (heq m.le_succ hm)
    rw [settled_eq_of_agree fun r => agree_same_succ hagree r]
  have hcard := Nat.stabilises_of_monotone hmono (p.card_settled_le text) hstab h
  exact agree_same_of_settled_eq h (heq h hcard.symm) rule

/-- A run with any limit from `saturation` on is the run with `saturation`. -/
theorem step_saturation (p : Parser) {d : Nat} {c : Cursor} (hc : c.At text)
    (h : p.saturation text ≤ d) (node : Node p.size) :
    node.step Node.matchTerminal (p.call (p.saturation text)) c =
      node.step Node.matchTerminal (p.call d) c :=
  (Node.agree_step_of_call (p.agree_call_saturation h) node c hc).1

end Parser
end DataGrammar
