import DataGrammar.Document.OfYaml
import DataGrammar.Proofs.Notation.Slashes
import Mathlib.Data.Option.Basic

/-!
# Texts between slashes in YAML

A scalar that starts with a slash looks like no number and like no other atom. So it is read as
text, in quotes or not, and a rule with such a scalar is described by that text.

* `Yaml.Atom.ofScalar?_of_slash`: what such a scalar stands for.
* `Document.Expand.snd_of_readRule`: the rule it is the value of.
* `Document.Expand.exists_of_ofYaml?`: the rules of a document are read one by one.
-/

namespace DataGrammar

namespace Yaml.Atom

variable {text : String}

/-- The names of atoms do not start with a slash. -/
theorem contains_eq_false (h : text.toList.head? = some '/') {names : List String}
    (hn : names.all (fun name => name.toList.head? ≠ some '/') = true) :
    names.contains text = false := by
  refine Bool.eq_false_iff.2 fun hm => ?_
  have := List.all_eq_true.1 hn text (List.contains_iff_mem.1 hm)
  exact absurd h (of_decide_eq_true this)

theorem boolean?_eq_none (h : text.toList.head? = some '/') : boolean? text = none := by
  rw [boolean?, contains_eq_false h (by decide), contains_eq_false h (by decide)]
  rfl

theorem null?_eq_none (h : text.toList.head? = some '/') : null? text = none := by
  rw [null?, contains_eq_false h (by decide)]
  rfl

theorem splitSign_of_slash {chars : List Char} (h : chars.head? = some '/') :
    Number.splitSign chars = (false, chars) := by
  cases chars with
  | nil => rfl
  | cons c rest =>
    cases h
    rfl

theorem integer?_eq_none (h : text.toList.head? = some '/') : integer? text = none := by
  have hdigits : magnitude? text.toList = none := by
    cases hc : text.toList with
    | nil => rfl
    | cons c rest =>
      rw [hc] at h
      cases h
      have hlead : hasLeadingZero ('/' :: rest) = false := by simp [hasLeadingZero]
      have hslash : hexDigit? '/' = none := by decide
      simp [magnitude?, hlead, digits?, hslash]
  rw [integer?, splitSign_of_slash h]
  dsimp only
  rw [hdigits]
  rfl

theorem float?_eq_none (h : text.toList.head? = some '/') : float? text = none := by
  have hdecimal : Number.decimal? text.toList = none := by
    cases hc : text.toList with
    | nil => rfl
    | cons c rest =>
      rw [hc] at h
      cases h
      rfl
  have hspecial : nameOfSpecial? text = none := by
    rw [nameOfSpecial?, contains_eq_false h (by decide), contains_eq_false h (by decide),
      contains_eq_false h (by decide)]
    rfl
  rw [float?, splitSign_of_slash h]
  dsimp only
  rw [hdecimal, hspecial]
  rfl

theorem ofPlain_of_slash (h : text.toList.head? = some '/') : ofPlain text = .text text := by
  have hne : text ≠ "" := by
    rintro rfl
    cases h
  rw [ofPlain, null?_eq_none h, boolean?_eq_none h, integer?_eq_none h, float?_eq_none h,
    if_neg hne]
  simp

/-- **A scalar that starts with a slash is text**, whatever its tag and its style are, if it can be
read. -/
theorem ofScalar?_of_slash (h : text.toList.head? = some '/') {tag : Option Tag}
    {style : ScalarStyle} {atom : Atom} (ha : ofScalar? tag style text = some atom) :
    atom = .text text := by
  have htext : ∀ p : Prop, [Decidable p] →
      (if p then ofPlain text else .text text) = .text text := by
    intro p _
    rw [ofPlain_of_slash h, ite_self]
  unfold ofScalar? at ha
  cases tag with
  | none =>
    rw [htext] at ha
    exact (Option.some.inj ha).symm
  | some t =>
    -- the tags of other atoms are of no use here
    simp only [boolean?_eq_none h, integer?_eq_none h, float?_eq_none h, null?_eq_none h,
      htext] at ha
    split at ha
    · cases ha
    · iterate 4
        split at ha
        · cases ha
      exact (Option.some.inj ha).symm

end Yaml.Atom

namespace Document

variable {anchored : List (Nat × Yaml.Node)} {depth left left' : Nat}

namespace Expand

theorem bind_eq_some {α β : Type} {step : Expand α} {f : α → Expand β} {b : β}
    (h : (step >>= f) left = some (b, left')) :
    ∃ a middle, step left = some (a, middle) ∧ f a middle = some (b, left') := by
  obtain ⟨⟨a, middle⟩, ha, hb⟩ := Option.bind_eq_some_iff.1 h
  exact ⟨a, middle, ha, hb⟩

theorem lift_eq_some {α : Type} {x : Option α} {a : α}
    (h : (liftM x : Expand α) left = some (a, left')) : x = some a := by
  obtain ⟨b, hb, h⟩ := Option.bind_eq_some_iff.1 h
  cases h
  exact hb

/-- What is read off a list in order is read off its members one by one. -/
theorem forall₂_of_mapM {α β : Type} {f : α → Expand β} {as : List α} {bs : List β}
    (h : as.mapM f left = some (bs, left')) :
    List.Forall₂ (fun a b => ∃ left left', f a left = some (b, left')) as bs := by
  induction as generalizing bs left with
  | nil =>
    cases h
    exact .nil
  | cons a as ih =>
    rw [List.mapM_cons] at h
    obtain ⟨b, middle, hb, h⟩ := bind_eq_some h
    obtain ⟨rest, last, hrest, h⟩ := bind_eq_some h
    cases h
    exact .cons ⟨left, middle, hb⟩ (ih hrest)

/-- A scalar that starts with a slash is read as its text. -/
theorem tree_of_readNode {p : Yaml.Properties} {style : Yaml.ScalarStyle} {text : String}
    (hs : text.toList.head? = some '/') {part : Key × Tree}
    (h : readNode anchored depth (.scalar p style text) left = some (part, left')) :
    part.2 = .text text := by
  unfold readNode at h
  obtain ⟨n, middle, hn, h⟩ := bind_eq_some h
  cases hn
  obtain ⟨atom, last, hatom, h⟩ := bind_eq_some h
  obtain rfl := Yaml.Atom.ofScalar?_of_slash hs (lift_eq_some hatom)
  cases h
  rfl

/-- A rule has the name that its key is, and what describes it is what its value is read as. -/
theorem of_readRule {entry : Yaml.Node × Yaml.Node} {rule : String × Description}
    (h : readRule anchored depth entry left = some (rule, left')) :
    (∀ p style name, entry.1 = .scalar p style name → rule.1 = name) ∧
    ∀ p style text, entry.2 = .scalar p style text → text.toList.head? = some '/' →
      (Tree.text text).describe? = some (.ok rule.2) := by
  obtain ⟨key, value⟩ := entry
  obtain ⟨name, middle, hname, h⟩ := bind_eq_some h
  obtain ⟨⟨tag, t⟩, last, hpart, h⟩ := bind_eq_some h
  have hrule : rule.1 = name ∧ t.describe? = some (.ok rule.2) := by
    cases hd : t.describe? with
    | none =>
      simp only [hd] at h
      cases h
    | some described =>
      simp only [hd] at h
      cases described with
      | error m => cases h
      | ok d =>
        cases h
        exact ⟨rfl, rfl⟩
  constructor
  · rintro p style name rfl
    cases hname
    exact hrule.1
  · rintro p style text rfl hs
    rw [← hrule.2]
    exact congrArg Tree.describe? (tree_of_readNode hs hpart).symm

/-- The rules of a map are read one by one. -/
theorem exists_of_readDefinitions {p : Yaml.Properties} {entries : List (Yaml.Node × Yaml.Node)}
    {d : Definitions} (h : readDefinitions anchored depth (.map p entries) left = some (d, left')) :
    ∃ rules, d = .ofList rules ∧ List.Forall₂ (fun entry rule => ∃ left left',
      readRule anchored (depth - 1) entry left = some (rule, left')) entries rules := by
  obtain ⟨n, middle, hn, h⟩ := bind_eq_some h
  cases hn
  obtain ⟨rules, last, hrules, h⟩ := bind_eq_some h
  cases h
  exact ⟨rules, rfl, forall₂_of_mapM hrules⟩

end Expand

/-- **The rules of a document in YAML are read one by one.** -/
theorem exists_of_ofYaml? {text : String} {d : Definitions} (h : ofYaml? text = some d)
    {p p' : Yaml.Properties} {key : Yaml.Node} {entries : List (Yaml.Node × Yaml.Node)}
    (hroot : Yaml.Node.ofText? text = some (.map p [(key, .map p' entries)])) :
    ∃ anchored depth rules, d = .ofList rules ∧ List.Forall₂ (fun entry rule => ∃ left left',
      Expand.readRule anchored depth entry left = some (rule, left')) entries rules := by
  rw [ofYaml?, hroot] at h
  obtain ⟨⟨d', last⟩, hread, h⟩ := Option.map_eq_some_iff.1 h
  cases h
  obtain ⟨name, middle, -, hread⟩ := Expand.bind_eq_some hread
  obtain ⟨checked, after, -, hread⟩ := Expand.bind_eq_some hread
  obtain ⟨rules, hrules, hforall⟩ := Expand.exists_of_readDefinitions hread
  exact ⟨_, _, rules, hrules, hforall⟩

end Document
end DataGrammar
