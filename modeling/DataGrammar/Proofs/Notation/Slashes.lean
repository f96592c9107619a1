import DataGrammar.Proofs.Notation.Rules

/-!
# What is between slashes

A pattern between slashes consists of pieces: a backslash with the character after it, or a single
other character. A slash in the pattern is written as a pair, so a pair of a backslash and a slash
is read as a slash, and every other piece as it is. The reader of patterns does not look for pieces:
it replaces a backslash with a slash after it wherever it finds them. That is the same, unless a
backslash that ends a pair stands before a single slash.

* `pieces`, `reading`: the pieces of a text, and what they are read as.
* `loaded`, `unslash_eq_loaded`: what the reader of patterns makes of pieces.
* `loaded_eq_iff`: where this is the same.
* `units_of_run`: in the notation it always is, since a slash ends a regular expression there.
-/

namespace DataGrammar

/-- A piece of a pattern between slashes. -/
inductive Piece where
  /-- A single character; of backslashes only one at the very end. -/
  | single (c : Char)
  /-- A backslash and the character after it. -/
  | pair (c : Char)
  deriving DecidableEq, Repr

namespace Piece

/-- The characters of a piece. -/
def chars : Piece → List Char
  | .single c => [c]
  | .pair c => ['\\', c]

/-- What a piece is read as: an escaped slash is a slash, and everything else is as it is. -/
def unslashed (piece : Piece) : List Char :=
  if piece = .pair '/' then ['/'] else piece.chars

end Piece

/-- The pieces of a text, from the left. -/
def pieces : List Char → List Piece
  | [] => []
  | ['\\'] => [.single '\\']
  | '\\' :: c :: rest => .pair c :: pieces rest
  | c :: rest => .single c :: pieces rest

/-- What the pieces of a text are read as. -/
def reading (text : List Char) : List Char := (pieces text).flatMap Piece.unslashed

/-- What the reader of patterns makes of pieces: a pair of backslashes loses one of them if a single
slash comes next. -/
def loaded : List Piece → List Char
  | [] => []
  | .pair '\\' :: .single '/' :: rest => '\\' :: '/' :: loaded rest
  | piece :: rest => piece.unslashed ++ loaded rest

/-- Somewhere a pair of backslashes stands before a single slash. -/
def IsClash (pieces : List Piece) : Prop := [.pair '\\', .single '/'] <:+: pieces

/-- The pieces of a text make it up. -/
theorem flatMap_chars_pieces (text : List Char) : (pieces text).flatMap Piece.chars = text := by
  fun_induction pieces text with
  | case1 => rfl
  | case2 => rfl
  | case3 c rest ih => simp [Piece.chars, ih]
  | case4 c rest _ _ ih => simp [Piece.chars, ih]

theorem pieces_cons {c : Char} (h : c ≠ '\\') (rest : List Char) :
    pieces (c :: rest) = .single c :: pieces rest := by
  conv_lhs => unfold pieces
  split <;> simp_all

theorem loaded_cons {piece : Piece} {rest : List Piece}
    (h : piece = .pair '\\' → rest.head? ≠ some (.single '/')) :
    loaded (piece :: rest) = piece.unslashed ++ loaded rest := by
  conv_lhs => unfold loaded
  split <;> simp_all

theorem head?_pieces {text : List Char} (h : text.head? ≠ some '/') :
    (pieces text).head? ≠ some (.single '/') := by
  unfold pieces
  split <;> simp_all

open Description (unslash)

/-- **What the reader of patterns makes of a text.** -/
theorem unslash_eq_loaded (text : List Char) : unslash text = loaded (pieces text) := by
  fun_induction pieces text with
  | case1 => rfl
  | case2 => rfl
  | case3 c rest ih =>
    by_cases hs : c = '/'
    · subst hs
      rw [loaded_cons (by simp), ← ih]
      rfl
    · rw [Notation.unslash_plain (by simpa using hs)]
      by_cases hb : c = '\\'
      · subst hb
        cases rest with
        | nil => rfl
        | cons d rest =>
          by_cases hd : d = '/'
          · -- the slash goes with the backslash before it, which is not its own
            subst hd
            rw [pieces_cons (by decide)] at ih ⊢
            rw [Notation.unslash_plain (by simp), loaded_cons (by simp)] at ih
            have hrest : unslash rest = loaded (pieces rest) := (List.cons.inj ih).2
            show '\\' :: '/' :: unslash rest = '\\' :: '/' :: loaded (pieces rest)
            rw [hrest]
          · rw [Notation.unslash_plain (by simpa using hd), ih,
              loaded_cons fun _ => head?_pieces (by simpa using hd)]
            rfl
      · rw [Notation.unslash_plain (fun h => absurd h hb), ih,
          loaded_cons fun h => absurd (Piece.pair.inj h) hb]
        simp [Piece.unslashed, Piece.chars, hs]
  | case4 c rest hnil hcons ih =>
    have hb : c ≠ '\\' := by
      rintro rfl
      cases rest with
      | nil => exact hnil rfl rfl
      | cons d rest => exact hcons d rest rfl rfl
    rw [Notation.unslash_plain (fun h => absurd h hb), ih, loaded_cons (by simp)]
    rfl

/-- A clash is read as three characters. -/
theorem flatMap_clash (rest : List Piece) :
    (.pair '\\' :: .single '/' :: rest).flatMap Piece.unslashed =
      '\\' :: '\\' :: '/' :: rest.flatMap Piece.unslashed := rfl

theorem length_loaded_le (pieces : List Piece) :
    (loaded pieces).length ≤ (pieces.flatMap Piece.unslashed).length := by
  fun_induction loaded pieces with
  | case1 => exact Nat.le_refl 0
  | case2 rest ih =>
    rw [flatMap_clash]
    simp only [List.length_cons]
    omega
  | case3 piece rest _ ih =>
    rw [List.flatMap_cons, List.length_append, List.length_append]
    omega

/-- **Where pieces are read as they should be**: a clash makes the pattern shorter. -/
theorem loaded_eq_iff (pieces : List Piece) :
    loaded pieces = pieces.flatMap Piece.unslashed ↔ ¬ IsClash pieces := by
  unfold IsClash
  fun_induction loaded pieces with
  | case1 => simp
  | case2 rest ih =>
    have hle := length_loaded_le rest
    have hclash : [Piece.pair '\\', .single '/'] <:+: .pair '\\' :: .single '/' :: rest :=
      ⟨[], rest, rfl⟩
    refine iff_of_false (fun heq => ?_) (not_not.2 hclash)
    have hlength := congrArg List.length heq
    rw [flatMap_clash] at hlength
    simp only [List.length_cons] at hlength
    omega
  | case3 piece rest hne ih =>
    rw [List.flatMap_cons, List.append_cancel_left_eq, ih, List.infix_cons_iff, not_or]
    refine (and_iff_right ?_).symm
    rintro ⟨more, hmore⟩
    rw [List.cons_append] at hmore
    obtain ⟨hpiece, hrest⟩ := List.cons.inj hmore
    exact hne more hpiece.symm hrest.symm

namespace Notation

/-! ### Regular expressions of the notation -/

namespace Literal

mutual

/-- The regular expressions in a literal, as they stand between their slashes. -/
def regexes : Literal → List String
  | .regex body => [body]
  | .object properties => propertiesRegexes properties
  | .array items => itemsRegexes items
  | _ => []

/-- The regular expressions in items. -/
def itemsRegexes : List Literal → List String
  | [] => []
  | literal :: rest => literal.regexes ++ itemsRegexes rest

/-- The regular expressions in the values of properties. -/
def propertiesRegexes : List (String × Literal) → List String
  | [] => []
  | (_, literal) :: rest => literal.regexes ++ propertiesRegexes rest

end

theorem mem_propertiesRegexes {properties : List (String × Literal)} {body : String} :
    body ∈ propertiesRegexes properties ↔ ∃ p ∈ properties, body ∈ p.2.regexes := by
  induction properties with
  | nil => simp [propertiesRegexes]
  | cons p properties ih => simp [propertiesRegexes, ih]

end Literal

/-- All regular expressions in the literal of a tree are rows of units. -/
def HasUnits (v : Value) : Prop :=
  ∀ literal : Literal, literal.IsValue v → ∀ body ∈ literal.regexes, Units '/' body.toList

theorem HasUnits.properties {properties : List (String × Value)}
    (h : ∀ p ∈ properties, HasUnits p.2) {literals : List (String × Literal)}
    (hl : Literal.properties? (properties.map entry) = some literals) :
    ∀ body ∈ Literal.propertiesRegexes literals, Units '/' body.toList := by
  have hspells := forall₂_of_properties? hl
  clear hl
  induction hspells with
  | nil => exact List.forall_mem_nil _
  | @cons p rule properties literals hp _ ih =>
    obtain ⟨hvalue, hvalues⟩ := List.forall_mem_cons.1 h
    intro body hbody
    rw [Literal.propertiesRegexes] at hbody
    rcases List.mem_append.1 hbody with hbody | hbody
    · exact hvalue rule.2 hp.2 body hbody
    · exact ih hvalues body hbody

theorem HasUnits.items {items : List Value} (h : ∀ v ∈ items, HasUnits v) {literals : List Literal}
    (hl : Literal.items? items = some literals) :
    ∀ body ∈ Literal.itemsRegexes literals, Units '/' body.toList := by
  induction literals generalizing items with
  | nil => exact List.forall_mem_nil _
  | cons literal literals ih =>
    obtain ⟨v, rest, rfl, hv, hrest⟩ := Regardless.tree_of_items?_cons hl
    obtain ⟨hvalue, hvalues⟩ := List.forall_mem_cons.1 h
    intro body hbody
    rw [Literal.itemsRegexes] at hbody
    rcases List.mem_append.1 hbody with hbody | hbody
    · exact hvalue literal hv body hbody
    · exact ih hvalues hrest body hbody

theorem hereditary_hasUnits : Hereditary HasUnits where
  leaf name hname hne raw literal hv := by
    simp only [leafKinds, List.mem_cons, List.not_mem_nil, or_false] at hname
    obtain rfl | rfl | rfl | rfl | rfl | rfl := hname
    · cases hv
      exact List.forall_mem_nil _
    · exact absurd rfl hne
    all_goals
      cases hv
      exact List.forall_mem_nil _
  regex text htext literal hv body hbody := by
    cases hv
    obtain rfl : body = .ofList text := List.mem_singleton.1 hbody
    rwa [String.toList_ofList]
  object properties h literal hv := by
    obtain ⟨literals, hliterals, rfl⟩ := Option.map_eq_some_iff.1
      (show (Literal.properties? (properties.map entry)).map Literal.object = some literal from hv)
    exact HasUnits.properties h hliterals
  array items h literal hv := by
    obtain ⟨literals, hliterals, rfl⟩ := Option.map_eq_some_iff.1
      (show (Literal.items? items).map Literal.array = some literal from hv)
    exact HasUnits.items h hliterals

/-- **A regular expression that a run finds is a row of units**, however deep it stands. -/
theorem units_of_run {p : Parser} (hp : parser = .ok p) {text : String} {o : Outcome}
    (h : p.run "document" text = .ok o) (hs : o.success = true)
    {root : List (String × Literal)} (hr : o.result.list?.bind Literal.properties? = some root) :
    ∀ body ∈ Literal.propertiesRegexes root, Units '/' body.toList := by
  obtain ⟨properties, hresult, hproperties⟩ := objectOf_of_run hereditary_hasUnits hp h hs
  rw [hresult] at hr
  exact HasUnits.properties hproperties hr

/-- The regular expressions that describe the rules of a text are among those that a run finds. -/
theorem units_of_rules {p : Parser} (hp : parser = .ok p) {text : String} {o : Outcome}
    (h : p.run "document" text = .ok o) (hs : o.success = true)
    {rules : List (String × Literal)} (hr : Notation.rules o.result = .ok rules)
    {name body : String} (hm : (name, .regex body) ∈ rules) : Units '/' body.toList := by
  unfold Notation.rules at hr
  split at hr
  · cases hr
  · next root hroot =>
    split at hr
    · cases hr
    · next key rules' hfind =>
      cases hr
      refine units_of_run hp h hs hroot body ?_
      have hmem := List.mem_of_find?_eq_some hfind
      refine Literal.mem_propertiesRegexes.2 ⟨_, hmem, ?_⟩
      exact Literal.mem_propertiesRegexes.2 ⟨_, hm, List.mem_singleton.2 rfl⟩
    · cases hr

/-- A slash is not a unit, so a row of units has no clash. -/
theorem Units.not_isClash {body : List Char} (h : Units '/' body) : ¬ IsClash (pieces body) := by
  have hslash : .single '/' ∉ pieces body := by
    induction h with
    | nil => exact List.not_mem_nil
    | @plain c body hc hb _ ih =>
      rw [pieces_cons hb]
      exact List.not_mem_cons_of_ne_of_not_mem (fun h => hc (Piece.single.inj h).symm) ih
    | pair _ _ ih => exact List.not_mem_cons_of_ne_of_not_mem nofun ih
  intro hclash
  exact hslash (hclash.subset (by simp))

/-- **A row of units is read piece by piece.** -/
theorem slashed_of_units {body : String} (h : Units '/' body.toList) :
    Description.slashed body = .pattern (.ofList (reading body.toList)) := by
  rw [Description.slashed, unslash_eq_loaded, (loaded_eq_iff _).2 h.not_isClash, reading]

end Notation
end DataGrammar
