/-!
# Lists in text

The forms that formats of data have in common: blanks, and entries with commas between them. What
an entry looks like is a predicate on texts, so a list of entries is described by a list of
predicates.

* `Blank`: nothing but blanks.
* `Listed`: entries with commas between them, and blanks around the commas.
* `Bracketed`: a list between brackets.
* `Listed.mono`, `Bracketed.mono`: formats that allow more.
-/

namespace DataGrammar

/-- A text of blanks. -/
def Blank (isBlank : Char → Bool) (text : List Char) : Prop := ∀ c ∈ text, isBlank c = true

instance {isBlank : Char → Bool} {text : List Char} : Decidable (Blank isBlank text) :=
  List.decidableBAll _ _

theorem blank_nil {isBlank : Char → Bool} : Blank isBlank [] := nofun

/-- Entries with a comma between any two of them, and blanks around the commas and at the end. A
comma after the last entry must be allowed by `trailing`. -/
inductive Listed (isBlank : Char → Bool) (trailing : Bool) :
    List (List Char → Prop) → List Char → Prop
  | nil : Listed isBlank trailing [] []
  | last {entry : List Char → Prop} {text blanks : List Char} (h : entry text)
    (hb : Blank isBlank blanks) : Listed isBlank trailing [entry] (text ++ blanks)
  | trailing {entry : List Char → Prop} {text blanks blanks' : List Char} (h : entry text)
    (ht : trailing = true) (hb : Blank isBlank blanks) (hb' : Blank isBlank blanks') :
    Listed isBlank trailing [entry] (text ++ (blanks ++ ',' :: blanks'))
  | cons {entry next : List Char → Prop} {entries : List (List Char → Prop)}
    {text blanks blanks' more : List Char} (h : entry text) (hb : Blank isBlank blanks)
    (hb' : Blank isBlank blanks') (hm : Listed isBlank trailing (next :: entries) more) :
    Listed isBlank trailing (entry :: next :: entries) (text ++ (blanks ++ ',' :: blanks') ++ more)

/-- A list between brackets, with blanks after the opening one. -/
def Bracketed (isBlank : Char → Bool) (trailing : Bool) (opening closing : Char)
    (entries : List (List Char → Prop)) (text : List Char) : Prop :=
  ∃ blanks list, Blank isBlank blanks ∧ Listed isBlank trailing entries list ∧
    text = opening :: blanks ++ list ++ [closing]

/-- What is a list stays one where more blanks and a last comma are allowed. -/
theorem Listed.mono {isBlank isBlank' : Char → Bool} (hb : ∀ c, isBlank c = true → isBlank' c = true)
    {entries : List (List Char → Prop)} {text : List Char} (h : Listed isBlank false entries text) :
    Listed isBlank' true entries text := by
  have hblank : ∀ {blanks : List Char}, Blank isBlank blanks → Blank isBlank' blanks :=
    fun h c hc => hb c (h c hc)
  induction h with
  | nil => exact .nil
  | last h hb => exact .last h (hblank hb)
  | trailing h ht => cases ht
  | cons h hb hb' _ ih => exact .cons h (hblank hb) (hblank hb') ih

theorem Bracketed.mono {isBlank isBlank' : Char → Bool}
    (hb : ∀ c, isBlank c = true → isBlank' c = true) {opening closing : Char}
    {entries : List (List Char → Prop)} {text : List Char}
    (h : Bracketed isBlank false opening closing entries text) :
    Bracketed isBlank' true opening closing entries text := by
  obtain ⟨blanks, list, hblanks, hlist, rfl⟩ := h
  exact ⟨blanks, list, fun c hc => hb c (hblanks c hc), hlist.mono hb, rfl⟩

/-- A name and what it stands for, with blanks around the colon between them. -/
def Paired (isBlank : Char → Bool) (name value : List Char → Prop) (text : List Char) : Prop :=
  ∃ key blanks blanks' body, name key ∧ Blank isBlank blanks ∧ Blank isBlank blanks' ∧
    value body ∧ text = key ++ (blanks ++ ':' :: blanks') ++ body

section

variable {isBlank : Char → Bool} {trailing : Bool} {entry entry' : List Char → Prop}
  {opening closing : Char} {text text' : List Char}

/-- A list of one entry, without blanks. -/
theorem Bracketed.singleton (h : entry text) :
    Bracketed isBlank trailing opening closing [entry] (opening :: text ++ [closing]) :=
  ⟨[], text ++ [], blank_nil, .last h blank_nil, by simp⟩

/-- A list of two entries, without blanks. -/
theorem Bracketed.pair (h : entry text) (h' : entry' text') :
    Bracketed isBlank trailing opening closing [entry, entry']
      (opening :: (text ++ ',' :: text') ++ [closing]) :=
  ⟨[], text ++ ([] ++ ',' :: []) ++ (text' ++ []), blank_nil,
    .cons h blank_nil blank_nil (.last h' blank_nil), by simp⟩

/-- A name and what it stands for, without blanks. -/
theorem Paired.intro {name value : List Char → Prop} (hname : name text) (hvalue : value text') :
    Paired isBlank name value (text ++ ':' :: text') :=
  ⟨text, [], [], text', hname, blank_nil, blank_nil, hvalue, by simp⟩

end

end DataGrammar
