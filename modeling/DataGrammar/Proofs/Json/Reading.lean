import DataGrammar.Proofs.Json.Token

/-!
# Reading the texts of JSON values

The reader of JSON reads every text of a value as that value, as long as arrays and objects do not
nest too deep. Lists are read by loops that differ in what they ask for and in what an entry is, so
what a loop makes of a list is shown for all of them at once.

* `Asks`, `EntryReads`, `Loops`: a step that looks for another entry, a step that reads one, and a
  loop made of the two.
* `yields_loop`: a loop reads the entries of a list up to the closing bracket.
* `readsAs_readValue`: the texts of values are read.
-/

namespace DataGrammar.Json

open Read

variable {text rest blanks : List Char}

/-! ### Lists -/

/-- The text starts with a character of a kind. -/
def StartsWith (lead : Char → Prop) (text : List Char) : Prop := ∃ c cs, text = c :: cs ∧ lead c

theorem StartsWith.append {lead : Char → Prop} (h : StartsWith lead text) (rest : List Char) :
    StartsWith lead (text ++ rest) := by
  obtain ⟨c, cs, rfl, hc⟩ := h
  exact ⟨c, cs ++ rest, rfl, hc⟩

theorem EndsNumber.blank (hb : Blank isBlank blanks) (hr : EndsNumber rest) :
    EndsNumber (blanks ++ rest) := by
  cases blanks with
  | nil => exact hr
  | cons c blanks =>
    rintro _ ⟨⟩
    have hc := hb c (List.mem_cons_self ..)
    simp only [isBlank, Bool.or_eq_true, beq_iff_eq] at hc
    obtain ((rfl | rfl) | rfl) | rfl := hc
    all_goals decide

section Loop

variable {ε α : Type} {another : Bool → StateT Cursor (Except ε) Bool}
  {entry : StateT Cursor (Except ε) α} {loop : Nat → Bool → StateT Cursor (Except ε) (List α)}
  {closing : Char} {lead : Char → Prop} {entries : List (List Char → Prop)}
  {as : List (Option α)} {list : List Char} {fuel : Nat}

/-- The step looks for another entry. It finds the closing bracket, or what an entry starts with,
before which there is a comma unless it is the first one. -/
structure Asks (another : Bool → StateT Cursor (Except ε) Bool) (closing : Char)
    (lead : Char → Prop) : Prop where
  closed : ∀ {first blanks rest}, Blank isBlank blanks →
    Yields (another first) blanks (closing :: rest) (some false)
  start : ∀ {blanks rest}, Blank isBlank blanks → StartsWith lead rest →
    Yields (another true) blanks rest (some true)
  next : ∀ {blanks blanks' rest}, Blank isBlank blanks → Blank isBlank blanks' →
    StartsWith lead rest → Yields (another false) (blanks ++ ',' :: blanks') rest (some true)
  ends : ∀ rest, EndsNumber (closing :: rest)

/-- The step reads a kind of texts, or stops with an error at any of them. -/
def EntryReads (lead : Char → Prop) (entry : StateT Cursor (Except ε) α)
    (written : List Char → Prop) (a? : Option α) : Prop :=
  ∀ text, written text →
    StartsWith lead text ∧ ∀ rest, EndsNumber rest → Yields entry text rest a?

/-- The step asks for an entry, reads it and goes on. -/
def Loops (another : Bool → StateT Cursor (Except ε) Bool) (entry : StateT Cursor (Except ε) α)
    (loop : Nat → Bool → StateT Cursor (Except ε) (List α)) : Prop :=
  ∀ fuel first, loop (fuel + 1) first = do
    if ← another first then
      let a ← entry
      return a :: (← loop fuel false)
    else return []

theorem mapM_id_cons (a? : Option α) (as : List (Option α)) :
    (a? :: as).mapM id = a?.bind fun a => (as.mapM id).map (a :: ·) := by
  rw [List.mapM_cons]
  simp only [Option.map_eq_bind]
  rfl

theorem mapM_id_some (as : List α) : (as.map some).mapM id = some as := by
  induction as with
  | nil => rfl
  | cons a as ih => rw [List.map_cons, mapM_id_cons, ih]; rfl

theorem yields_loop_closed (hasks : Asks another closing lead) (hloops : Loops another entry loop)
    (hb : Blank isBlank blanks) (hf : 0 < fuel) (first : Bool) :
    Yields (loop fuel first) blanks (closing :: rest) (some []) := by
  obtain ⟨fuel, rfl⟩ := Nat.exists_eq_succ_of_ne_zero (Nat.ne_zero_of_lt hf)
  rw [Nat.succ_eq_add_one, hloops]
  exact Yields.last (hasks.closed hb) (Yields.pure [])

/-- **Entries are read one after the other**, in front of the closing bracket. What comes before
the first one is what makes the step look for it. -/
theorem yields_loop_listed (hasks : Asks another closing lead) (hloops : Loops another entry loop)
    (hl : Listed isBlank false entries list) (h : List.Forall₂ (EntryReads lead entry) entries as)
    (hne : entries ≠ []) {first : Bool} {before : List Char}
    (hbefore : ∀ rest, StartsWith lead rest → Yields (another first) before rest (some true))
    (hf : list.length < fuel) :
    Yields (loop fuel first) (before ++ list) (closing :: rest) (as.mapM id) := by
  -- What stands before an entry changes from blanks to a comma with blanks around it, so the
  -- induction is for anything behind which an entry is asked for.
  induction hl generalizing as fuel first before with
  | nil => exact absurd rfl hne
  | trailing _ ht => cases ht
  | @last written text blanks hw hb =>
    obtain ⟨fuel, rfl⟩ := Nat.exists_eq_succ_of_ne_zero (Nat.ne_zero_of_lt hf)
    obtain ⟨a?, rfl⟩ : ∃ a?, as = [a?] := by
      cases h with
      | cons _ h => cases h; exact ⟨_, rfl⟩
    obtain ⟨hstart, hread⟩ := (List.forall₂_cons.1 h).1 text hw
    have hpos : 0 < fuel := by
      obtain ⟨c, cs, rfl, -⟩ := hstart
      simp only [List.length_append, List.length_cons] at hf
      omega
    rw [Nat.succ_eq_add_one, hloops, mapM_id_cons]
    refine Yields.andThen (hbefore _ ((hstart.append _).append _)) ?_
    rw [if_pos rfl]
    refine Yields.bind (hread _ (.blank hb (hasks.ends rest))) fun a _ => ?_
    exact Yields.map (yields_loop_closed hasks hloops hb hpos false) (a :: ·)
  | @cons written next entries text blanks blanks' more hw hb hb' hm ih =>
    obtain ⟨fuel, rfl⟩ := Nat.exists_eq_succ_of_ne_zero (Nat.ne_zero_of_lt hf)
    obtain ⟨a?, as, rfl⟩ : ∃ a? more, as = a? :: more := by
      cases h
      exact ⟨_, _, rfl⟩
    obtain ⟨hentry, hentries⟩ := List.forall₂_cons.1 h
    obtain ⟨hstart, hread⟩ := hentry text hw
    have hless : more.length < fuel := by
      simp only [List.length_append, List.length_cons] at hf
      omega
    have hcomma : EndsNumber (blanks ++ ',' :: blanks' ++ more ++ closing :: rest) := by
      simp only [List.append_assoc]
      refine .blank hb ?_
      rintro _ ⟨⟩
      decide
    rw [Nat.succ_eq_add_one, hloops, mapM_id_cons, List.append_assoc text]
    refine Yields.andThen (hbefore _ ((hstart.append _).append _)) ?_
    rw [if_pos rfl]
    refine Yields.bind (hread _ hcomma) fun a _ => ?_
    have hmore := ih hentries nofun
      (fun rest hr => hasks.next hb hb' hr) hless
    exact Yields.map hmore (a :: ·)

/-- **A list is read** up to the closing bracket. -/
theorem yields_loop (hasks : Asks another closing lead) (hloops : Loops another entry loop)
    (hl : Listed isBlank false entries list) (h : List.Forall₂ (EntryReads lead entry) entries as)
    (hb : Blank isBlank blanks) (hf : list.length < fuel) :
    Yields (loop fuel true) (blanks ++ list) (closing :: rest) (as.mapM id) := by
  cases entries with
  | nil =>
    cases hl
    cases h
    rw [List.append_nil]
    exact yields_loop_closed hasks hloops hb hf true
  | cons written entries =>
    exact yields_loop_listed hasks hloops hl h nofun
      (fun rest hr => hasks.start hb hr) hf

/-- The same where every entry is read. -/
theorem yields_loop_some {results : List α} (hasks : Asks another closing lead)
    (hloops : Loops another entry loop) (hl : Listed isBlank false entries list)
    (h : List.Forall₂ (EntryReads lead entry) entries (results.map some))
    (hb : Blank isBlank blanks) (hf : list.length < fuel) :
    Yields (loop fuel true) (blanks ++ list) (closing :: rest) (some results) := by
  rw [← mapM_id_some results]
  exact yields_loop hasks hloops hl h hb hf

end Loop

/-! ### Values -/

/-- What an item starts with. -/
def ItemLead (c : Char) : Prop := isBlank c = false ∧ c ≠ ']'

/-- What a key starts with. -/
def KeyLead (c : Char) : Prop := c = '"'

theorem asks_anotherItem : Asks anotherItem ']' ItemLead where
  closed hb := Yields.last (yields_token? hb (by rintro _ ⟨⟩; decide)) (Yields.pure false)
  start hb hr := by
    obtain ⟨c, cs, rfl, hc, hne⟩ := hr
    refine Yields.last (yields_token? hb (by rintro _ ⟨⟩; exact hc)) ?_
    rw [List.head?_cons]
    split
    · next he => cases he
    · next he => exact absurd (Option.some.inj he) hne
    · exact Yields.pure true
  next hb hb' hr := by
    obtain ⟨c, cs, rfl, hc, hne⟩ := hr
    refine Yields.andThen (yields_token? hb (by rintro _ ⟨⟩; decide)) ?_
    refine Yields.head (yields_pass [',']) ?_
    refine Yields.last (yields_token? hb' (by rintro _ ⟨⟩; exact hc)) ?_
    rw [List.head?_cons]
    split
    · next he => cases he
    · next he => exact absurd (Option.some.inj he) hne
    · exact Yields.pure true
  ends _ := by
    rintro _ ⟨⟩
    decide

theorem asks_anotherKey : Asks anotherKey '}' KeyLead where
  closed hb := Yields.last (yields_token? hb (by rintro _ ⟨⟩; decide)) (Yields.pure false)
  start hb hr := by
    obtain ⟨c, cs, rfl, rfl⟩ := hr
    exact Yields.last (yields_token? hb (by rintro _ ⟨⟩; decide)) (Yields.pure true)
  next hb hb' hr := by
    obtain ⟨c, cs, rfl, rfl⟩ := hr
    refine Yields.andThen (yields_token? hb (by rintro _ ⟨⟩; decide)) ?_
    refine Yields.head (yields_pass [',']) ?_
    exact Yields.last (yields_token? hb' (by rintro _ ⟨⟩; decide)) (Yields.pure true)
  ends _ := by
    rintro _ ⟨⟩
    decide

/-- The colon after a key, and the blanks before it. -/
theorem yields_expectColon (hb : Blank isBlank blanks) :
    Yields expectColon (blanks ++ [':']) rest (some ()) :=
  Yields.andThen (yields_token? hb (by rintro _ ⟨⟩; decide)) (yields_pass [':'])

theorem loops_readItems {α : Type} (item : Read α) :
    Loops anotherItem item (readItems item) := fun _ _ => rfl

/-- An entry of an object. -/
def readEntry {ε α : Type} (key : StateT Cursor (Except ε) String)
    (colon : StateT Cursor (Except ε) Unit) (value : StateT Cursor (Except ε) α) :
    StateT Cursor (Except ε) (String × α) := do
  let name ← key
  colon
  return (name, ← value)

theorem loops_readEntries {α : Type} (value : Read α) :
    Loops anotherKey (readEntry readString expectColon value) (readEntries value) := by
  intro fuel first
  simp only [readEntries, readEntry, bind_assoc, pure_bind]

theorem yields_expectWord (word : List Char) : Yields (expectWord word) word rest (some ()) := by
  induction word with
  | nil => exact Yields.pure ()
  | cons c word ih =>
    refine Yields.peek yields_next? ?_
    simp only [List.cons_append, List.head?_cons, if_true]
    exact Yields.head (yields_pass [c]) ih

theorem itemLead_of_isDigit {c : Char} (h : c.isDigit = true) : ItemLead c := by
  refine ⟨?_, ?_⟩
  · simp only [isBlank, Bool.or_eq_false_iff, beq_eq_false_iff_ne]
    refine ⟨⟨⟨?_, ?_⟩, ?_⟩, ?_⟩
    all_goals
      rintro rfl
      exact absurd h (by decide)
  · rintro rfl
    exact absurd h (by decide)

/-- What a value starts with. Only numbers start with a digit. -/
theorem lead_of_written {j : Json} (h : j.Written text) :
    StartsWith (fun c => ItemLead c ∧ (c.isDigit = true → ∃ n, j = .integer n)) text := by
  cases j with
  | null =>
    obtain rfl : text = _ := h
    exact ⟨'n', _, rfl, ⟨by decide, by decide⟩, fun hd => absurd hd (by decide)⟩
  | boolean b =>
    cases b
    all_goals
      obtain rfl : text = _ := h
      exact ⟨_, _, rfl, ⟨by decide, by decide⟩, fun hd => absurd hd (by decide)⟩
  | integer n =>
    obtain ⟨m, -, -, hne, hdigits, -⟩ := h
    obtain ⟨c, cs, rfl⟩ := List.exists_cons_of_ne_nil hne
    have hc := hdigits c (List.mem_cons_self ..)
    exact ⟨c, cs, rfl, itemLead_of_isDigit hc, fun _ => ⟨n, rfl⟩⟩
  | float negative m => exact h.elim
  | text content =>
    obtain ⟨body, -, rfl⟩ := h
    exact ⟨'"', _, rfl, ⟨by decide, by decide⟩, fun hd => absurd hd (by decide)⟩
  | array items =>
    obtain ⟨blanks, list, -, -, rfl⟩ := h
    exact ⟨'[', _, rfl, ⟨by decide, by decide⟩, fun hd => absurd hd (by decide)⟩
  | object entries =>
    obtain ⟨blanks, list, -, -, rfl⟩ := h
    exact ⟨'{', _, rfl, ⟨by decide, by decide⟩, fun hd => absurd hd (by decide)⟩

theorem startsWith_of_written {j : Json} (h : j.Written text) : StartsWith ItemLead text := by
  obtain ⟨c, cs, rfl, hc, -⟩ := lead_of_written h
  exact ⟨c, cs, rfl, hc⟩

/-- The step reads a kind of texts, whatever blanks come before. -/
def ReadsAs {ε α : Type} (step : StateT Cursor (Except ε) α) (written : List Char → Prop)
    (a? : Option α) : Prop :=
  ∀ text, written text → ∀ blanks rest, Blank isBlank blanks → EndsNumber rest →
    Yields step (blanks ++ text) rest a?

theorem ReadsAs.item {j : Json} {step : Read Json} {a? : Option Json}
    (h : ReadsAs step j.Written a?) : EntryReads ItemLead step j.Written a? :=
  fun _ hw => ⟨startsWith_of_written hw, fun _ hr => h _ hw [] _ blank_nil hr⟩

/-- An entry is read if its value is. -/
theorem ReadsAs.entry {ε α : Type} {name : StateT Cursor (Except ε) String}
    {colon : StateT Cursor (Except ε) Unit} {value : StateT Cursor (Except ε) α} {a? : Option α}
    {key : String} {written : List Char → Prop}
    (hname : ∀ {text rest}, TextWritten key text → Yields name text rest (some key))
    (hcolon : ∀ {blanks rest}, Blank isBlank blanks → Yields colon (blanks ++ [':']) rest (some ()))
    (h : ReadsAs value written a?) :
    EntryReads KeyLead (readEntry name colon value) (Paired isBlank (TextWritten key) written)
      (a?.map (Prod.mk key)) := by
  rintro _ ⟨text, blanks, blanks', body, htext, hb, hb', hbody, rfl⟩
  refine ⟨?_, fun rest hr => ?_⟩
  · obtain ⟨content, -, rfl⟩ := htext
    exact ⟨'"', _, rfl, rfl⟩
  · have hvalue := Yields.map (h body hbody blanks' rest hb' hr) (Prod.mk key)
    have hentry : Yields (readEntry name colon value) _ rest (a?.map (Prod.mk key)) :=
      Yields.andThen (hname htext) (Yields.andThen (hcolon hb) hvalue)
    simpa only [List.append_assoc, List.singleton_append, List.cons_append, List.nil_append]
      using hentry

theorem yields_token_lead {c : Char} (hb : Blank isBlank blanks) (hc : isBlank c = false)
    (text : List Char) : Yields token? blanks (c :: text) (some (some c)) :=
  yields_token? hb (by rintro _ ⟨⟩; exact hc)

theorem readsAs_null (depth : Nat) : ReadsAs (readValue depth) Json.null.Written (some .null) := by
  rintro _ rfl blanks rest hb -
  unfold readValue
  refine Yields.andThen (yields_token_lead hb (by decide) _) ?_
  exact Yields.head (yields_pass ['n'])
    (Yields.map (yields_expectWord ['u', 'l', 'l']) fun _ => Json.null)

theorem readsAs_boolean (depth : Nat) (b : Bool) :
    ReadsAs (readValue depth) (Json.boolean b).Written (some (.boolean b)) := by
  unfold readValue
  cases b with
  | true =>
    rintro _ rfl blanks rest hb -
    refine Yields.andThen (yields_token_lead hb (by decide) _) ?_
    exact Yields.head (yields_pass ['t'])
      (Yields.map (yields_expectWord ['r', 'u', 'e']) fun _ => Json.boolean true)
  | false =>
    rintro _ rfl blanks rest hb -
    refine Yields.andThen (yields_token_lead hb (by decide) _) ?_
    exact Yields.head (yields_pass ['f'])
      (Yields.map (yields_expectWord ['a', 'l', 's', 'e']) fun _ => Json.boolean false)

theorem readsAs_integer (depth : Nat) (n : Int) :
    ReadsAs (readValue depth) (Json.integer n).Written (some (.integer n)) := by
  rintro text hw blanks rest hb hr
  obtain ⟨c, cs, hcs, hc, -⟩ := startsWith_of_written hw
  obtain ⟨m, rfl, hm, hwhole⟩ := hw
  have hdigit : c.isDigit = true := hwhole.2.1 c (hcs ▸ List.mem_cons_self ..)
  have hne : ∀ d : Char, d.isDigit = false → some c ≠ some d := by
    rintro d hd ⟨⟩
    exact Bool.noConfusion (hdigit.symm.trans hd)
  have htoken : Yields token? blanks (text ++ rest) (some (some c)) :=
    hcs ▸ yields_token_lead hb hc (cs ++ rest)
  unfold readValue
  refine Yields.andThen htoken ?_
  split
  case h_9 he =>
    obtain rfl := Option.some.inj he
    rw [if_pos hdigit]
    exact Numeral.yields_read hwhole hm hr
  case h_1 he => cases he
  all_goals
    next he => exact absurd he (hne _ (by decide))

theorem readsAs_text (depth : Nat) (content : String) :
    ReadsAs (readValue depth) (Json.text content).Written (some (.text content)) := by
  rintro text hw blanks rest hb -
  have hread : Yields readString text rest (some content) := yields_readString hw
  obtain ⟨body, -, rfl⟩ := hw
  unfold readValue
  exact Yields.andThen (yields_token_lead hb (by decide) _) (Yields.map hread Json.text)

theorem readsAs_array {depth : Nat} {items : List Json}
    (h : List.Forall₂ (EntryReads ItemLead (readValue depth)) (writtenItems items)
      (items.map some)) :
    ReadsAs (readValue (depth + 1)) (Json.array items).Written (some (.array items)) := by
  rintro _ ⟨blanks', list, hblanks, hlist, rfl⟩ blanks rest hb -
  have hfuel : list.length < (blanks' ++ list ++ [']'] ++ rest).length + 1 := by
    simp only [List.length_append]
    omega
  have hitems := loops_readItems (readValue depth)
  unfold readValue
  refine Yields.andThen (yields_token_lead hb (by decide) _) ?_
  refine Yields.head (yields_pass ['[']) (Yields.peek yields_ahead ?_)
  exact Yields.keep (yields_loop_some asks_anotherItem hitems hlist h hblanks hfuel)
    (yields_pass [']']) Json.array

theorem readsAs_object {depth : Nat} {entries : List (String × Json)}
    (h : List.Forall₂ (EntryReads KeyLead (readEntry readString expectColon (readValue depth)))
      (writtenEntries entries) (entries.map some)) :
    ReadsAs (readValue (depth + 1)) (Json.object entries).Written (some (.object entries)) := by
  rintro _ ⟨blanks', list, hblanks, hlist, rfl⟩ blanks rest hb -
  have hfuel : list.length < (blanks' ++ list ++ ['}'] ++ rest).length + 1 := by
    simp only [List.length_append]
    omega
  have hentries := loops_readEntries (readValue depth)
  unfold readValue
  refine Yields.andThen (yields_token_lead hb (by decide) _) ?_
  refine Yields.head (yields_pass ['{']) (Yields.peek yields_ahead ?_)
  exact Yields.keep (yields_loop_some asks_anotherKey hentries hlist h hblanks hfuel)
    (yields_pass ['}']) Json.object

mutual

/-- **The texts of a value are read**, unless arrays and objects nest too deep. -/
theorem readsAs_readValue (j : Json) {depth : Nat} (hd : j.depth ≤ depth) :
    ReadsAs (readValue depth) j.Written (some j) := by
  cases j with
  | null => exact readsAs_null depth
  | boolean b => exact readsAs_boolean depth b
  | integer n => exact readsAs_integer depth n
  | float negative m => exact fun _ hw => hw.elim
  | text content => exact readsAs_text depth content
  | array items =>
    rw [Json.depth] at hd
    obtain ⟨depth, rfl⟩ : ∃ d, depth = d + 1 := ⟨depth - 1, by omega⟩
    exact readsAs_array (readsItems items (by omega))
  | object entries =>
    rw [Json.depth] at hd
    obtain ⟨depth, rfl⟩ : ∃ d, depth = d + 1 := ⟨depth - 1, by omega⟩
    exact readsAs_object (readsEntries entries (by omega))

theorem readsItems (items : List Json) {depth : Nat} (hd : itemsDepth items ≤ depth) :
    List.Forall₂ (EntryReads ItemLead (readValue depth)) (writtenItems items) (items.map some) := by
  cases items with
  | nil => exact .nil
  | cons j items =>
    rw [itemsDepth] at hd
    have hj : j.depth ≤ depth := by omega
    exact .cons (readsAs_readValue j hj).item (readsItems items (by omega))

theorem readsEntries (entries : List (String × Json)) {depth : Nat}
    (hd : entriesDepth entries ≤ depth) :
    List.Forall₂ (EntryReads KeyLead (readEntry readString expectColon (readValue depth)))
      (writtenEntries entries) (entries.map some) := by
  cases entries with
  | nil => exact .nil
  | cons e entries =>
    obtain ⟨key, j⟩ := e
    rw [entriesDepth] at hd
    have hj : j.depth ≤ depth := by omega
    exact .cons ((readsAs_readValue j hj).entry yields_readString yields_expectColon)
      (readsEntries entries (by omega))

end

end DataGrammar.Json
