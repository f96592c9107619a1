import DataGrammar.Json.Printer
import DataGrammar.Proofs.Json.Reading
import DataGrammar.Proofs.Number.Decimal

/-!
# Printed JSON values

What is printed is a text of the value, with or without blanks. The two printers differ only in the
blanks that they put around entries, so what they have in common is stated once, of a layout.

* `Json.Printable`: values of which the numbers are whole, not negative and of up to 64 bits.
* `Json.Layout`: how a printer writes arrays and objects.
* `Layout.written`: a printer with a layout writes texts of values.
* `Json.Denotes`: the text is that of one value, however deep it nests.
* `Json.written_compact`, `Json.written_pretty`: what is printed is a text of the value.
* `Json.denotes_of_written`: a text of a value denotes it.
-/

namespace DataGrammar.Json

open Read

/-! ### Scalars -/

/-- A digit zero stands before no other digit. -/
theorem toDigits_of_head? (n : Nat) (h : (Nat.toDigits 10 n).head? = some '0') :
    Nat.toDigits 10 n = ['0'] := by
  induction n using Nat.strongRecOn with
  | ind n ih =>
    rcases Nat.lt_or_ge n 10 with hn | hn
    · rw [Nat.toDigits_of_lt_base hn] at h ⊢
      rw [Option.some.inj h]
    · have hdigits := Nat.toDigits_of_base_le (by decide) hn
      rw [hdigits, List.head?_append, Option.or_of_isSome (by simp [Nat.toDigits_ne_nil])] at h
      have hzero : n / 10 = 0 := by
        rw [← Nat.ofDigitChars_ten_toDigits (n := n / 10), ih _ (by omega) h]
        rfl
      omega

theorem whole_toDigits (n : Nat) : Whole n (Nat.toDigits 10 n) := by
  obtain ⟨hne, hdigits⟩ := Number.digits_toDigits n
  refine ⟨hne, hdigits, toDigits_of_head? n, ?_⟩
  rw [Number.digitsValue_eq_ofDigitChars, Nat.ofDigitChars_ten_toDigits]

theorem whole_scalar (n : Nat) : Whole n (integer n).scalar := by
  rw [scalar, Int.toString_eq_repr, Int.repr_eq_if, if_pos (Int.natCast_nonneg n),
    Int.toNat_natCast, Nat.toList_repr]
  exact whole_toDigits n

theorem hex_codeEscape {n : Nat} (h : n < 0x20) :
    Hex n (List.replicate (4 - (Nat.toDigits 16 n).length) '0' ++ Nat.toDigits 16 n) := by
  have hall : ∀ n < 0x20, (List.replicate (4 - (Nat.toDigits 16 n).length) '0' ++
      Nat.toDigits 16 n).length = 4 ∧ hexValue? (List.replicate
      (4 - (Nat.toDigits 16 n).length) '0' ++ Nat.toDigits 16 n) = some n := by decide
  exact hall n h

/-- A character of a string stands for itself where it may, and is escaped otherwise. -/
theorem textBody_escape (c : Char) {content body : List Char} (h : TextBody content body) :
    TextBody (c :: content) (escape c ++ body) := by
  unfold escape
  split
  case h_8 hquote hbackslash _ _ _ _ _ =>
    split
    · next hc => exact .code (hex_codeEscape hc) h
    · next hc => exact .plain hquote hbackslash (Nat.not_lt.1 hc) h
  all_goals exact .escape (by decide) h

theorem textWritten_string (s : String) : TextWritten s (string s) := by
  refine ⟨s.toList.flatMap escape, ?_, rfl⟩
  induction s.toList with
  | nil => exact .nil
  | cons c cs ih => exact textBody_escape c ih

/-! ### Values that can be printed -/

mutual

/-- The numbers of the value are whole, not negative and of up to 64 bits. -/
def Printable : Json → Prop
  | .integer n => ∃ m : Nat, n = m ∧ m ≤ Numeral.greatest
  | .float .. => False
  | .array items => PrintableItems items
  | .object entries => PrintableEntries entries
  | _ => True

/-- The items can be printed. -/
def PrintableItems : List Json → Prop
  | [] => True
  | j :: rest => j.Printable ∧ PrintableItems rest

/-- The values of the entries can be printed. -/
def PrintableEntries : List (String × Json) → Prop
  | [] => True
  | (_, j) :: rest => j.Printable ∧ PrintableEntries rest

end

/-- What is no array and no object. -/
def IsScalar : Json → Prop
  | .array _ | .object _ => False
  | _ => True

theorem written_scalar {j : Json} (hs : j.IsScalar) (h : j.Printable) : j.Written j.scalar := by
  cases j with
  | null => rfl
  | boolean b => cases b <;> rfl
  | integer n =>
    obtain ⟨m, rfl, hm⟩ := h
    exact ⟨m, rfl, hm, whole_scalar m⟩
  | float negative m => exact h.elim
  | text s => exact textWritten_string s
  | array items => exact hs.elim
  | object entries => exact hs.elim

/-! ### Layouts -/

section List

variable {α : Type} {print : List α → List Char} {text : α → List Char}
  {entries : List (List Char → Prop)} {lead tail : List Char} {closing : Char}

/-- The printer writes what leads to an entry, the entry, and then a comma and the other ones, or
what ends the list. -/
structure Lists (print : List α → List Char) (text : α → List Char) (lead tail : List Char)
    (closing : Char) : Prop where
  last : ∀ a, print [a] = lead ++ text a ++ tail ++ [closing]
  more : ∀ a b rest, print (a :: b :: rest) = lead ++ text a ++ ',' :: print (b :: rest)

theorem Lists.listed (h : Lists print text lead tail closing) (hlead : Blank isBlank lead)
    (htail : Blank isBlank tail) (a : α) (rest : List α)
    (hw : List.Forall₂ (fun b entry => entry (text b)) (a :: rest) entries) :
    ∃ list, Listed isBlank false entries list ∧ print (a :: rest) = lead ++ list ++ [closing] := by
  induction rest generalizing a entries with
  | nil =>
    obtain _ | ⟨ha, _ | _⟩ := hw
    exact ⟨text a ++ tail, .last ha htail, by simp [h.last]⟩
  | cons b rest ih =>
    obtain _ | ⟨ha, hrest⟩ := hw
    obtain ⟨list, hlist, hprint⟩ := ih b hrest
    obtain _ | ⟨hb, hrest⟩ := hrest
    refine ⟨text a ++ ([] ++ ',' :: lead) ++ list, .cons ha blank_nil hlead hlist, ?_⟩
    rw [h.more, hprint]
    simp

end List

variable {print : Nat → Json → List Char} {items : Nat → List Json → List Char}
  {entries : Nat → List (String × Json) → List Char} {lead tail : Nat → List Char}
  {gap : List Char}

/-- How a printer writes values at a depth: there are blanks before each entry of an array or an
object, behind the last one and behind colons, but no blanks between empty brackets. -/
structure Layout (print : Nat → Json → List Char) (items : Nat → List Json → List Char)
    (entries : Nat → List (String × Json) → List Char) (lead tail : Nat → List Char)
    (gap : List Char) : Prop where
  blank_lead : ∀ depth, Blank isBlank (lead depth)
  blank_tail : ∀ depth, Blank isBlank (tail depth)
  blank_gap : Blank isBlank gap
  scalar : ∀ {j : Json}, j.IsScalar → ∀ depth, print depth j = j.scalar
  noItems : ∀ depth, print depth (.array []) = ['[', ']']
  array : ∀ depth j rest, print depth (.array (j :: rest)) = '[' :: items depth (j :: rest)
  listsItems : ∀ depth, Lists (items depth) (print (depth + 1)) (lead depth) (tail depth) ']'
  noEntries : ∀ depth, print depth (.object []) = ['{', '}']
  object : ∀ depth e rest, print depth (.object (e :: rest)) = '{' :: entries depth (e :: rest)
  listsEntries : ∀ depth, Lists (entries depth)
    (fun e => string e.1 ++ ':' :: gap ++ print (depth + 1) e.2) (lead depth) (tail depth) '}'

theorem layout_compact : Layout (fun _ => compactChars) (fun _ => compactItems)
    (fun _ => compactEntries) (fun _ => []) (fun _ => []) [] where
  blank_lead _ := blank_nil
  blank_tail _ := blank_nil
  blank_gap := blank_nil
  scalar {j} hj _ := by cases j <;> first | rfl | exact hj.elim
  noItems _ := rfl
  array _ _ _ := rfl
  listsItems _ := ⟨fun j => by simp [compactItems], fun j j' rest => by simp [compactItems]⟩
  noEntries _ := rfl
  object _ _ _ := rfl
  listsEntries _ := ⟨fun e => by simp [compactEntries], fun e e' rest => by simp [compactEntries]⟩

theorem blank_newline (depth : Nat) : Blank isBlank (newline depth) := by
  refine List.forall_mem_cons.2 ⟨by decide, fun c hc => ?_⟩
  rw [List.eq_of_mem_replicate hc]
  decide

theorem layout_pretty : Layout prettyChars prettyItems prettyEntries
    (fun depth => newline (depth + 1)) newline [' '] where
  blank_lead depth := blank_newline (depth + 1)
  blank_tail depth := blank_newline depth
  blank_gap := by decide
  scalar {j} hj _ := by cases j <;> first | rfl | exact hj.elim
  noItems _ := rfl
  array _ _ _ := rfl
  listsItems _ := ⟨fun j => by simp [prettyItems], fun j j' rest => by simp [prettyItems]⟩
  noEntries _ := rfl
  object _ _ _ := rfl
  listsEntries _ := ⟨fun e => by simp [prettyEntries], fun e e' rest => by simp [prettyEntries]⟩

namespace Layout

variable {texts : List (List Char → Prop)}

theorem bracketed_items (h : Layout print items entries lead tail gap) (depth : Nat)
    (values : List Json)
    (hw : List.Forall₂ (fun j text => text (print (depth + 1) j)) values texts) :
    Bracketed isBlank false '[' ']' texts (print depth (.array values)) := by
  cases values with
  | nil =>
    cases hw
    rw [h.noItems]
    exact ⟨[], [], blank_nil, .nil, rfl⟩
  | cons value values =>
    obtain ⟨list, hlist, hprint⟩ := (h.listsItems depth).listed (h.blank_lead depth)
      (h.blank_tail depth) value values hw
    rw [h.array, hprint]
    exact ⟨lead depth, list, h.blank_lead depth, hlist, rfl⟩

theorem bracketed_entries (h : Layout print items entries lead tail gap) (depth : Nat)
    (fields : List (String × Json))
    (hw : List.Forall₂ (fun e text => text (string e.1 ++ ':' :: gap ++ print (depth + 1) e.2))
      fields texts) :
    Bracketed isBlank false '{' '}' texts (print depth (.object fields)) := by
  cases fields with
  | nil =>
    cases hw
    rw [h.noEntries]
    exact ⟨[], [], blank_nil, .nil, rfl⟩
  | cons field fields =>
    obtain ⟨list, hlist, hprint⟩ := (h.listsEntries depth).listed (h.blank_lead depth)
      (h.blank_tail depth) field fields hw
    rw [h.object, hprint]
    exact ⟨lead depth, list, h.blank_lead depth, hlist, rfl⟩

/-- An entry is a key and a value, with blanks behind the colon only. -/
theorem paired (h : Layout print items entries lead tail gap) (key : String) {text : List Char}
    {value : List Char → Prop} (hv : value text) :
    Paired isBlank (TextWritten key) value (string key ++ ':' :: gap ++ text) :=
  ⟨string key, [], gap, text, textWritten_string key, blank_nil, h.blank_gap, hv, by simp⟩

mutual

/-- **A printer with a layout writes texts of values.** -/
theorem written (h : Layout print items entries lead tail gap) (j : Json) (hj : j.Printable)
    (depth : Nat) : j.Written (print depth j) := by
  cases j with
  | array values => exact h.bracketed_items depth values (written_items h values hj (depth + 1))
  | object fields =>
    exact h.bracketed_entries depth fields (written_entries h fields hj (depth + 1))
  | null | boolean _ | integer _ | float _ _ | text _ =>
    rw [h.scalar (by trivial)]
    exact written_scalar trivial hj

theorem written_items (h : Layout print items entries lead tail gap) (values : List Json)
    (hv : PrintableItems values) (depth : Nat) :
    List.Forall₂ (fun j text => text (print depth j)) values (writtenItems values) := by
  cases values with
  | nil => exact .nil
  | cons value values =>
    exact .cons (written h value hv.1 depth) (written_items h values hv.2 depth)

theorem written_entries (h : Layout print items entries lead tail gap)
    (fields : List (String × Json)) (hf : PrintableEntries fields) (depth : Nat) :
    List.Forall₂ (fun e text => text (string e.1 ++ ':' :: gap ++ print depth e.2)) fields
      (writtenEntries fields) := by
  cases fields with
  | nil => exact .nil
  | cons field fields =>
    obtain ⟨key, value⟩ := field
    exact .cons (h.paired key (written h value hf.1 depth)) (written_entries h fields hf.2 depth)

end

end Layout

/-! ### What texts denote -/

/-- Read a text that holds one value, in which arrays and objects nest at most `depth` deep. -/
def ofTextWithin (depth : Nat) (text : String) : Except Error Json :=
  (do
    let v ← readValue depth
    expectEnd
    return v : Read Json).run' (.start text)

/-- The text is that of one value: this is what is read, unless it nests deeper than allowed. -/
def Denotes (text : String) (j : Json) : Prop :=
  ∃ least, ∀ depth, least ≤ depth → ofTextWithin depth text = .ok j

variable {text : String} {j j' : Json}

/-- **A text denotes one value at most.** -/
theorem Denotes.unique (h : Denotes text j) (h' : Denotes text j') : j = j' := by
  obtain ⟨least, h⟩ := h
  obtain ⟨least', h'⟩ := h'
  have hread := h _ (Nat.le_max_left least least')
  rw [h' _ (Nat.le_max_right least least')] at hread
  exact (Except.ok.inj hread).symm

/-- A text of a value is read as the value. -/
theorem ofTextWithin_of_written {depth : Nat} (h : j.Written text.toList) (hd : j.depth ≤ depth) :
    ofTextWithin depth text = .ok j := by
  have hend : Yields expectEnd [] [] (some ()) :=
    Yields.last (yields_token? blank_nil nofun) (Yields.pure ())
  have hvalue : Yields (readValue depth) text.toList [] (some j) :=
    readsAs_readValue j hd text.toList h [] [] blank_nil nofun
  have hread : Yields (readValue depth >>= fun a => expectEnd >>= fun _ => pure (id a))
      (text.toList ++ []) [] (some j) := Yields.keep hvalue hend id
  have hrun := hread (.start text) (by rw [List.append_nil, List.append_nil]; rfl)
  change (Prod.fst <$> _ : Except Error Json) = _
  cases hs : (readValue depth >>= fun a => expectEnd >>= fun _ => pure (id a)) (.start text) with
  | error e =>
    rw [hs] at hrun
    cases hrun
  | ok p =>
    rw [hs] at hrun
    change Prod.fst <$> (readValue depth >>= fun a => expectEnd >>= fun _ => pure (id a))
      (.start text) = _
    rw [hs, Option.some.inj hrun]
    rfl

theorem denotes_of_written (h : j.Written text.toList) : Denotes text j :=
  ⟨j.depth, fun _ hd => ofTextWithin_of_written h hd⟩

theorem written_compact (h : j.Printable) : j.Written j.compact.toList := by
  rw [compact, String.toList_ofList]
  exact layout_compact.written j h 0

theorem written_pretty (h : j.Printable) : j.Written j.pretty.toList := by
  rw [pretty, String.toList_ofList]
  exact layout_pretty.written j h 0

end DataGrammar.Json
