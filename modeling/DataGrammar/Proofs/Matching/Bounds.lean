import DataGrammar.Proofs.Compilation.Inversion
import DataGrammar.Proofs.Matching.Lockstep
import DataGrammar.Proofs.Pattern.Span
import DataGrammar.Proofs.Text.Slice

/-!
# Runs stay in the text

A run knows its place in the text by an offset. `Parser.execute` runs a node at an offset and
accesses the text by offsets only, which can go wrong: a search may start where there is no
boundary, a match may go beyond the end, a slice may lie between no boundaries.

* `Node.agree_checkedTerminal`: a compiled pattern, started at a place of the text, passes all
  checks.
* `Parser.agree_checkedCall`: so does every reference.
* `Parser.execute_within`: no execution of a compiled grammar ever fails a check, and each one
  ends at a boundary of the text, not before its start.
-/

namespace DataGrammar

/-- Why an execution ends before it is over. -/
inductive Abort where
  /-- More references are active than the limit allows. -/
  | limit
  /-- A search starts at an offset that is no boundary. -/
  | search (offset : Nat)
  /-- A span ends more characters further on than there are. -/
  | span (length : Nat)
  /-- The ends of a slice are not in order, or one of them is no boundary. -/
  | slice (first last : Nat)
  deriving DecidableEq, Repr

/-! ### Checks -/

/-- Cut out of the text what lies between two places ahead, given in characters. -/
def Cursor.checkedSlice (text : String) (c : Cursor) (first last : Nat) : Except Abort String :=
  if last ≤ c.ahead.length then
    let start := (c.advance first).offset
    let stop := (c.advance last).offset
    (slice? text start stop).elim (.error (.slice start stop)) .ok
  else .error (.span last)

/-- Match a pattern at an offset of the text. -/
def Node.checkedTerminal (text : String) (pattern : Pattern) : Step (Except Abort) := fun c =>
  match Cursor.at? text c.offset with
  | none => .error (.search c.offset)
  | some c =>
    match pattern.matchAt? c with
    | none => pure ⟨false, c, .null⟩
    | some found => do
      let whole ← c.checkedSlice text 0 found.length
      let value ←
        if pattern.hasCapture then
          match found.group? with
          | some (first, last) => c.checkedSlice text first last
          | none => pure ""
        else pure whole
      return ⟨true, c.advance found.length, .text value⟩

namespace Parser

/-- The node is that of a rule, or stands in one. -/
def HasNode (p : Parser) (node : Node p.size) : Prop := ∃ rule, node.Within (p.node rule)

/-- Run a rule by reference with checks. -/
def checkedCall (p : Parser) (text : String) : (depth : Nat) → Fin p.size → Step (Except Abort)
  | 0, _ => fun _ => .error .limit
  | depth + 1, rule =>
    (p.node rule).step (Node.checkedTerminal text) (p.checkedCall text depth)

/-- Run a node at an offset of a text with checks, with `depth` references left. -/
def execute (p : Parser) (text : String) (depth : Nat) (node : Node p.size) (offset : Nat) :
    Except Abort Outcome :=
  match Cursor.at? text offset with
  | none => .error (.search offset)
  | some c => (node.step (Node.checkedTerminal text) (p.checkedCall text depth) c).map .ofAttempt

end Parser

/-! ### Checks that pass -/

variable {text : String}

theorem Cursor.At.checkedSlice_eq {c : Cursor} (h : c.At text) {first last : Nat}
    (hle : first ≤ last) (hlast : last ≤ c.ahead.length) :
    c.checkedSlice text first last = .ok (.ofList ((c.ahead.take last).drop first)) := by
  rw [Cursor.checkedSlice, if_pos hlast]
  simp only [h.slice?_eq hle, Option.elim_some]

/-- **A compiled pattern passes all checks** at every place of the text. -/
theorem Node.agree_checkedTerminal {source : String} {pattern : Pattern}
    (h : Pattern.compile source = .ok pattern) :
    Step.Agree (.aborting Abort.limit) text (matchTerminal pattern)
      (checkedTerminal text pattern) := by
  intro c hc
  simp only [matchTerminal, checkedTerminal, hc.at?_eq]
  cases hm : pattern.matchAt? c with
  | none => exact ⟨.refl c, rfl⟩
  | some found =>
    have hwithin := Pattern.within_matchAt? h hm
    refine ⟨c.reaches_advance _, ?_⟩
    simp only [hc.checkedSlice_eq (Nat.zero_le _) hwithin.length_le, Pattern.textOf]
    cases pattern.hasCapture with
    | false => rfl
    | true =>
      simp only [if_true]
      cases hg : found.group? with
      | none => rfl
      | some group =>
        obtain ⟨first, last⟩ := group
        obtain ⟨hle, hlast⟩ := hwithin.group? hg
        simp only [hc.checkedSlice_eq hle (Nat.le_trans hlast hwithin.length_le)]
        rfl

namespace Description

variable {rule : String} {names : List String} {pattern : Pattern}

mutual

/-- The patterns in a compiled node are compiled. -/
theorem exists_compile_of_within {d : Description} {node : Node names.length}
    (h : d.compile rule names = .ok node) (hw : (Node.terminal pattern).Within node) :
    ∃ source, Pattern.compile source = .ok pattern := by
  cases d with
  | pattern source =>
    obtain ⟨p, hp, rfl⟩ := compile_pattern_iff.1 h
    cases hw with
    | self => exact ⟨source, hp⟩
  | reference ref =>
    obtain ⟨-, i, -, rfl⟩ := compile_reference_iff.1 h
    cases hw
  | sequence parts separator name default =>
    obtain ⟨nodes, s, hn, hs, rfl⟩ := compile_sequence_iff.1 h
    cases hw with
    | part hmem hw => exact exists_compile_of_mem hn hmem hw
    | partSeparator hw => exact exists_compile_of_separator hs hw
  | choice branches nesting name default =>
    obtain ⟨nodes, hn, rfl⟩ := compile_choice_iff.1 h
    cases hw with
    | branch hmem hw => exact exists_compile_of_mem hn hmem hw
  | repetition item separator least most name =>
    obtain ⟨i, s, hi, hs, rfl⟩ := compile_repetition_iff.1 h
    cases hw with
    | item hw => exact exists_compile_of_within hi hw
    | itemSeparator hw => exact exists_compile_of_separator hs hw

theorem exists_compile_of_mem {ds : List Description} {nodes : List (Node names.length)}
    (h : compileList rule names ds = .ok nodes) {node : Node names.length} (hmem : node ∈ nodes)
    (hw : (Node.terminal pattern).Within node) :
    ∃ source, Pattern.compile source = .ok pattern := by
  cases ds with
  | nil =>
    cases compileList_nil_iff.1 h
    cases hmem
  | cons d ds =>
    obtain ⟨first, rest, hn, hr, rfl⟩ := compileList_cons_iff.1 h
    rcases List.mem_cons.1 hmem with rfl | hmem
    · exact exists_compile_of_within hn hw
    · exact exists_compile_of_mem hr hmem hw

theorem exists_compile_of_separator {separator : Option Description} {node : Node names.length}
    (h : compileOption rule names separator = .ok (some node))
    (hw : (Node.terminal pattern).Within node) :
    ∃ source, Pattern.compile source = .ok pattern := by
  cases separator with
  | none => cases compileOption_none_iff.1 h
  | some d =>
    obtain ⟨node', hn, hs⟩ := compileOption_some_iff.1 h
    cases hs
    exact exists_compile_of_within hn hw

end

end Description

/-! ### Runs -/

namespace Parser

theorem exists_compile_of_hasNode {d : Definitions} {maxDepth : Nat} {p : Parser}
    (h : Parser.compile d maxDepth = .ok p) {pattern : Pattern}
    (hn : p.HasNode (.terminal pattern)) : ∃ source, Pattern.compile source = .ok pattern := by
  obtain ⟨rules, rfl, hrules⟩ := compile_eq_ok h
  obtain ⟨rule, hw⟩ := hn
  obtain ⟨-, description, -, hc⟩ := hrules rule
  exact Description.exists_compile_of_within hc hw

variable {p : Parser}
  (hp : ∀ pattern, p.HasNode (.terminal pattern) → ∃ source, Pattern.compile source = .ok pattern)

include hp

/-- A node passes all checks if its references do. -/
theorem agree_checked {depth : Nat}
    (hc : ∀ rule, Step.Agree (.aborting Abort.limit) text (p.call depth rule)
      (p.checkedCall text depth rule)) {node : Node p.size} (hn : p.HasNode node) :
    Step.Agree (.aborting Abort.limit) text (node.step Node.matchTerminal (p.call depth))
      (node.step (Node.checkedTerminal text) (p.checkedCall text depth)) := by
  refine Node.agree_step hc node fun pattern hw => ?_
  obtain ⟨rule, hr⟩ := hn
  obtain ⟨source, hs⟩ := hp pattern ⟨rule, hw.trans hr⟩
  exact Node.agree_checkedTerminal hs

/-- **References pass all checks.** -/
theorem agree_checkedCall (depth : Nat) (rule : Fin p.size) :
    Step.Agree (.aborting Abort.limit) text (p.call depth rule)
      (p.checkedCall text depth rule) := by
  induction depth generalizing rule with
  | zero => exact fun c _ => rfl
  | succ depth ih => exact agree_checked hp ih ⟨rule, .self⟩

/-- What an execution gives that starts at a place of the text. -/
theorem execute_at (depth : Nat) {node : Node p.size} (hn : p.HasNode node) {c : Cursor}
    (hc : c.At text) :
    match node.step Node.matchTerminal (p.call depth) c with
    | some a => p.execute text depth node c.offset = .ok (.ofAttempt a) ∧
        c.offset ≤ a.cursor.offset ∧ a.cursor.offset ≤ text.utf8ByteSize ∧
        (⟨a.cursor.offset⟩ : String.Pos.Raw).IsValid text
    | none => p.execute text depth node c.offset = .error .limit := by
  have hagree := agree_checked hp (agree_checkedCall hp depth) hn c hc
  simp only [Lockstep.aborting] at hagree
  simp only [execute, hc.at?_eq]
  split at hagree
  · next a ha =>
    obtain ⟨hreach, hchecked⟩ := hagree
    have hend := hc.reaches hreach
    rw [ha, hchecked]
    exact ⟨rfl, hreach.offset_le, hend.offset_le, hend.isValid⟩
  · next ha =>
    rw [ha, hagree]
    rfl

omit hp

/-- **Runs stay in the text.** An execution of any node of a compiled grammar that starts at a
boundary of the text passes all checks. If it ends, then at a boundary, not before its start,
whether it matched or not. So no run fails a check, and every outcome is at a boundary. -/
theorem execute_within {d : Definitions} {maxDepth : Nat} {p : Parser}
    (h : Parser.compile d maxDepth = .ok p) (text : String) :
    (∀ node, p.HasNode node → ∀ depth offset, (⟨offset⟩ : String.Pos.Raw).IsValid text →
      ∃ c, Cursor.At text c ∧ c.offset = offset ∧
        match node.step Node.matchTerminal (p.call depth) c with
        | some a => p.execute text depth node offset = .ok (.ofAttempt a) ∧
            offset ≤ a.cursor.offset ∧ a.cursor.offset ≤ text.utf8ByteSize ∧
            (⟨a.cursor.offset⟩ : String.Pos.Raw).IsValid text
        | none => p.execute text depth node offset = .error .limit) ∧
    (∀ rule index, p.find? rule = some index →
      p.execute text p.maxDepth (p.node index) 0 =
        (p.run rule text).mapError fun _ => .limit) ∧
    (∀ rule o, p.run rule text = .ok o → o.position ≤ text.utf8ByteSize ∧
      (⟨o.position⟩ : String.Pos.Raw).IsValid text) := by
  have hp : ∀ pattern, p.HasNode (.terminal pattern) →
      ∃ source, Pattern.compile source = .ok pattern := fun _ => exists_compile_of_hasNode h
  have hstart := fun index => execute_at hp p.maxDepth
    (⟨index, .self⟩ : p.HasNode (p.node index)) (Cursor.at_start text)
  refine ⟨fun node hn depth offset hoffset => ?_, fun rule index hi => ?_, fun rule o ho => ?_⟩
  · obtain ⟨c, hc, rfl⟩ := Cursor.exists_at hoffset
    exact ⟨c, hc, rfl, execute_at hp depth hn hc⟩
  · have hexecute := hstart index
    rw [run, hi]
    split at hexecute
    · next a ha =>
      simp only [ha]
      exact hexecute.1
    · next ha =>
      simp only [ha]
      exact hexecute
  · obtain ⟨index, a, -, ha, rfl⟩ := run_eq_ok_iff.1 ho
    have hexecute := hstart index
    rw [ha] at hexecute
    exact hexecute.2.2

theorem execute_within_sample :
    sample.HasNode (sample.node sampleRule) ∧ (⟨1⟩ : String.Pos.Raw).IsValid "(éx)" ∧
    (∃ c, Cursor.At "(éx)" c ∧ c.offset = 1 ∧
      match (sample.node sampleRule).step Node.matchTerminal (sample.call 2) c with
      | some a => sample.execute "(éx)" 2 (sample.node sampleRule) 1 = .ok (.ofAttempt a) ∧
          1 ≤ a.cursor.offset ∧ a.cursor.offset ≤ "(éx)".utf8ByteSize ∧
          (⟨a.cursor.offset⟩ : String.Pos.Raw).IsValid "(éx)"
      | none => sample.execute "(éx)" 2 (sample.node sampleRule) 1 = .error .limit) ∧
    sample.execute "(éx)" 2 (sample.node sampleRule) 1 = .ok ⟨true, 4, .text "x"⟩ ∧
    sample.run "expr" "(éx)" = .ok ⟨true, 5, .text "x"⟩ ∧ 5 ≤ "(éx)".utf8ByteSize ∧
    (⟨5⟩ : String.Pos.Raw).IsValid "(éx)" := by
  have h := execute_within compile_sample "(éx)"
  have hnode : sample.HasNode (sample.node sampleRule) := ⟨sampleRule, .self⟩
  have hstart : (⟨1⟩ : String.Pos.Raw).IsValid "(éx)" := by decide +kernel
  have hrun : sample.run "expr" "(éx)" = .ok ⟨true, 5, .text "x"⟩ := by decide +kernel
  exact ⟨hnode, hstart, h.1 _ hnode 2 1 hstart, by decide +kernel, hrun, h.2.2 _ _ hrun⟩

end Parser
end DataGrammar
