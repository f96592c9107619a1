import DataGrammar.Pattern.Expression
/-!
# Programs of regular expressions

A program is a list of instructions. One instruction passes a character; the others lead on
without passing one, and a fork tries its ways in order. `Expression.emit` lays an expression out
from an address `base` on, so that its matches go on at the address `next`;
`Expression.length_emit` says that it takes `Expression.size` addresses.

Of the capture groups, only the first one is recorded: it is the one whose text a terminal gives.
-/

namespace DataGrammar.Pattern

/-- An instruction. -/
inductive Instruction where
  /-- Pass a character of a set. -/
  | char (set : CharSet) (next : Nat)
  /-- Go on at each of some addresses, the first one preferred. -/
  | fork (nexts : List Nat)
  /-- Go on where a condition holds. -/
  | check (condition : Look) (next : Nat)
  /-- Record the start of the capture group. -/
  | opening (next : Nat)
  /-- Record the end of the capture group. -/
  | closing (next : Nat)
  /-- A match ends here. -/
  | accept
  deriving Repr, Inhabited

namespace Expression

mutual

/-- How many instructions an expression takes. -/
def size : Expression → Nat
  | .empty => 1
  | .chars _ => 1
  | .look _ => 1
  | .repetition least none _ item =>
    if least = 0 then item.size + (if item.canBeEmpty then 2 else 1)
    else least * item.size + 1
  | .repetition least (some most) _ item =>
    least * item.size + (most - least) * (item.size + 1) + (if most = 0 then 1 else 0)
  | .capture index item => if index = 1 then item.size + 2 else item.size
  | .concat items => sizes items
  | .alternation branches => totalSize branches + 1

/-- How many instructions expressions in a row take. -/
def sizes : List Expression → Nat
  | [] => 1
  | item :: items => item.size + sizes items

/-- How many instructions the branches take. -/
def totalSize : List Expression → Nat
  | [] => 0
  | branch :: branches => branch.size + totalSize branches

end

/-- A fork of two ways, the first one preferred if `greedy`. -/
def way (greedy : Bool) (first second : Nat) : Instruction :=
  .fork (if greedy then [first, second] else [second, first])

/-- The addresses at which branches of some sizes start, one after the other from `base` on. -/
def starts (base : Nat) : List Expression → List Nat
  | [] => []
  | branch :: branches => base :: starts (base + branch.size) branches

mutual

/-- The instructions of an expression, from `base` on, that go on at `next`. -/
def emit (base next : Nat) : Expression → List Instruction
  | .empty => [.fork [next]]
  | .chars set => [.char set next]
  | .look condition => [.check condition next]
  | .repetition least none greedy item =>
    if least = 0 then
      if item.canBeEmpty then
        way greedy (base + 1) next :: item.emit (base + 1) (base + 1 + item.size) ++
          [way greedy (base + 1) next]
      else way greedy (base + 1) next :: item.emit (base + 1) base
    else
      let last := base + (least - 1) * item.size
      ((List.range least).flatMap fun i =>
        item.emit (base + i * item.size) (base + (i + 1) * item.size)) ++
        [way greedy last next]
  | .repetition least (some most) greedy item =>
    let middle := base + least * item.size
    let optional := most - least
    ((List.range least).flatMap fun i =>
      item.emit (base + i * item.size)
        (if i + 1 = most then next else base + (i + 1) * item.size)) ++
      ((List.range optional).flatMap fun i =>
        let here := middle + i * (item.size + 1)
        way greedy (here + 1) next :: item.emit (here + 1)
          (if i + 1 = optional then next else here + 1 + item.size)) ++
      (if most = 0 then [.fork [next]] else [])
  | .capture index item =>
    if index = 1 then
      .opening (base + 1) :: item.emit (base + 1) (base + 1 + item.size) ++ [.closing next]
    else item.emit base next
  | .concat items => emitRow base next items
  | .alternation branches =>
    .fork (starts (base + 1) branches) :: emitBranches (base + 1) next branches

/-- The instructions of expressions in a row. -/
def emitRow (base next : Nat) : List Expression → List Instruction
  | [] => [.fork [next]]
  | item :: items =>
    item.emit base (base + item.size) ++ emitRow (base + item.size) next items

/-- The instructions of branches, each of which goes on at `next`. -/
def emitBranches (base next : Nat) : List Expression → List Instruction
  | [] => []
  | branch :: branches =>
    branch.emit base next ++ emitBranches (base + branch.size) next branches

end

theorem length_flatMap_range {α : Type} (n k : Nat) (f : Nat → List α)
    (h : ∀ i, (f i).length = k) : ((List.range n).flatMap f).length = n * k := by
  induction n with
  | zero => simp
  | succ n ih => simp [List.range_succ, ih, h, Nat.succ_mul]

mutual

theorem length_emit (e : Expression) (base next : Nat) : (e.emit base next).length = e.size := by
  cases e with
  | empty => rfl
  | chars => rfl
  | look => rfl
  | repetition least most greedy item =>
    cases most with
    | none =>
      simp only [emit, size]
      split
      · split <;> simp [length_emit item]
      · simp [length_flatMap_range _ item.size _ fun i => length_emit item _ _]
    | some most =>
      simp only [emit, size, List.length_append]
      rw [length_flatMap_range _ item.size _ fun i => length_emit item _ _,
        length_flatMap_range _ (item.size + 1) _ fun i => by simp [length_emit item]]
      split <;> rfl
  | capture index item =>
    simp only [emit, size]
    split <;> simp [length_emit item]
  | concat items => exact length_emitRow items base next
  | alternation branches => simp [emit, size, length_emitBranches branches]

theorem length_emitRow (es : List Expression) (base next : Nat) :
    (emitRow base next es).length = sizes es := by
  cases es with
  | nil => rfl
  | cons e es => simp [emitRow, sizes, length_emit e, length_emitRow es]

theorem length_emitBranches (es : List Expression) (base next : Nat) :
    (emitBranches base next es).length = totalSize es := by
  cases es with
  | nil => rfl
  | cons e es => simp [emitBranches, totalSize, length_emit e, length_emitBranches es]

end

/-- The bytes that a state of an automaton takes. -/
def stateBytes : Nat := 32

/-- The bytes that an automaton over bytes takes for one character of a set. -/
def charBytes (set : CharSet) : Nat :=
  let wide := set.intervals.countP fun i => 0x80 ≤ i.2
  stateBytes * (1 + wide) + 8 * (set.intervals.length - wide)

mutual

/-- An estimate of the bytes that the automaton of an expression takes. -/
def bytes : Expression → Nat
  | .empty => stateBytes
  | .chars set => charBytes set
  | .look _ => stateBytes
  | .repetition least none _ item => (max least 1) * item.bytes + 2 * stateBytes
  | .repetition least (some most) _ item =>
    least * item.bytes + (most - least) * (item.bytes + stateBytes) + stateBytes
  | .capture _ item => item.bytes + 2 * stateBytes
  | .concat items => totalBytes items
  | .alternation branches => totalBytes branches + 2 * stateBytes

/-- The estimates of some expressions in sum. -/
def totalBytes : List Expression → Nat
  | [] => 0
  | item :: items => item.bytes + totalBytes items

end

/-- The most bytes that the automaton of a pattern may take. -/
def byteLimit : Nat := 10 * Nat.pow 2 20

end Expression

/-- How many ways on an instruction has without passing a character. -/
def Instruction.ways : Instruction → Nat
  | .fork nexts => nexts.length
  | .check .. | .opening _ | .closing _ => 1
  | .char .. | .accept => 0

/-- A program, which starts at address 0. -/
structure Program where
  /-- The instructions by address. -/
  code : Array Instruction
  /-- The ways on of all instructions, which bound a walk that passes no character. -/
  ways : Nat
  deriving Inhabited

namespace Program

/-- The program of some instructions. -/
def ofList (instructions : List Instruction) : Program :=
  ⟨instructions.toArray, instructions.foldl (fun n i => n + i.ways) 0⟩

/-- The program of an expression. -/
def ofExpression (e : Expression) : Program :=
  ofList (e.emit 0 e.size ++ [Instruction.accept])

end Program
end DataGrammar.Pattern
