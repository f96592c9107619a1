import DataGrammar.Pattern.Program
import DataGrammar.Unicode.Class
/-!
# Matching at a place

`Program.match?` matches a program at a place of a text, with what lies behind the place in view.
It keeps a list of threads, the preferred one first, and moves all of them over one character
after the other. No instruction is walked twice at one place: the second walk could only lead to
what the first one has, and with less preference. The match is the one of the most preferred
thread that ends in one.
-/

namespace DataGrammar.Pattern

/-- Whether a neighbour is a character of words. -/
def isWordAt (unicode : Bool) : Option Char → Bool
  | none => false
  | some c => if unicode then Unicode.isWord c else Unicode.isAsciiWord c

/-- Whether a condition holds between the character behind and the one ahead. -/
def Look.holds (behind ahead : Option Char) : Look → Bool
  | .textStart => behind.isNone
  | .textEnd => ahead.isNone
  | .lineStart => behind.all (· == '\n')
  | .lineEnd => ahead.all (· == '\n')
  | .crlfLineStart =>
    behind.all (· == '\n') || (behind == some '\r' && ahead != some '\n')
  | .crlfLineEnd =>
    ahead.all (· == '\r') || (ahead == some '\n' && behind != some '\r')
  | .wordBoundary u => isWordAt u behind != isWordAt u ahead
  | .notWordBoundary u => isWordAt u behind == isWordAt u ahead
  | .wordStart u => !isWordAt u behind && isWordAt u ahead
  | .wordEnd u => isWordAt u behind && !isWordAt u ahead
  | .wordStartHalf u => !isWordAt u behind
  | .wordEndHalf u => !isWordAt u ahead

/-- Where the capture group starts and ends, in characters from the start of the match. -/
structure Slots where
  opening : Option Nat
  closing : Option Nat
  deriving DecidableEq, Repr, Inhabited

/-- An address to go on at, and what was recorded on the way to it. -/
structure Thread where
  address : Nat
  slots : Slots
  deriving DecidableEq, Repr, Inhabited

/-- A match: its length and the capture group, in characters. -/
structure Match where
  length : Nat
  slots : Slots
  deriving DecidableEq, Repr, Inhabited

/-- The start and end of the capture group, if it took part. -/
def Match.group? (m : Match) : Option (Nat × Nat) :=
  m.slots.opening.bind fun first => m.slots.closing.map fun last => (first, last)

/-- The addresses walked at a place, as the bits of a number. -/
abbrev Seen := Nat

namespace Program

/-- Walk from the threads `todo` without passing a character, `passed` characters after the start
of the match. Gives the threads that wait for a character or accept, the last one first. -/
def walk (p : Program) (behind ahead : Option Char) (passed : Nat) :
    (fuel : Nat) → (todo : List Thread) → (seen : Seen) → (waiting : List Thread) → List Thread
  | 0, _, _, waiting => waiting
  | _, [], _, waiting => waiting
  | fuel + 1, t :: todo, seen, waiting =>
    if seen.testBit t.address then p.walk behind ahead passed fuel todo seen waiting
    else
      let seen := seen ||| (1 <<< t.address)
      match p.code[t.address]? with
      | none => p.walk behind ahead passed fuel todo seen waiting
      | some (.char ..) | some .accept =>
        p.walk behind ahead passed fuel todo seen (t :: waiting)
      | some (.fork nexts) =>
        p.walk behind ahead passed fuel (nexts.map (⟨·, t.slots⟩) ++ todo) seen waiting
      | some (.check condition next) =>
        if condition.holds behind ahead then
          p.walk behind ahead passed fuel (⟨next, t.slots⟩ :: todo) seen waiting
        else p.walk behind ahead passed fuel todo seen waiting
      | some (.opening next) =>
        p.walk behind ahead passed fuel (⟨next, { t.slots with opening := some passed }⟩ :: todo)
          seen waiting
      | some (.closing next) =>
        p.walk behind ahead passed fuel (⟨next, { t.slots with closing := some passed }⟩ :: todo)
          seen waiting

/-- The threads that wait for a character or accept after a walk, in order of preference. -/
def reach (p : Program) (behind ahead : Option Char) (passed : Nat) (threads : List Thread) :
    List Thread :=
  (p.walk behind ahead passed (threads.length + p.ways + 1) threads 0 []).reverse

/-- Whether a thread accepts. -/
def accepts (p : Program) (t : Thread) : Bool :=
  match p.code[t.address]? with
  | some .accept => true
  | _ => false

/-- Move a thread over a character. -/
def step? (p : Program) (c : Char) (t : Thread) : Option Thread :=
  match p.code[t.address]? with
  | some (.char set next) => if set.contains c then some ⟨next, t.slots⟩ else none
  | _ => none

/-- Move threads over the characters ahead; `best` is the match to beat. -/
def run (p : Program) :
    (ahead : List Char) → (behind : Option Char) → (passed : Nat) → (threads : List Thread) →
      (best : Option Match) → Option Match
  | [], behind, passed, threads, best =>
    match (p.reach behind none passed threads).find? p.accepts with
    | some t => some ⟨passed, t.slots⟩
    | none => best
  | c :: rest, behind, passed, threads, best =>
    let waiting := p.reach behind (some c) passed threads
    let best := match waiting.find? p.accepts with
      | some t => some ⟨passed, t.slots⟩
      | none => best
    match (waiting.takeWhile fun t => !p.accepts t).filterMap (p.step? c) with
    | [] => best
    | moved => p.run rest (some c) (passed + 1) moved best

/-- Match at a place of a text, given the character behind it and those ahead. -/
def match? (p : Program) (behind : Option Char) (ahead : List Char) : Option Match :=
  p.run ahead behind 0 [⟨0, ⟨none, none⟩⟩] none

end Program
end DataGrammar.Pattern
