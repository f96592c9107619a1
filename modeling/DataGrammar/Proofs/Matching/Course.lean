import DataGrammar.Proofs.Keyed

/-!
# The course of a sequence

A sequence runs its parts in order, each from where the one before it, or the separator after that,
has stopped. Its course is what happened: the parts that were run, what each of them gave, whether
all of them matched, and where the last of them, or a separator that failed, has stopped.

* `Step.Course` says what courses there are.
* `Step.course_of_sequenceFrom`, `Step.sequenceFrom_of_course`: a sequence that comes to an end has
  a course, and its course decides what it gives.
* `Value.Records`: the map of named values, of which the last one of each name stays.
* `Parser.sequence_iff`: a sequence of nodes gives an attempt if and only if that belongs to a
  course.
-/

namespace DataGrammar

/-- The map of named values: its keys are their names, and the last value of each name stays. -/
def Value.Records (named : List (String × Value)) (v : Value) : Prop :=
  ∃ fields, v = .map fields ∧ Keyed.Ascending fields ∧
    ∀ name, Keyed.find? name fields = Keyed.find? name named.reverse

theorem Value.records_iff {named : List (String × Value)} {v : Value} :
    v.Records named ↔ v = .ofEntries named := by
  constructor
  · rintro ⟨fields, rfl, hascending, hfind⟩
    refine congrArg Value.map (Keyed.eq_of_find?_eq hascending (Keyed.ascending_ofEntries named) ?_)
    exact fun name => (hfind name).trans Keyed.find?_ofEntries_eq_reverse.symm
  · rintro rfl
    exact ⟨_, rfl, Keyed.ascending_ofEntries named, fun _ => Keyed.find?_ofEntries_eq_reverse⟩

namespace Step

variable {separator : Option (Step Option)} {parts : List (Part Option)}
  {row : List (Part Option × Attempt)} {c stop : Cursor} {matched : Bool} {g : Gathered}

/-! ### Courses -/

/-- The course of a sequence from a cursor on: its parts that were run, each with its attempt,
whether all of its parts matched, and where it came to its end. -/
inductive Course (separator : Option (Step Option)) :
    Cursor → List (Part Option) → List (Part Option × Attempt) → Bool → Cursor → Prop
  /-- There are no parts. -/
  | nil (c : Cursor) : Course separator c [] [] true c
  /-- A part fails. -/
  | ofPart {c : Cursor} {part : Part Option} {rest : List (Part Option)} {item : Attempt}
      (hpart : part.step c = some item) (hitem : item.success = false) :
      Course separator c (part :: rest) [(part, item)] false item.cursor
  /-- The last part matches. -/
  | last {c : Cursor} {part : Part Option} {item : Attempt}
      (hpart : part.step c = some item) (hitem : item.success = true) :
      Course separator c [part] [(part, item)] true item.cursor
  /-- A part matches which is not the last one, and the separator after it fails. -/
  | ofSeparator {c stop : Cursor} {part next : Part Option} {rest : List (Part Option)}
      {item : Attempt} {v : Value} (hpart : part.step c = some item) (hitem : item.success = true)
      (hseparator : optional separator item.cursor = some ⟨false, stop, v⟩) :
      Course separator c (part :: next :: rest) [(part, item)] false stop
  /-- A part matches, the separator after it matches, and the next part goes on from there. -/
  | cons {c d stop : Cursor} {part next : Part Option} {rest : List (Part Option)}
      {item : Attempt} {v : Value} {row : List (Part Option × Attempt)} {matched : Bool}
      (hpart : part.step c = some item) (hitem : item.success = true)
      (hseparator : optional separator item.cursor = some ⟨true, d, v⟩)
      (hrest : Course separator d (next :: rest) row matched stop) :
      Course separator c (part :: next :: rest) ((part, item) :: row) matched stop

/-- The values of parts that have a name, in order. -/
def named (row : List (Part Option × Attempt)) : List (String × Value) :=
  row.filterMap fun e => e.1.name.map fun name => (name, e.2.value)

/-- The values of parts that collapse, in order. -/
def collapsing (row : List (Part Option × Attempt)) : List Value :=
  (row.filter fun e => e.1.collapse).map fun e => e.2.value

/-- Where all parts matched, each of them did. -/
theorem success_of_course (h : Course separator c parts row matched stop) (hm : matched = true) :
    ∀ e ∈ row, e.2.success = true := by
  induction h with
  | nil c => exact List.forall_mem_nil _
  | ofPart => cases hm
  | last _ hitem => exact List.forall_mem_singleton.2 hitem
  | ofSeparator => cases hm
  | cons _ hitem _ _ ih => exact List.forall_mem_cons.2 ⟨hitem, ih hm⟩

/-! ### What is gathered on the way -/

/-- Add what the parts of a row gave. -/
def Gathered.addRow (g : Gathered) (row : List (Part Option × Attempt)) : Gathered :=
  row.foldl (fun g e => g.add e.1 e.2) g

theorem Gathered.fields_addRow (g : Gathered) (row : List (Part Option × Attempt)) :
    (g.addRow row).fields =
      (named row).foldl (fun filed e => Keyed.insert e.1 e.2 filed) g.fields := by
  induction row generalizing g with
  | nil => rfl
  | cons e row ih =>
    obtain ⟨⟨name, collapse, step⟩, item⟩ := e
    rw [addRow, List.foldl_cons, ← addRow, ih]
    cases name <;> rfl

theorem Gathered.collapsed_addRow (g : Gathered) (h : ∀ e ∈ row, e.2.success = true) :
    (g.addRow row).collapsed = (collapsing row).getLast?.or g.collapsed := by
  induction row generalizing g with
  | nil => rfl
  | cons e row ih =>
    obtain ⟨⟨name, collapse, step⟩, item⟩ := e
    obtain ⟨hitem, hrow⟩ := List.forall_mem_cons.1 h
    rw [addRow, List.foldl_cons, ← addRow, ih _ hrow, add]
    cases collapse with
    | false => rw [Bool.and_false]; rfl
    | true =>
      -- its value stays unless a later part collapses
      have hcons : collapsing ((⟨name, true, step⟩, item) :: row) = item.value :: collapsing row := rfl
      rw [hcons, List.getLast?_cons, hitem]
      cases (collapsing row).getLast? <;> rfl

/-- What a sequence gives at the end of its course. -/
def Gathered.outcome (g : Gathered) (matched : Bool) (stop : Cursor) : Attempt :=
  ⟨matched, stop, if matched then g.value else .map g.fields⟩

/-- After a part that matched and is not the last one, the separator decides how it goes on. -/
theorem sequenceFrom_cons_cons {part next : Part Option} {item : Attempt}
    (hpart : part.step c = some item) (hitem : item.success = true) (g : Gathered) :
    sequenceFrom separator (part :: next :: parts) g c =
      (optional separator item.cursor).bind fun between =>
        if between.success then sequenceFrom separator (next :: parts) (g.add part item) between.cursor
        else some ((g.add part item).outcome false between.cursor) := by
  rw [sequenceFrom, hpart, Option.bind_eq_bind, Option.bind_some, hitem]
  rfl

/-- **The course of a sequence decides what it gives.** -/
theorem sequenceFrom_of_course (h : Course separator c parts row matched stop) (g : Gathered) :
    sequenceFrom separator parts g c = some ((g.addRow row).outcome matched stop) := by
  induction h generalizing g with
  | nil c => rfl
  | ofPart hpart hitem =>
    rw [sequenceFrom, hpart, Option.bind_eq_bind, Option.bind_some, hitem]
    rfl
  | last hpart hitem =>
    rw [sequenceFrom, hpart, Option.bind_eq_bind, Option.bind_some, hitem]
    rfl
  | ofSeparator hpart hitem hseparator =>
    rw [sequenceFrom_cons_cons hpart hitem, hseparator]
    rfl
  | cons hpart hitem hseparator _ ih =>
    rw [sequenceFrom_cons_cons hpart hitem, hseparator]
    exact ih _

/-- **A sequence that comes to an end has a course.** -/
theorem course_of_sequenceFrom {a : Attempt} (ha : sequenceFrom separator parts g c = some a) :
    ∃ row matched stop, Course separator c parts row matched stop := by
  induction parts generalizing g c with
  | nil => exact ⟨[], true, c, .nil c⟩
  | cons part rest ih =>
    obtain ⟨item, hpart, -⟩ := Option.bind_eq_some_iff.1 ha
    cases hitem : item.success with
    | false => exact ⟨_, _, _, .ofPart hpart hitem⟩
    | true =>
      cases rest with
      | nil => exact ⟨_, _, _, .last hpart hitem⟩
      | cons next rest =>
        rw [sequenceFrom_cons_cons hpart hitem] at ha
        obtain ⟨⟨success, d, v⟩, hseparator, hrest⟩ := Option.bind_eq_some_iff.1 ha
        cases success with
        | false => exact ⟨_, _, _, .ofSeparator hpart hitem hseparator⟩
        | true =>
          obtain ⟨row, matched, stop, hcourse⟩ := ih hrest
          exact ⟨_, _, _, .cons hpart hitem hseparator hcourse⟩

/-! ### Conclusions -/

/-- What a sequence makes of its course. -/
inductive Concludes (default : Option Value) (start : Cursor)
    (row : List (Part Option × Attempt)) : (matched : Bool) → (stop : Cursor) → Attempt → Prop
  /-- If all parts matched and some of them collapse, it gives the value of the last one of these. -/
  | collapsed {stop : Cursor} {v : Value} (h : (collapsing row).getLast? = some v) :
      Concludes default start row true stop ⟨true, stop, v⟩
  /-- If all parts matched and none collapses, it gives the map of the named values. -/
  | record {stop : Cursor} {v : Value} (h : collapsing row = []) (hv : v.Records (named row)) :
      Concludes default start row true stop ⟨true, stop, v⟩
  /-- If something failed, the default is given at the start. -/
  | default {stop : Cursor} {v : Value} (h : default = some v) :
      Concludes default start row false stop ⟨true, start, v⟩
  /-- Without a default, it fails with the map of the named values of the parts that were run. -/
  | failure {stop : Cursor} {v : Value} (h : default = none) (hv : v.Records (named row)) :
      Concludes default start row false stop ⟨false, stop, v⟩

/-- The conclusion of a course, computed. -/
def conclusion (default : Option Value) (start : Cursor) (row : List (Part Option × Attempt))
    (matched : Bool) (stop : Cursor) : Attempt :=
  if matched then ⟨true, stop, (collapsing row).getLast?.getD (.ofEntries (named row))⟩
  else orDefault default start ⟨false, stop, .ofEntries (named row)⟩

variable {start : Cursor} {default : Option Value} {a : Attempt}

/-- A course has one conclusion. -/
theorem concludes_iff :
    Concludes default start row matched stop a ↔ a = conclusion default start row matched stop := by
  constructor
  · intro h
    cases h with
    | collapsed h => rw [conclusion, h]; rfl
    | record h hv => rw [conclusion, h, Value.records_iff.1 hv]; rfl
    | default h => rw [conclusion, h]; rfl
    | failure h hv => rw [conclusion, h, Value.records_iff.1 hv]; rfl
  · rintro rfl
    cases matched with
    | true =>
      cases hc : (collapsing row).getLast? with
      | some v =>
        rw [conclusion, hc]
        exact .collapsed hc
      | none =>
        rw [conclusion, hc]
        exact .record (List.getLast?_eq_none_iff.1 hc) (Value.records_iff.2 rfl)
    | false =>
      cases default with
      | some v => exact .default rfl
      | none => exact .failure rfl (Value.records_iff.2 rfl)

theorem sequence_of_course (h : Course separator start parts row matched stop) :
    sequence separator parts default start = some (conclusion default start row matched stop) := by
  have hfields : (Gathered.nothing.addRow row).fields = Keyed.ofEntries (named row) :=
    Gathered.fields_addRow .nothing row
  rw [sequence, sequenceFrom_of_course h, Option.bind_eq_bind, Option.bind_some]
  cases matched with
  | true =>
    have hcollapsed : (Gathered.nothing.addRow row).collapsed = (collapsing row).getLast? :=
      (Gathered.collapsed_addRow .nothing (success_of_course h rfl)).trans (Option.or_none)
    simp only [Gathered.outcome, Gathered.value, hcollapsed, hfields]
    rfl
  | false =>
    simp only [Gathered.outcome, hfields]
    rfl

/-- **A sequence gives what its course concludes in, and nothing else.** -/
theorem sequence_eq_some_iff : sequence separator parts default start = some a ↔
    ∃ row matched stop, Course separator start parts row matched stop ∧
      Concludes default start row matched stop a := by
  constructor
  · intro ha
    obtain ⟨b, hb, -⟩ := Option.bind_eq_some_iff.1 ha
    obtain ⟨row, matched, stop, hcourse⟩ := course_of_sequenceFrom hb
    rw [sequence_of_course hcourse] at ha
    exact ⟨row, matched, stop, hcourse, concludes_iff.2 (Option.some.inj ha).symm⟩
  · rintro ⟨row, matched, stop, hcourse, hconcludes⟩
    rw [sequence_of_course hcourse, concludes_iff.1 hconcludes]

end Step

namespace Parser

/-- **A sequence of nodes gives what its course concludes in.** Its nodes run in order, each from
where the one before it, or the separator between both, has stopped, until one of them or a
separator fails. What the sequence gives, and where it stops, is decided by that: the value of the
last node that collapses, or else the map of the named values; after a failure, the default at the
start, or else a failure in the same place with the map of the named values so far. -/
theorem sequence_iff (p : Parser) (depth : Nat) (nodes : List (Node p.size))
    (separator : Option (Node p.size)) (name : Option String) (default : Option Value)
    (start : Cursor) (a : Attempt) :
    (Node.sequence nodes separator name default).step Node.matchTerminal (p.call depth) start =
        some a ↔
      ∃ row matched stop,
        Step.Course (Node.stepOption Node.matchTerminal (p.call depth) separator) start
          (Node.parts Node.matchTerminal (p.call depth) nodes) row matched stop ∧
        Step.Concludes default start row matched stop a :=
  Step.sequence_eq_some_iff

/-- The rule `expr` of the sample three times; two of them have one name, and the first collapses. -/
def sampleNodes : List (Node sample.size) := [
  .reference sampleRule (some "first") true, .reference sampleRule (some "twin") false,
  .reference sampleRule (some "twin") false]

/-- The third of them fails: its value replaces that of the second one, and none collapses. -/
theorem sequence_iff_sample :
    (Node.sequence sampleNodes none none none).step Node.matchTerminal (sample.call 3)
      (.start "(x)x(") = some ⟨false, ⟨5, some '(', []⟩,
        .map [("first", .text "x"), ("twin", .map [])]⟩ ∧
    ∃ row stop, Step.Course none (.start "(x)x(")
        (Node.parts Node.matchTerminal (sample.call 3) sampleNodes) row false stop ∧
      Step.Concludes none (.start "(x)x(") row false stop ⟨false, ⟨5, some '(', []⟩,
        .map [("first", .text "x"), ("twin", .map [])]⟩ := by
  have hrun : (Node.sequence sampleNodes none none none).step Node.matchTerminal (sample.call 3)
      (.start "(x)x(") = some ⟨false, ⟨5, some '(', []⟩,
        .map [("first", .text "x"), ("twin", .map [])]⟩ := by
    decide +kernel
  obtain ⟨row, matched, stop, hcourse, hconcludes⟩ :=
    (sequence_iff sample 3 sampleNodes none none none _ _).1 hrun
  cases hconcludes with
  | failure h hv => exact ⟨hrun, row, _, hcourse, .failure h hv⟩

end Parser
end DataGrammar
