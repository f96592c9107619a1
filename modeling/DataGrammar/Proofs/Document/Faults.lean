import DataGrammar.Proofs.Json.Document
import DataGrammar.Proofs.Json.Faults

/-!
# Where grammar documents have faults

Faults of a grammar document lie where faults of its JSON text may lie: the reader of documents
stops for them before the cursor only, and the cursor stands behind a character of one byte.

* `Document.triple_readDocument`: the reader.
* `Document.sited_of_definitions`: where the faults lie.
-/

namespace DataGrammar

namespace Document

open Read Cursor
open Json (Asked triple_loop triple_readEntry)

variable {text : String} {α : Type} {pre : Cursor → Prop} {post : α → Cursor → Prop}

/-- The error lies at a place of the text where it may lie. -/
def Sited (text : String) (e : Error) : Prop :=
  Placed (e.fault = .json .invalidEscape) text.toList e.offset

/-! ### Steps -/

/-- Steps of the reader of JSON are steps of the reader of documents. -/
theorem triple_json {step : Json.Read α} (h : Triple (Json.Sited text) pre step post) :
    Triple (Sited text) pre (json step) post := by
  intro c hc
  have hstep := h c hc
  unfold json
  cases hs : step c with
  | ok r =>
    rw [hs] at hstep
    exact hstep
  | error e =>
    rw [hs] at hstep
    exact Placed.mono (congrArg Fault.json) hstep

theorem triple_token? : Triple (Sited text) (Narrow text) (json Json.Read.token?) (Facing text) :=
  triple_json Json.triple_token?

theorem triple_pass {d : Char} (hd : d.utf8Size = 1) :
    Triple (Sited text) (Facing text (some d)) (json (Json.Read.pass 1)) fun _ => Narrow text :=
  triple_json (Json.triple_pass_facing hd)

theorem triple_failNext {fault : Json.Fault} (h : ∀ c, pre c → At text c) :
    Triple (Sited text) pre (json (Json.Read.failNext fault) : Read α) post :=
  triple_json (Json.triple_failNext h)

theorem triple_fail {fault : Fault} (h : ∀ c, pre c → Narrow text c) :
    Triple (Sited text) pre (fail fault : Read α) post := fun c hc => (h c hc).placed

theorem triple_failInMap {fault : Fault} :
    Triple (Sited text) (Narrow text) (failInMap fault : Read α) post := by
  unfold failInMap
  refine Triple.bind triple_token? fun next => ?_
  dsimp only
  split
  · next h =>
    subst h
    exact Triple.bind (triple_pass rfl) fun _ => triple_fail fun _ h => h
  · exact triple_fail fun _ h => h.1

theorem triple_failInList {fault : Fault} :
    Triple (Sited text) (Narrow text) (failInList fault : Read α) post := by
  unfold failInList
  refine Triple.bind triple_token? fun next => ?_
  dsimp only
  split
  · exact Triple.bind (triple_pass rfl) fun _ => triple_fail fun _ h => h
  · have hskip : Triple (Json.Sited text) (Facing text (some ','))
        (do Json.Read.pass 1; let _ ← Json.Read.token?) fun _ => Narrow text :=
      Triple.bind (Json.triple_pass_facing rfl) fun _ =>
        Triple.map (fun _ => ()) (Json.triple_token?.ensure fun _ _ h => h.1)
    exact Triple.bind (triple_json hskip) fun _ => triple_fail fun _ h => h
  · exact triple_fail fun _ h => h.1

theorem triple_failType {expected : String} :
    Triple (Sited text) (Narrow text) (failType expected : Read α) post := by
  unfold failType
  refine Triple.bind triple_token? fun next => ?_
  split
  · exact triple_fail fun _ h => h.1
  · exact triple_fail fun _ h => h.1
  · exact Triple.bind ((triple_json (Json.triple_readValue 0)).require fun _ h => h.1) fun _ =>
      triple_fail fun _ h => h

/-! ### Documents -/

theorem triple_readDescription (depth : Nat) :
    Triple (Sited text) (Narrow text) (readDescription depth) fun _ => Narrow text := by
  unfold readDescription
  refine Triple.bind (triple_json (Json.triple_readValue depth)) fun j => ?_
  split
  · exact Triple.pure fun _ h => h
  · exact triple_failInMap
  · exact triple_failInMap

theorem triple_firstToken :
    Triple (Sited text) (Narrow text) firstToken fun d => Facing text (some d) := by
  unfold firstToken
  refine Triple.bind triple_token? fun next => ?_
  split
  · exact Triple.pure fun _ h => h
  · exact triple_failNext fun _ h => h.1.1

theorem triple_anotherKey (first : Bool) :
    Triple (Sited text) (Narrow text) (json (Json.anotherKey first)) (Asked text '}') :=
  triple_json (Json.triple_anotherKey first)

theorem triple_readRules (depth fuel : Nat) (first : Bool) :
    Triple (Sited text) (Narrow text) (readDefinitions.readRules depth fuel first)
      fun _ => Facing text (some '}') :=
  triple_loop (loops_readRules depth) triple_anotherKey
    (triple_readEntry (triple_json Json.triple_readString) (triple_json Json.triple_expectColon)
      (triple_readDescription depth))
    (fun _ => triple_failNext fun _ h => h.1) fuel first

theorem triple_readDefinitions (depth : Nat) :
    Triple (Sited text) (Narrow text) (readDefinitions depth) fun _ => Narrow text := by
  unfold readDefinitions
  refine Triple.bind triple_firstToken fun d => ?_
  split
  · next h =>
    subst h
    refine Triple.bind (triple_pass rfl) fun _ => ?_
    refine Triple.bind Triple.get fun c => ?_
    refine Triple.bind ((triple_readRules depth _ _).require fun _ h => h.2) fun rules => ?_
    exact Triple.map (fun _ => Definitions.ofList rules) (triple_pass rfl)
  · exact triple_failType.require fun _ h => h.1

theorem triple_readFields (depth fuel : Nat) (first : Bool) (found : Option Definitions) :
    Triple (Sited text) (Narrow text) (readFields depth fuel first found)
      fun _ => Facing text (some '}') := by
  induction fuel generalizing first found with
  | zero => exact triple_failNext fun _ h => h.1
  | succ fuel ih =>
    unfold readFields
    refine Triple.bind (triple_anotherKey first) fun another => ?_
    split
    · refine Triple.bind ((triple_json Json.triple_readString).require fun _ h => h.1) fun key => ?_
      split
      · exact triple_failInMap
      · split
        · exact triple_failInMap
        · refine Triple.bind (triple_json Json.triple_expectColon) fun _ => ?_
          exact Triple.bind (triple_readDefinitions depth) fun d => ih false (some d)
    · next hlast =>
      split
      · exact Triple.pure fun c h => ⟨h.1, h.2 (Bool.eq_false_iff.2 hlast)⟩
      · exact triple_failInMap.require fun _ h => h.1

theorem triple_closeList : Triple (Sited text) (Narrow text) closeList fun _ => Narrow text := by
  unfold closeList
  refine Triple.bind triple_token? fun next => ?_
  split
  · exact triple_pass rfl
  · refine triple_json (Triple.bind (Json.triple_pass_facing rfl) fun _ => ?_)
    exact Triple.bind Json.triple_token? fun next => Json.triple_failNext fun _ h => h.1.1
  · exact triple_failNext fun _ h => h.1.1
  · exact triple_failNext fun _ h => h.1.1

/-- **Documents are read up to where they end**, behind a character of one byte. -/
theorem triple_readDocument :
    Triple (Sited text) (Narrow text) readDocument fun _ => Narrow text := by
  unfold readDocument
  refine Triple.bind triple_firstToken fun d => ?_
  split
  · refine Triple.bind (triple_pass rfl) fun _ => ?_
    refine Triple.bind Triple.get fun c => ?_
    refine Triple.bind ((triple_readFields _ _ _ _).require fun _ h => h.2) fun d => ?_
    exact Triple.map (fun _ => d) (triple_pass rfl)
  · refine Triple.bind (triple_pass rfl) fun _ => ?_
    refine Triple.bind (triple_json (Json.triple_anotherItem true)) fun another => ?_
    split
    · refine Triple.bind ((triple_readDefinitions _).require fun _ h => h.1) fun d => ?_
      exact Triple.map (fun _ => d) triple_closeList
    · exact triple_failInList.require fun _ h => h.1
  · exact triple_failType.require fun _ h => h.1

/-- **Faults lie where they may lie.** -/
theorem sited_of_definitions {e : Error} (h : definitions text = .error e) : Sited text e := by
  have hread : Triple (Sited text) (Narrow text)
      (do let d ← readDocument; json Json.expectEnd; return d) fun _ => Narrow text :=
    Triple.bind triple_readDocument fun d =>
      Triple.map (fun _ => d) (triple_json Json.triple_expectEnd)
  exact hread.of_run' ⟨at_start text, nofun⟩ h

end Document
end DataGrammar
