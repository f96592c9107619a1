import DataGrammar.Proofs.Keyed
import DataGrammar.Proofs.Text.Order

/-!
# The first defect of a grammar

A grammar compiles if it has no defect, and otherwise its first defect is reported. The places at
which there can be one are its patterns and its references, in the order in which they are read:
rules by name, the parts of a rule from left to right, a separator after what it separates.

* `Description.sites`, `Definitions.ruleSites`: those places in their order.
* `Site.Sound`, `Site.Defect`: what a place has to be like, and what is reported otherwise.
* `Description.discard_compile`, `Parser.discard_compileRules`: compiling looks at the places one
  after the other.
* `Parser.compile_ofList`: a grammar compiles if all its places are sound, and its first place that
  is not is reported otherwise, in whatever order its rules have been defined.
-/

namespace DataGrammar

/-- A place of a grammar at which there can be a defect. -/
inductive Site where
  | pattern (source : String)
  | reference (target : String)
  deriving DecidableEq, Repr

namespace Site

variable {rule : String} {names : List String}

/-- Whether a place is as it has to be in a grammar with rules `names`. -/
def Sound (names : List String) : Site → Prop
  | .pattern source => ∃ p, Pattern.compile source = .ok p
  | .reference target => target ≠ "" ∧ target ∈ names

/-- What is reported of a place of `rule` that is not as it has to be. -/
inductive Defect (rule : String) (names : List String) : Site → Diagnostic → Prop
  /-- The pattern does not compile. -/
  | pattern {source : String} {refusal : Pattern.Refusal}
      (h : Pattern.compile source = .error refusal) :
      Defect rule names (.pattern source) (Description.patternDiagnostic rule source refusal)
  /-- The reference names nothing. -/
  | nameless : Defect rule names (.reference "")
      (Cause.invalidDescription rule "a rule reference needs an identifier before ':'")
  /-- The reference names a rule that is not defined. -/
  | undefined {target : String} (hne : target ≠ "") (h : target ∉ names) :
      Defect rule names (.reference target) (Cause.unresolvedReference rule target)

/-- The order of the names does not count, and neither does how often they are listed. -/
theorem sound_congr {more : List String} (h : ∀ name, name ∈ names ↔ name ∈ more) (x : Site) :
    x.Sound names ↔ x.Sound more := by
  cases x with
  | pattern source => exact Iff.rfl
  | reference target => exact and_congr_right fun _ => h target

theorem Defect.congr {more : List String} (h : ∀ name, name ∈ names ↔ name ∈ more) {x : Site}
    {e : Diagnostic} (hx : x.Defect rule names e) : x.Defect rule more e := by
  cases hx with
  | pattern hp => exact .pattern hp
  | nameless => exact .nameless
  | undefined he hm => exact .undefined he (mt (h _).2 hm)

/-- Look at a place of `rule`. -/
def check (rule : String) (names : List String) : Site → Except Diagnostic Unit
  | .pattern source =>
    match Pattern.compile source with
    | .ok _ => .ok ()
    | .error refusal => .error (Description.patternDiagnostic rule source refusal)
  | .reference target =>
    if target = "" then
      .error (Cause.invalidDescription rule "a rule reference needs an identifier before ':'")
    else if target ∈ names then .ok ()
    else .error (Cause.unresolvedReference rule target)

theorem check_eq_ok_iff {x : Site} : x.check rule names = .ok () ↔ x.Sound names := by
  cases x with
  | pattern source =>
    simp only [check, Sound]
    cases Pattern.compile source <;> simp
  | reference target =>
    simp only [check, Sound]
    by_cases he : target = ""
    · simp [he]
    · by_cases hm : target ∈ names <;> simp [he, hm]

theorem check_eq_error_iff {x : Site} {e : Diagnostic} :
    x.check rule names = .error e ↔ x.Defect rule names e := by
  constructor
  · intro h
    cases x with
    | pattern source =>
      simp only [check] at h
      split at h
      · cases h
      · next hp =>
        cases h
        exact .pattern hp
    | reference target =>
      simp only [check] at h
      split at h
      · next he =>
        cases h
        exact he ▸ .nameless
      · next he =>
        split at h
        · cases h
        · next hm =>
          cases h
          exact .undefined he hm
  · intro h
    cases h with
    | pattern hp => simp only [check, hp]
    | nameless => rw [check, if_pos rfl]
    | undefined he hm => rw [check, if_neg he, if_neg hm]

end Site

/-! ### Looking at one thing after the other -/

section

variable {ε α β : Type} {f : α → Except ε Unit}

theorem discard_bind {x : Except ε α} {g : α → Except ε β} {y : Except ε Unit}
    (h : ∀ a, discard (g a) = y) : discard (x >>= g) = discard x >>= fun _ => y := by
  cases x with
  | error e => rfl
  | ok a => exact h a

theorem discard_bind_pure (x : Except ε α) (g : α → β) :
    discard (x >>= fun a => pure (g a)) = discard x := by
  cases x <;> rfl

theorem discard_eq_ok_iff {x : Except ε α} : discard x = .ok () ↔ ∃ a, x = .ok a := by
  cases x with
  | error e => exact ⟨nofun, nofun⟩
  | ok a => exact ⟨fun _ => ⟨a, rfl⟩, fun _ => rfl⟩

theorem discard_eq_error_iff {x : Except ε α} {e : ε} : discard x = .error e ↔ x = .error e := by
  cases x with
  | error e' =>
    constructor
    · intro h
      cases h
      rfl
    · intro h
      cases h
      rfl
  | ok a => exact ⟨nofun, nofun⟩

theorem forM_eq_ok_iff {l : List α} : forM l f = .ok () ↔ ∀ a ∈ l, f a = .ok () := by
  induction l with
  | nil => exact ⟨fun _ => List.forall_mem_nil _, fun _ => rfl⟩
  | cons a l ih =>
    rw [List.forM_cons, List.forall_mem_cons, ← ih]
    cases f a with
    | error e => exact ⟨nofun, nofun⟩
    | ok _ => exact ⟨fun h => ⟨rfl, h⟩, And.right⟩

/-- What goes wrong is the first thing that does. -/
theorem forM_eq_error_iff {l : List α} {e : ε} :
    forM l f = .error e ↔ ∃ before a after, l = before ++ a :: after ∧
      (∀ b ∈ before, f b = .ok ()) ∧ f a = .error e := by
  induction l with
  | nil =>
    refine ⟨nofun, ?_⟩
    rintro ⟨before, a, after, h, -⟩
    exact absurd h.symm (List.append_ne_nil_of_right_ne_nil _ (List.cons_ne_nil _ _))
  | cons a l ih =>
    rw [List.forM_cons]
    constructor
    · intro h
      cases ha : f a with
      | error e' =>
        rw [ha] at h
        cases h
        exact ⟨[], a, l, rfl, List.forall_mem_nil _, ha⟩
      | ok _ =>
        rw [ha] at h
        obtain ⟨before, b, after, rfl, hbefore, hb⟩ := ih.1 h
        exact ⟨a :: before, b, after, rfl, List.forall_mem_cons.2 ⟨ha, hbefore⟩, hb⟩
    · rintro ⟨before, b, after, hl, hbefore, hb⟩
      cases before with
      | nil =>
        obtain ⟨rfl, rfl⟩ := List.cons.inj hl
        rw [hb]
        rfl
      | cons _ before =>
        obtain ⟨rfl, rfl⟩ := List.cons.inj hl
        obtain ⟨ha, hbefore⟩ := List.forall_mem_cons.1 hbefore
        rw [ha]
        exact ih.2 ⟨before, b, after, rfl, hbefore, hb⟩

end

/-! ### The places of a description -/

namespace Description

variable {rule : String} {names : List String}

mutual

/-- The patterns and references of a description, in reading order. -/
def sites : Description → List Site
  | .pattern source => [.pattern source]
  | .reference ref => [.reference ref.target]
  | .sequence parts separator _ _ => sitesList parts ++ sitesOption separator
  | .choice branches _ _ _ => sitesList branches
  | .repetition item separator _ _ _ => item.sites ++ sitesOption separator

/-- The patterns and references of some descriptions. -/
def sitesList : List Description → List Site
  | [] => []
  | d :: ds => d.sites ++ sitesList ds

/-- The patterns and references of a separator. -/
def sitesOption : Option Description → List Site
  | none => []
  | some d => d.sites

end

theorem indexOf?_eq_none_iff {name : String} : indexOf? name names = none ↔ name ∉ names := by
  induction names with
  | nil => simp [indexOf?]
  | cons n names ih =>
    rw [indexOf?, List.mem_cons, not_or]
    split
    · next he => simp [he]
    · next he => rw [Option.map_eq_none_iff, ih, and_iff_right he]

theorem discard_compileReference (ref : Reference) :
    discard (compileReference rule names ref) = (Site.reference ref.target).check rule names := by
  rw [compileReference, Site.check]
  split
  · rfl
  · cases h : indexOf? ref.target names with
    | none => rw [if_neg (indexOf?_eq_none_iff.1 h)]; rfl
    | some i =>
      have hm : ref.target ∈ names := by
        rw [← getElem_of_indexOf? h]
        exact List.get_mem names i
      rw [if_pos hm]
      rfl

mutual

/-- **Compiling a description looks at its places one after the other.** -/
theorem discard_compile (d : Description) :
    discard (d.compile rule names) = forM d.sites (Site.check rule names) := by
  cases d with
  | pattern source =>
    rw [compile, sites, List.forM_cons, List.forM_nil, bind_pure_unit, Site.check]
    cases Pattern.compile source <;> rfl
  | reference ref =>
    rw [compile, sites, List.forM_cons, List.forM_nil, bind_pure_unit, discard_compileReference]
  | sequence parts separator name default =>
    rw [compile, sites, List.forM_append, ← discard_compileList, ← discard_compileOption]
    exact discard_bind fun nodes => discard_bind_pure _ _
  | choice branches nesting name default =>
    rw [compile, sites, ← discard_compileList]
    exact discard_bind_pure _ _
  | repetition item separator least most name =>
    rw [compile, sites, List.forM_append, ← discard_compile, ← discard_compileOption]
    exact discard_bind fun node => discard_bind_pure _ _

theorem discard_compileList (ds : List Description) :
    discard (compileList rule names ds) = forM (sitesList ds) (Site.check rule names) := by
  cases ds with
  | nil => rfl
  | cons d ds =>
    rw [compileList, sitesList, List.forM_append, ← discard_compile, ← discard_compileList]
    exact discard_bind fun node => discard_bind_pure _ _

theorem discard_compileOption (separator : Option Description) :
    discard (compileOption rule names separator) =
      forM (sitesOption separator) (Site.check rule names) := by
  cases separator with
  | none => rfl
  | some d =>
    rw [compileOption, sitesOption, ← discard_compile]
    exact discard_bind_pure _ _

end

end Description

/-! ### The places of a grammar -/

/-- A place and the rule that it belongs to. -/
structure RuleSite where
  rule : String
  site : Site
  deriving DecidableEq, Repr

namespace RuleSite

/-- Whether a place is as it has to be in a grammar with rules `names`. -/
def Sound (names : List String) (place : RuleSite) : Prop := place.site.Sound names

/-- What is reported of a place that is not as it has to be. -/
def Defect (names : List String) (place : RuleSite) : Diagnostic → Prop :=
  place.site.Defect place.rule names

/-- Look at a place. -/
def check (names : List String) (place : RuleSite) : Except Diagnostic Unit :=
  place.site.check place.rule names

end RuleSite

namespace Definitions

/-- The patterns and references of rules, in the order of the rules. -/
def ruleSitesOf (rules : List (String × Description)) : List RuleSite :=
  rules.flatMap fun rule => rule.2.sites.map (RuleSite.mk rule.1)

/-- The patterns and references of a grammar, in the order in which they are read. -/
def ruleSites (d : Definitions) : List RuleSite := ruleSitesOf d.rules

end Definitions

namespace Parser

variable {names : List String}

/-- **Compiling rules looks at their places one after the other.** -/
theorem discard_compileRules (rules : List (String × Description)) :
    discard (compileRules names rules) =
      forM (Definitions.ruleSitesOf rules) (RuleSite.check names) := by
  induction rules with
  | nil => rfl
  | cons rule rules ih =>
    obtain ⟨name, d⟩ := rule
    have hrule : discard (d.compile name names) =
        forM (d.sites.map (RuleSite.mk name)) (RuleSite.check names) := by
      rw [List.forM_map]
      exact d.discard_compile
    rw [Definitions.ruleSitesOf, List.flatMap_cons, List.forM_append, ← hrule,
      ← Definitions.ruleSitesOf, ← ih]
    exact discard_bind fun node => discard_bind_pure _ _

theorem discard_compile (d : Definitions) (maxDepth : Nat) :
    discard (compile d maxDepth) = forM d.ruleSites (RuleSite.check d.names) := by
  rw [Definitions.ruleSites, ← discard_compileRules]
  exact discard_bind_pure _ _

/-- A grammar compiles if and only if all its places are sound. -/
theorem exists_compile_iff_sound {d : Definitions} {maxDepth : Nat} :
    (∃ p, compile d maxDepth = .ok p) ↔ ∀ place ∈ d.ruleSites, place.Sound d.names := by
  rw [← discard_eq_ok_iff, discard_compile, forM_eq_ok_iff]
  exact forall₂_congr fun place _ => Site.check_eq_ok_iff

/-- What is reported of a grammar is the defect of its first place that is not sound. -/
theorem compile_eq_error_iff {d : Definitions} {maxDepth : Nat} {e : Diagnostic} :
    compile d maxDepth = .error e ↔ ∃ before place after, d.ruleSites = before ++ place :: after ∧
      (∀ b ∈ before, b.Sound d.names) ∧ place.Defect d.names e := by
  rw [← discard_eq_error_iff, discard_compile, forM_eq_error_iff]
  simp only [RuleSite.check, RuleSite.Sound, RuleSite.Defect, Site.check_eq_ok_iff,
    Site.check_eq_error_iff]

/-- **Compiling fails where a grammar has a defect, and reports the first one.** Rules may be defined
in any order, and the last definition of each name stays. Their grammar compiles if and only if each
of its patterns does and each of its references names one of them. Otherwise the first place that is
not sound is reported, in the order of the bytes of the names and, within a rule, in reading order. -/
theorem compile_ofList (rules : List (String × Description)) (maxDepth : Nat) :
    ((∃ p, compile (.ofList rules) maxDepth = .ok p) ↔
      ∀ place ∈ (Definitions.ofList rules).ruleSites, place.Sound (rules.map Prod.fst)) ∧
    (∀ e, compile (.ofList rules) maxDepth = .error e ↔ ∃ before place after,
      (Definitions.ofList rules).ruleSites = before ++ place :: after ∧
      (∀ b ∈ before, b.Sound (rules.map Prod.fst)) ∧ place.Defect (rules.map Prod.fst) e) ∧
    ((Definitions.ofList rules).rules.Pairwise fun a b => bytes a.1 < bytes b.1) ∧
    (∀ name d, (name, d) ∈ (Definitions.ofList rules).rules ↔ Keyed.Stays rules name d) ∧
    ∀ more, (∀ name d, Keyed.Stays rules name d ↔ Keyed.Stays more name d) →
      compile (.ofList more) maxDepth = compile (.ofList rules) maxDepth := by
  have hnames : ∀ name, name ∈ (Definitions.ofList rules).names ↔ name ∈ rules.map Prod.fst :=
    fun name => Keyed.mem_keys_ofEntries
  have hsound (place : RuleSite) :
      place.Sound (Definitions.ofList rules).names ↔ place.Sound (rules.map Prod.fst) :=
    place.site.sound_congr hnames
  have hdefect (place : RuleSite) (e : Diagnostic) :
      place.Defect (Definitions.ofList rules).names e ↔ place.Defect (rules.map Prod.fst) e :=
    ⟨Site.Defect.congr hnames, Site.Defect.congr fun name => (hnames name).symm⟩
  refine ⟨?_, fun e => ?_, ?_, ?_, ?_⟩
  · rw [exists_compile_iff_sound]
    exact forall₂_congr fun place _ => hsound place
  · rw [compile_eq_error_iff]
    simp only [hsound, hdefect]
  · exact (Definitions.ofList rules).ascending.imp bytes_lt
  · exact fun name d => Keyed.mem_ofEntries_iff
  · intro more h
    have heq : Definitions.ofList rules = Definitions.ofList more :=
      Definitions.ext (Keyed.ofEntries_congr h)
    rw [heq]

/-- The rule `a` has two defects, of which the pattern of the separator comes first. The definitions
of `a` and `b` that are replaced do not count. -/
def sampleDefective : List (String × Description) := [
  ("b", .ref ""),
  ("c", .pattern "["),
  ("a", .pattern "("),
  ("b", .ref "a"),
  ("a", .choice [.series [.ref "b", .repetition (.pattern "x") (some (.pattern "(")) 0 none none],
    .ref "nowhere"] .none none none)]

/-- The definitions that count, in another order. -/
def sampleReordered : List (String × Description) := [
  ("a", .choice [.series [.ref "b", .repetition (.pattern "x") (some (.pattern "(")) 0 none none],
    .ref "nowhere"] .none none none),
  ("c", .pattern "["),
  ("b", .ref "a")]

theorem stays_sampleReordered (name : String) (d : Description) :
    Keyed.Stays sampleDefective name d ↔ Keyed.Stays sampleReordered name d := by
  rw [Keyed.stays_iff, Keyed.stays_iff]
  by_cases ha : name = "a"
  · subst ha
    rfl
  · by_cases hb : name = "b"
    · subst hb
      rfl
    · by_cases hc : name = "c"
      · subst hc
        rfl
      · simp [sampleDefective, sampleReordered, ha, hb, hc]

theorem compile_ofList_sample :
    compile (.ofList sampleDefective) 3 =
      .error (Description.patternDiagnostic "a" "(" (.fault .groupUnclosed ⟨0, 1⟩)) ∧
    (∀ name d, Keyed.Stays sampleDefective name d ↔ Keyed.Stays sampleReordered name d) ∧
    compile (.ofList sampleReordered) 3 = compile (.ofList sampleDefective) 3 := by
  have hplaces : (Definitions.ofList sampleDefective).ruleSites =
      [⟨"a", .reference "b"⟩, ⟨"a", .pattern "x"⟩] ++ ⟨"a", .pattern "("⟩ ::
        [⟨"a", .reference "nowhere"⟩, ⟨"b", .reference "a"⟩, ⟨"c", .pattern "["⟩] := by
    decide +kernel
  have hcheck : ∀ b ∈ ([⟨"a", .reference "b"⟩, ⟨"a", .pattern "x"⟩] : List RuleSite),
      b.check (sampleDefective.map Prod.fst) = .ok () := by
    decide +kernel
  have hdefect : (⟨"a", .pattern "("⟩ : RuleSite).Defect (sampleDefective.map Prod.fst)
      (Description.patternDiagnostic "a" "(" (.fault .groupUnclosed ⟨0, 1⟩)) :=
    Site.check_eq_error_iff.1 (by decide +kernel)
  have h := compile_ofList sampleDefective 3
  exact ⟨(h.2.1 _).2
      ⟨_, _, _, hplaces, fun b hb => Site.check_eq_ok_iff.1 (hcheck b hb), hdefect⟩,
    stays_sampleReordered, h.2.2.2.2 _ stays_sampleReordered⟩

end Parser
end DataGrammar
