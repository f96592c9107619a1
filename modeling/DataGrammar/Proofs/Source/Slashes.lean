import DataGrammar.Proofs.Document.OfYaml
import DataGrammar.Proofs.Source.Agreement

/-!
# Patterns between slashes in all formats

Every format writes a pattern between slashes. The notation reads it piece by piece. Documents in
JSON and in YAML do so, too, but for the clashes of pieces, which the notation cannot have: there a
pair of backslashes loses one of them.

* `Document.describe?_of_slashes`: the description of a text between slashes.
* `Notation.describe_of_run`, `Notation.get?_of_definitions`: what is read in the notation.
* `GrammarFormat.exists_of_json`, `GrammarFormat.exists_of_yaml`: what is read in documents.
* `GrammarFormat.patterns_of_slashes`: how far this is what it should be.
-/

namespace DataGrammar

/-- A text between slashes. -/
def betweenSlashes (body : String) : String := .ofList ('/' :: (body.toList ++ ['/']))

theorem head?_betweenSlashes (body : String) :
    (betweenSlashes body).toList.head? = some '/' := by
  rw [betweenSlashes, String.toList_ofList]
  rfl

/-- **A text between slashes is a pattern in a document**, with what the reader of patterns makes of
its pieces. -/
theorem Document.describe?_of_slashes (body : String) :
    (Tree.text (betweenSlashes body)).describe? =
      some (.ok (.pattern (.ofList (loaded (pieces body.toList))))) := by
  have htext : describeText (betweenSlashes body) = .slashed body := by
    simp [describeText, betweenSlashes]
  rw [Tree.describe?, Tree.facets, htext, Description.slashed, unslash_eq_loaded]

namespace Notation

/-- Regular expressions that a run finds are read piece by piece. -/
theorem describe_of_run {p : Parser} (hp : parser = .ok p) {text : String} {o : Outcome}
    (h : p.run "document" text = .ok o) (hs : o.success = true)
    {root : List (String × Literal)} (hr : o.result.list?.bind Literal.properties? = some root)
    {body : String} (hb : body ∈ Literal.propertiesRegexes root) (rule : String) :
    (Literal.regex body).describe rule = .ok (.pattern (.ofList (reading body.toList))) := by
  rw [Literal.describe, slashed_of_units (units_of_run hp h hs hr body hb)]

/-- A rule of a text in the notation that is a regular expression is read piece by piece. -/
theorem get?_of_definitions {p : Parser} (hp : parser = .ok p) {name text : String}
    {d : Definitions} (h : definitions name text = .ok d) : ∃ o rules,
      p.run "document" text = .ok o ∧ Notation.rules o.result = .ok rules ∧
      ∀ rule body, (rule, .regex body) ∈ rules →
        d.get? rule = some (.pattern (.ofList (reading body.toList))) := by
  obtain ⟨o, rules, ho, hs, hrules, hdefine⟩ := exists_rules_of_definitions hp h
  refine ⟨o, rules, ho, hrules, fun rule body hm => ?_⟩
  obtain ⟨description, hdescribe, hget⟩ := (define_eq_ok.2 d hdefine).get? _ hm
  rw [Literal.describe, slashed_of_units (units_of_rules hp ho hs hrules hm)] at hdescribe
  cases hdescribe
  exact hget

end Notation

namespace GrammarFormat

open Document (rule?)

/-- A rule of a document in JSON is described by its value. -/
theorem exists_of_json {trees : List (String × Json)} {text : String}
    (ht : Json.Document trees text.toList) (hdepth : (Json.root trees).depth ≤ Json.maxDepth)
    {name : String} {d : Definitions} (h : json.definitions name text = .ok d) :
    ∃ rules, d = .ofList rules ∧
      List.Forall₂ (fun tree rule => rule? tree = some rule) trees rules := by
  have hread := Document.toOption_definitions ht hdepth
  have hd : (Document.definitions text).toOption = some d := by
    unfold definitions at h
    cases hdefinitions : Document.definitions text with
    | error e =>
      rw [hdefinitions] at h
      cases h
    | ok d' =>
      rw [hdefinitions] at h
      cases h
      rfl
  rw [hd, Document.ruleDefinitions?] at hread
  obtain ⟨rules, hrules, hlist⟩ := Option.map_eq_some_iff.1 hread.symm
  refine ⟨rules, hlist.symm, ?_⟩
  clear hread hlist hd h hdepth ht
  induction trees generalizing rules with
  | nil =>
    cases hrules
    exact .nil
  | cons tree trees ih =>
    rw [List.map_cons, Json.mapM_id_cons] at hrules
    obtain ⟨rule, hrule, hrules⟩ := Option.bind_eq_some_iff.1 hrules
    obtain ⟨rest, hrest, rfl⟩ := Option.map_eq_some_iff.1 hrules
    exact .cons hrule (ih rest hrest)

/-- What a rule of a document is if its value is a text between slashes. -/
theorem of_rule? {tree : String × Json} {rule : String × Description} (h : rule? tree = some rule) :
    rule.1 = tree.1 ∧ ∀ body, tree.2 = .text (betweenSlashes body) →
      rule.2 = .pattern (.ofList (loaded (pieces body.toList))) := by
  obtain ⟨d, hd, rfl⟩ := Option.map_eq_some_iff.1 h
  refine ⟨rfl, fun body hbody => ?_⟩
  have hdescribe := Document.describe?_of_slashes body
  rw [Document.Tree.describe?] at hdescribe
  rw [hbody, Document.Tree.ofJson, Document.Facets.describe?, hdescribe] at hd
  cases hd
  rfl

open Notation (Literal)

/-- **How patterns between slashes are read.** In the notation every regular expression that a run
finds, at any depth, is read piece by piece, whatever its pieces are. In documents every text
between slashes is a pattern, and its pieces are read so but for clashes: a pair of backslashes
loses one of them where a single slash comes next. Without a clash, and only then, all pieces are
read as they should be. -/
theorem patterns_of_slashes {p : Parser} (hp : Notation.parser = .ok p) :
    (∀ {text : String} {o : Outcome} {root : List (String × Literal)},
      p.run "document" text = .ok o → o.success = true →
      o.result.list?.bind Literal.properties? = some root →
      ∀ body ∈ Literal.propertiesRegexes root, ∀ rule,
        (Literal.regex body).describe rule = .ok (.pattern (.ofList (reading body.toList)))) ∧
    (∀ {name text : String} {d : Definitions}, native.definitions name text = .ok d →
      ∃ o rules, p.run "document" text = .ok o ∧ Notation.rules o.result = .ok rules ∧
        ∀ rule body, (rule, .regex body) ∈ rules →
          d.get? rule = some (.pattern (.ofList (reading body.toList)))) ∧
    (∀ body : String, (Document.Tree.text (betweenSlashes body)).describe? =
      some (.ok (.pattern (.ofList (loaded (pieces body.toList)))))) ∧
    (∀ {trees : List (String × Json)} {name text : String} {d : Definitions},
      Json.Document trees text.toList → (Json.root trees).depth ≤ Json.maxDepth →
      json.definitions name text = .ok d → ∃ rules, d = .ofList rules ∧
        List.Forall₂ (fun tree rule => rule.1 = tree.1 ∧
          ∀ body, tree.2 = .text (betweenSlashes body) →
            rule.2 = .pattern (.ofList (loaded (pieces body.toList)))) trees rules) ∧
    (∀ {name text : String} {d : Definitions} {q q' : Yaml.Properties} {key : Yaml.Node}
      {entries : List (Yaml.Node × Yaml.Node)}, yaml.definitions name text = .ok d →
      Yaml.Node.ofText? text = some (.map q [(key, .map q' entries)]) → ∃ rules, d = .ofList rules ∧
        List.Forall₂ (fun entry rule =>
          (∀ q style name, entry.1 = .scalar q style name → rule.1 = name) ∧
          ∀ q style body, entry.2 = .scalar q style (betweenSlashes body) →
            rule.2 = .pattern (.ofList (loaded (pieces body.toList)))) entries rules) ∧
    ∀ text : List Char, loaded (pieces text) = reading text ↔ ¬ IsClash (pieces text) := by
  refine ⟨fun h hs hr body hb rule => Notation.describe_of_run hp h hs hr hb rule,
    fun h => Notation.get?_of_definitions hp h, Document.describe?_of_slashes, ?_, ?_,
    fun text => loaded_eq_iff (pieces text)⟩
  · intro trees name text d ht hdepth h
    obtain ⟨rules, hd, hrules⟩ := exists_of_json ht hdepth h
    exact ⟨rules, hd, hrules.imp fun _ _ => of_rule?⟩
  · intro name text d q q' key entries h hroot
    have hread : Document.ofYaml? text = some d := by
      unfold definitions at h
      cases hyaml : Document.ofYaml? text with
      | none =>
        rw [hyaml] at h
        cases h
      | some d' =>
        rw [hyaml] at h
        cases h
        rfl
    obtain ⟨anchored, depth, rules, hd, hrules⟩ := Document.exists_of_ofYaml? hread hroot
    refine ⟨rules, hd, hrules.imp ?_⟩
    rintro entry rule ⟨left, left', hrule⟩
    obtain ⟨hname, hvalue⟩ := Document.Expand.of_readRule hrule
    refine ⟨hname, fun q style body hbody => ?_⟩
    have hdescribe := hvalue q style _ hbody (head?_betweenSlashes body)
    rw [Document.describe?_of_slashes] at hdescribe
    exact (Except.ok.inj (Option.some.inj hdescribe)).symm

/-- A document in which a pair of backslashes stands before a single slash. -/
def clashJson : String := "\x7b\"definitions\": \x7b\"path\": \"/a\\\\\\\\/b/\"\x7d\x7d"

/-- The pair of backslashes loses one of them, and the pattern is another one. -/
theorem definitions_clashJson :
    json.definitions "grammar" clashJson = .ok (.ofList [("path", .pattern "a\\/b")]) ∧
      String.ofList (reading "a\\\\/b".toList) = "a\\\\/b" ∧ "a\\/b" ≠ "a\\\\/b" := by
  decide +kernel

/-- A grammar whose only rule is the pattern `x`, in the notation. -/
def slashNotation : String := "\x7bdefinitions:\x7ba:/x/\x7d\x7d"

/-- The same grammar in JSON. -/
def slashJson : String := "\x7b\"definitions\":\x7b\"a\":\"/x/\"\x7d\x7d"

/-- The same grammar in YAML. -/
def slashYaml : String := "definitions:\n  a: /x/\n"

theorem document_slashJson :
    Json.Document [("a", .text (betweenSlashes "x"))] slashJson.toList := by
  have htext : ∀ {content : String}, _ → Json.TextWritten content _ := textWritten_of_plain
  have hrules : (Json.object [("a", .text (betweenSlashes "x"))]).Written _ :=
    .singleton (.intro (htext (by decide)) (htext (by decide)))
  have hroot : (Json.root [("a", .text (betweenSlashes "x"))]).Written _ :=
    .singleton (.intro (htext (by decide)) hrules)
  exact ⟨[], _, [], blank_nil, hroot, blank_nil, by decide⟩

/-- The node is that of a document with one rule, whose value is a text between slashes. -/
def isSlashed (body : String) : Yaml.Node → Bool
  | .map _ [(_, .map _ [(_, .scalar _ _ text)])] => text = betweenSlashes body
  | _ => false

theorem node_slashYaml : ∃ q q' q'' style key key', Yaml.Node.ofText? slashYaml =
    some (.map q [(key, .map q' [(key', .scalar q'' style (betweenSlashes "x"))])]) := by
  have h : (Yaml.Node.ofText? slashYaml).any (isSlashed "x") = true := by decide +kernel
  obtain ⟨n, hn, hslashed⟩ := (Option.any_eq_true ..).1 h
  rw [hn]
  unfold isSlashed at hslashed
  split at hslashed
  · rw [of_decide_eq_true hslashed]
    exact ⟨_, _, _, _, _, _, rfl⟩
  · cases hslashed

/-- What a run finds in the grammar. -/
def slashOutcome : Outcome :=
  ⟨true, 21, .list [Notation.entry ("definitions",
    .map [("Object", .list [Notation.entry ("a", .map [("Regex", .text "x")])])])]⟩

theorem run_slashNotation {p : Parser} (hp : Notation.parser = .ok p) :
    p.run "document" slashNotation = .ok slashOutcome := by
  rw [Parser.run_eq_call hp]
  decide +kernel

theorem patterns_of_slashes_sample : ∃ p, Notation.parser = .ok p ∧
    p.run "document" slashNotation = .ok slashOutcome ∧
    (Literal.regex "x").describe "a" = .ok (.pattern "x") ∧
    (∃ rules, json.definitions "grammar" slashJson = .ok (.ofList rules) ∧
      rules = [("a", .pattern "x")]) ∧
    ∃ rules, yaml.definitions "grammar" slashYaml = .ok (.ofList rules) ∧
      rules.map Prod.snd = [.pattern "x"] := by
  obtain ⟨p, hp⟩ := Notation.exists_parser_eq
  obtain ⟨hfound, -, -, hjson, hyaml, -⟩ := patterns_of_slashes hp
  have hrun := run_slashNotation hp
  have hread : String.ofList (reading "x".toList) = "x" ∧
      String.ofList (loaded (pieces "x".toList)) = "x" := by decide +kernel
  refine ⟨p, hp, hrun, ?_, ?_, ?_⟩
  · have hregexes : (slashOutcome.result.list?.bind Literal.properties?).map
        Literal.propertiesRegexes = some ["x"] := by decide +kernel
    obtain ⟨root, hroot, hbodies⟩ := Option.map_eq_some_iff.1 hregexes
    have hmem : "x" ∈ Literal.propertiesRegexes root := by
      rw [hbodies]
      exact List.mem_singleton.2 rfl
    have hdescribe := hfound hrun rfl hroot "x" hmem "a"
    rwa [hread.1] at hdescribe
  · have hd : json.definitions "grammar" slashJson = .ok (.ofList [("a", .pattern "x")]) := by
      decide +kernel
    obtain ⟨rules, hrules, hforall⟩ := hjson document_slashJson (by decide) hd
    refine ⟨rules, hrules ▸ hd, ?_⟩
    obtain _ | ⟨⟨hname, hpattern⟩, _ | _⟩ := hforall
    rename_i rule
    have hx := hpattern "x" rfl
    rw [hread.2] at hx
    exact congrArg (fun rule => [rule]) (Prod.ext hname hx)
  · have hd : yaml.definitions "grammar" slashYaml = .ok (.ofList [("a", .pattern "x")]) := by
      decide +kernel
    obtain ⟨q, q', q'', style, key, key', hnode⟩ := node_slashYaml
    obtain ⟨rules, hrules, hforall⟩ := hyaml hd hnode
    refine ⟨rules, hrules ▸ hd, ?_⟩
    obtain _ | ⟨⟨-, hpattern⟩, _ | _⟩ := hforall
    have hx := hpattern q'' style "x" rfl
    rw [hread.2] at hx
    exact congrArg (fun description => [description]) hx

end GrammarFormat
end DataGrammar
