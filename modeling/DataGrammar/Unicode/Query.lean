import DataGrammar.Unicode.Age
import DataGrammar.Unicode.Class
import DataGrammar.Unicode.Property
import DataGrammar.Unicode.Script
/-!
# Queries for sets of characters by name

Names of properties and of their values are compared loosely: case, blanks, hyphens, underscores
and a leading `is` do not count.

* `Query.named` finds a set by the name of a binary property, a general category or a script.
* `Query.valued` finds a set by the name of a property and one of its values.
-/

namespace DataGrammar.Unicode.Query

/-- Why a name stands for no set. -/
inductive Fault where
  | unknownProperty
  | unknownValue
  deriving DecidableEq, Repr

/-- The form in which names are compared; characters beyond ASCII are dropped. -/
def looseName (name : String) : String :=
  let chars := name.toList
  let startsWithIs := ((chars.take 2).map Char.toLower) == ['i', 's']
  let rest := if startsWithIs then chars.drop 2 else chars
  let kept := (rest.filter fun c =>
    c.toNat < 0x80 && c != ' ' && c != '_' && c != '-').map Char.toLower
  if startsWithIs && kept == ['c'] then "isc" else .ofList kept

/-- The loose names of one category, or of `unassigned`. -/
def categoryNames : Category → List String
  | .uppercaseLetter => ["lu", "uppercaseletter"]
  | .lowercaseLetter => ["ll", "lowercaseletter"]
  | .titlecaseLetter => ["lt", "titlecaseletter"]
  | .modifierLetter => ["lm", "modifierletter"]
  | .otherLetter => ["lo", "otherletter"]
  | .nonspacingMark => ["mn", "nonspacingmark"]
  | .spacingMark => ["mc", "spacingmark"]
  | .enclosingMark => ["me", "enclosingmark"]
  | .decimalNumber => ["nd", "decimalnumber", "digit"]
  | .letterNumber => ["nl", "letternumber"]
  | .otherNumber => ["no", "othernumber"]
  | .connectorPunctuation => ["pc", "connectorpunctuation"]
  | .dashPunctuation => ["pd", "dashpunctuation"]
  | .openPunctuation => ["ps", "openpunctuation"]
  | .closePunctuation => ["pe", "closepunctuation"]
  | .initialPunctuation => ["pi", "initialpunctuation"]
  | .finalPunctuation => ["pf", "finalpunctuation"]
  | .otherPunctuation => ["po", "otherpunctuation"]
  | .mathSymbol => ["sm", "mathsymbol"]
  | .currencySymbol => ["sc", "currencysymbol"]
  | .modifierSymbol => ["sk", "modifiersymbol"]
  | .otherSymbol => ["so", "othersymbol"]
  | .spaceSeparator => ["zs", "spaceseparator"]
  | .lineSeparator => ["zl", "lineseparator"]
  | .paragraphSeparator => ["zp", "paragraphseparator"]
  | .control => ["cc", "control", "cntrl"]
  | .format => ["cf", "format"]
  | .privateUse => ["co", "privateuse"]
  | .unassigned => ["cn", "unassigned"]

/-- Sets of several categories, by their loose names. -/
def categoryGroup? (name : String) : Option CharSet :=
  if name ∈ ["any"] then some .all
  else if name ∈ ["assigned"] then some Category.unassigned.members.compl
  else if name ∈ ["ascii"] then some (.interval 0 0x7F)
  else if name ∈ ["l", "letter"] then some (Category.union Category.letters)
  else if name ∈ ["lc", "casedletter"] then some (Category.union Category.casedLetters)
  else if name ∈ ["m", "mark", "combiningmark"] then some (Category.union Category.marks)
  else if name ∈ ["n", "number"] then some (Category.union Category.numbers)
  else if name ∈ ["p", "punctuation", "punct"] then some (Category.union Category.punctuation)
  else if name ∈ ["s", "symbol"] then some (Category.union Category.symbols)
  else if name ∈ ["z", "separator"] then some (Category.union Category.separators)
  else if name ∈ ["c", "other"] then some Category.other
  else none

/-- The set of a general category, or of a group of them. -/
def category? (name : String) : Option CharSet :=
  match categoryGroup? name with
  | some s => some s
  | none =>
    ((Category.unassigned :: Category.assigned).find? fun c => name ∈ categoryNames c).map
      Category.members

/-- The script of a loose name. -/
def script? (name : String) : Option Script :=
  Script.all.find? fun s => name ∈ s.names

/-- Names of values that the standard knows but that no character has. -/
def emptyValues : List String :=
  ["cs", "surrogate", "zzzz", "unknown", "hrkt", "katakanaorhiragana"]

/-- Loose names of properties that are not binary or not supported. -/
def otherProperties : List String :=
  ["age", "bc", "bidiclass", "bidimirroringglyph", "bidipairedbracket",
   "bidipairedbrackettype", "blk", "block", "bmg", "bpb", "bpt", "canonicalcombiningclass",
   "casefolding", "ccc", "ce", "cf", "changeswhennfkccasefolded", "cjkaccountingnumeric",
   "cjkcompatibilityvariant", "cjkiicore", "cjkirggsource", "cjkirghsource", "cjkirgjsource",
   "cjkirgkpsource", "cjkirgksource", "cjkirgmsource", "cjkirgssource", "cjkirgtsource",
   "cjkirguksource", "cjkirgusource", "cjkirgvsource", "cjkothernumeric", "cjkprimarynumeric",
   "cjkrsunicode", "compex", "compositionexclusion", "cwkcf", "decompositionmapping",
   "decompositiontype", "dm", "dt", "ea", "eastasianwidth", "equideo",
   "equivalentunifiedideograph", "expandsonnfc", "expandsonnfd", "expandsonnfkc",
   "expandsonnfkd", "fcnfkc", "fcnfkcclosure", "fullcompositionexclusion", "gc", "gcb",
   "generalcategory", "graphemeclusterbreak", "hangulsyllabletype", "hst", "incb",
   "indicconjunctbreak", "indicpositionalcategory", "indicsyllabiccategory", "inpc", "insc",
   "isc", "ocomment", "jamoshortname", "jg", "joininggroup", "joiningtype", "jsn", "jt",
   "kaccountingnumeric", "kcompatibilityvariant", "kehcat", "kehdesc", "kehhg", "kehifao",
   "kehjsesh", "kehnomirror", "kehnorotate", "kiicore", "kirggsource", "kirghsource",
   "kirgjsource", "kirgkpsource", "kirgksource", "kirgmsource", "kirgssource", "kirgtsource",
   "kirguksource", "kirgusource", "kirgvsource", "kothernumeric", "kprimarynumeric",
   "krsunicode", "lb", "lc", "linebreak", "lowercasemapping", "na", "na1", "name", "namealias",
   "nfcqc", "nfcquickcheck", "nfdqc", "nfdquickcheck", "nfkccasefold", "nfkccf", "nfkcqc",
   "nfkcquickcheck", "nfkcscf", "nfkcsimplecasefold", "nfkdqc", "nfkdquickcheck", "nt",
   "numerictype", "numericvalue", "nv", "sb", "sc", "scf", "script", "scriptextensions", "scx",
   "sentencebreak", "sfc", "simplecasefolding", "simplelowercasemapping",
   "simpletitlecasemapping", "simpleuppercasemapping", "slc", "stc", "suc", "tc",
   "titlecasemapping", "uc", "unicode1name", "unicoderadicalstroke", "uppercasemapping",
   "urs", "verticalorientation", "vo", "wb", "wordbreak", "xonfc", "xonfd", "xonfkc", "xonfkd"]

/-- The binary property of a loose name. -/
def property? (name : String) : Option Property :=
  Property.all.find? fun p => name ∈ p.names

/-- The set of a category or script; a value that no character has is refused. -/
def valueOf (found : Option CharSet) (name : String) (missing : Fault) : Except Fault CharSet :=
  match found with
  | some s => .ok s
  | none => .error (if name ∈ emptyValues then .unknownValue else missing)

/-- The set of a binary property, general category or script. The names `cf`, `sc` and `lc` are
those of categories, although properties have them too. -/
def named (text : String) : Except Fault CharSet :=
  let name := looseName text
  match property? name with
  | some p => .ok p.members
  | none =>
    if name ∈ otherProperties && name ∉ ["cf", "sc", "lc"] then .error .unknownProperty
    else valueOf ((category? name).or ((script? name).map Script.members)) name .unknownProperty

/-- The version that the value of an age names, as in `3.0` or `V3_0`. -/
def version? (name : String) : Option (Nat × Nat) :=
  (Age.table.map Prod.fst).find? fun (major, minor) =>
    name = s!"{major}.{minor}" ∨ name = s!"v{major}{minor}"

/-- The set of the characters for which a property has a value. -/
def valued (property value : String) : Except Fault CharSet :=
  let name := looseName property
  let value := looseName value
  if name ∈ ["gc", "generalcategory"] then valueOf (category? value) value .unknownValue
  else if name ∈ ["sc", "script"] then
    valueOf ((script? value).map Script.members) value .unknownValue
  else if name ∈ ["scx", "scriptextensions"] then
    valueOf ((script? value).map Script.extended) value .unknownValue
  else if name = "age" then valueOf ((version? value).map Age.upTo) value .unknownValue
  else if name ∈ otherProperties || (property? name).isSome then .error .unknownValue
  else .error .unknownProperty

end DataGrammar.Unicode.Query
