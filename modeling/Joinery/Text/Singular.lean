import Joinery.Text.Words

/-! The singular of a plural noun in lower case.
Irregular nouns and nouns without a plural are listed; any other noun follows the first rule that fits
its end. -/
namespace Joinery
namespace Text

/-- What stands in front of the ending that a rule replaces. -/
inductive Stem where
  /-- These letters. -/
  | ending (letters : String)
  /-- These letters, at the start of a word. -/
  | start (letters : String)
  /-- A character other than the excluded ones, and these letters. -/
  | after (excluded letters : String)
deriving DecidableEq, Repr

def continuesWord (c : Char) : Bool :=
  isAlphanumeric c || c == '_'

def Stem.fits (s : Stem) (reversed : List Char) : Bool :=
  match s with
  | .ending letters => letters.toList.reverse.isPrefixOf reversed
  | .start letters =>
    letters.toList.reverse.isPrefixOf reversed
      && !((reversed.drop letters.length).head?.any continuesWord)
  | .after excluded letters =>
    letters.toList.reverse.isPrefixOf reversed
      && (reversed.drop letters.length).head?.any (fun c => !excluded.toList.contains c)

/-- A rule: after one of the stems, one of the endings becomes the singular ending. -/
structure SingularRule where
  stems : List Stem
  endings : List String
  singular : String
deriving Repr

/-- The word without an ending and with the singular one, if the ending is there after a stem. -/
def SingularRule.replace? (r : SingularRule) (word ending : String) : Option String :=
  let reversed := word.toList.reverse
  let last := ending.toList.reverse
  if last.isPrefixOf reversed then
    let rest := reversed.drop last.length
    if r.stems.any (·.fits rest) then some (String.ofList rest.reverse ++ r.singular) else none
  else none

def SingularRule.singularOf? (r : SingularRule) (word : String) : Option String :=
  r.endings.findSome? (r.replace? word)

def endings (letters : List String) : List Stem :=
  letters.map .ending

def anyStem : List Stem :=
  [.ending ""]

/-- The rules, the first that fits first. -/
def singularRules : List SingularRule := [
  ⟨endings ["sheep", "pox", "ois", "ous", "measles", "fish", "deer", "pokemon", "pokémon"],
    [""], ""⟩,
  ⟨[.after "aeiou" "ese"], [""], ""⟩,
  ⟨anyStem, ["men"], "man"⟩,
  ⟨endings ["eau"], ["x", ""], ""⟩,
  ⟨endings ["child"], ["ren"], ""⟩,
  ⟨endings ["pe"], ["rson", "ople"], "rson"⟩,
  ⟨endings ["matr", "append"], ["ices"], "ix"⟩,
  ⟨endings ["cod", "mur", "sil", "vert", "ind"], ["ices"], "ex"⟩,
  ⟨endings ["alumn", "alg", "vertebr"], ["ae"], "a"⟩,
  ⟨endings ["apheli", "hyperbat", "periheli", "asyndet", "noumen", "phenomen", "criteri", "organ",
    "prolegomen", "hedr", "automat"], ["a"], "on"⟩,
  ⟨endings ["agend", "addend", "millenni", "dat", "extrem", "bacteri", "desiderat", "strat",
    "candelabr", "errat", "ov", "symposi", "curricul", "quor"], ["a"], "um"⟩,
  ⟨endings ["alumn", "syllab", "vir", "radi", "nucle", "fung", "cact", "stimul", "termin", "bacill",
    "foc", "uter", "loc", "strat"], ["us", "i"], "us"⟩,
  ⟨endings ["test"], ["is", "es"], "is"⟩,
  ⟨endings ["movie", "twelve", "abuse", "emu", "enu"], ["s"], ""⟩,
  ⟨endings ["analy", "diagno", "parenthe", "progno", "synop", "the", "empha", "cri", "ne"],
    ["sis", "ses"], "sis"⟩,
  ⟨.after "aou" "us" :: endings ["x", "ch", "ss", "sh", "zz", "tto", "go", "cho", "alias", "tlas",
    "tmas", "gas", "hero", "ato", "gro", "aris", "eris", "iris", "oris", "uris"], ["es", ""], ""⟩,
  ⟨endings ["seraph", "cherub"], ["im"], ""⟩,
  ⟨[.start "titm", .start "m", .start "l"], ["ice"], "ouse"⟩,
  ⟨[.start "mon", .start "smil"], ["ies"], "ey"⟩,
  ⟨["l", "neckt", "crosst", "hogt", "aunt", "t", "coll", "faer", "food", "gen", "goon", "group",
    "hipp", "junk", "vegg", "porkp", "p", "charl", "calor", "cut"].map .start, ["ies"], "ie"⟩,
  ⟨endings ["dg", "ss", "ois", "lk", "ok", "wn", "mb", "th", "ch", "ec", "oal", "is", "ck", "ix",
    "sser", "ts", "wb"], ["ies"], "ie"⟩,
  ⟨anyStem, ["ies"], "y"⟩,
  ⟨endings ["ar", "wol", "al", "el", "ea", "eo", "oa", "oo"], ["ves"], "f"⟩,
  ⟨.start "li" :: endings ["wi", "kni", "afterli", "halfli", "highli", "lowli", "midli", "nonli",
    "nightli"], ["ves"], "fe"⟩,
  ⟨endings ["ss"], [""], ""⟩,
  ⟨anyStem, ["s"], ""⟩]

/-- Singular nouns with their plurals. Where two share a plural, the later one is its singular. -/
def irregularNouns : List (String × String) := [
  ("i", "we"), ("me", "us"), ("he", "they"), ("she", "they"), ("them", "them"),
  ("myself", "ourselves"), ("yourself", "yourselves"), ("itself", "themselves"),
  ("herself", "themselves"), ("himself", "themselves"), ("themself", "themselves"), ("is", "are"),
  ("was", "were"), ("has", "have"), ("this", "these"), ("that", "those"), ("my", "our"),
  ("its", "their"), ("his", "their"), ("her", "their"), ("echo", "echoes"), ("dingo", "dingoes"),
  ("volcano", "volcanoes"), ("tornado", "tornadoes"), ("torpedo", "torpedoes"), ("genus", "genera"),
  ("viscus", "viscera"), ("stigma", "stigmata"), ("stoma", "stomata"), ("dogma", "dogmata"),
  ("lemma", "lemmata"), ("schema", "schemata"), ("anathema", "anathemata"), ("ox", "oxen"),
  ("axe", "axes"), ("die", "dice"), ("yes", "yeses"), ("foot", "feet"), ("eave", "eaves"),
  ("goose", "geese"), ("tooth", "teeth"), ("quiz", "quizzes"), ("human", "humans"),
  ("proof", "proofs"), ("carve", "carves"), ("valve", "valves"), ("looey", "looies"),
  ("thief", "thieves"), ("groove", "grooves"), ("pickaxe", "pickaxes"), ("passerby", "passersby"),
  ("canvas", "canvases")]

def uncountableNouns : List String := [
  "adulthood", "advice", "agenda", "aid", "aircraft", "alcohol", "ammo", "analytics", "anime",
  "athletics", "audio", "bison", "blood", "bream", "buffalo", "butter", "carp", "cash", "chassis",
  "chess", "clothing", "cod", "commerce", "cooperation", "corps", "debris", "diabetes", "digestion",
  "elk", "energy", "equipment", "excretion", "expertise", "firmware", "flounder", "fun", "gallows",
  "garbage", "graffiti", "hardware", "headquarters", "health", "herpes", "highjinks", "homework",
  "housework", "information", "jeans", "justice", "kudos", "labour", "literature", "machinery",
  "mackerel", "mail", "media", "mews", "moose", "music", "mud", "manga", "news", "only",
  "personnel", "pike", "plankton", "pliers", "police", "pollution", "premises", "rain", "research",
  "rice", "salmon", "scissors", "series", "sewage", "shambles", "shrimp", "software", "staff",
  "swine", "tennis", "traffic", "transportation", "trout", "tuna", "wealth", "welfare", "whiting",
  "wildebeest", "wildlife", "you"]

/-- The singular of a word. A word that is an irregular singular already stays as it is. -/
def singular (word : String) : String :=
  if irregularNouns.any (fun p => p.1 == word) then word
  else
    match irregularNouns.reverse.find? (fun p => p.2 == word) with
    | some p => p.1
    | none =>
      if word.isEmpty || uncountableNouns.contains word then word
      else (singularRules.findSome? (·.singularOf? word)).getD word

end Text
end Joinery
