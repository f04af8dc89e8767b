import RecordQuery.Text.SnakeCase
import RecordQuery.Text.WordLetter

/-!
# English plurals

A few words have a plural of their own and a few have none; for all others the ending decides, by the
first rule that fits.

The words and the rules are taken over from a library for plurals, for words in lower case alone. Its
singulars and its plurals by number are left out.
-/

namespace RecordQuery.Text

/-! ## Rules for endings -/

/-- One letter of an ending. -/
inductive LetterClass where
  | among (letters : List Char)
  | outside (letters : List Char)

/-- Letters that count as one another whatever their case. -/
def foldLetter (letter : Char) : Char :=
  if letter = '\u017f' then 's' else letter

def LetterClass.holds : LetterClass → Char → Bool
  | .among letters, letter => letters.contains (foldLetter letter)
  | .outside letters, letter => !letters.contains (foldLetter letter)

/-- What may stand before the spelling that a rule asks for: anything, nothing that belongs to the same
word, or nothing at all. -/
inductive Before where
  | anything
  | otherWord
  | nothing
deriving DecidableEq

/-- Whether the letters may stand before the spelling. A numeral that is no decimal digit belongs to no
word. -/
def Before.allows : Before → List Char → Bool
  | .anything, _ => true
  | .otherWord, letters => letters.getLast?.all isCountingNumeral
  | .nothing, letters => letters.isEmpty

/-- A rule for words that end in one of the kept spellings and then one of the dropped ones: the latter
gives way to the new ending. -/
structure PluralRule where
  kept : List (List LetterClass)
  dropped : List String
  ending : String
  before : Before := .anything

namespace PluralRule

/-- Whether the letters are spelled as the classes say. -/
def spells : List LetterClass → List Char → Bool
  | [], [] => true
  | first :: classes, letter :: letters => first.holds letter && spells classes letters
  | _, _ => false

/-- Whether a stem ends in the spelling, after what may stand before it. -/
def fits (rule : PluralRule) (stem : List Char) (spelling : List LetterClass) : Bool :=
  let start := stem.length - spelling.length
  spells spelling (stem.drop start) && rule.before.allows (stem.take start)

/-- What remains of a word without an ending. -/
def without? (word : List Char) (ending : String) : Option (List Char) :=
  let size := word.length - ending.length
  if ending.length ≤ word.length ∧ (word.drop size).map foldLetter = ending.toList then
    some (word.take size)
  else none

/-- The plural that a rule gives, if it fits. -/
def plural? (rule : PluralRule) (word : List Char) : Option (List Char) :=
  rule.dropped.findSome? fun ending =>
    (without? word ending).bind fun stem =>
      if rule.kept.any (rule.fits stem) then some (stem ++ rule.ending.toList) else none

end PluralRule

/-- A spelling of fixed letters. -/
def spelled (text : String) : List LetterClass :=
  text.toList.map fun letter => .among [letter]

/-- A letter of a set, before a spelling. -/
def among (letters : String) (rest : List LetterClass) : List LetterClass :=
  .among letters.toList :: rest

/-- A letter outside a set, before a spelling. -/
def outside (letters : String) (rest : List LetterClass) : List LetterClass :=
  .outside letters.toList :: rest

/-- Words with the given endings stay as they are. -/
def unchanged (kept : List (List LetterClass)) : PluralRule :=
  ⟨kept, [""], "", .anything⟩

def asciiLetters : List Char :=
  (List.range 128).map Char.ofNat

/-- The rules; the first that fits a word counts. -/
def pluralRules : List PluralRule :=
  [unchanged [spelled "sheep", spelled "pox", spelled "o" ++ among "iu" (spelled "s"),
      spelled "measles", spelled "fish", spelled "deer", outside "aeiou" (spelled "ese"),
      spelled "pok" ++ among "eé" (spelled "mon")],
    ⟨[[]], ["thou"], "you", .nothing⟩,
    ⟨[[]], ["man", "men"], "men", .anything⟩,
    unchanged [spelled "eaux"],
    ⟨[spelled "child"], ["ren", ""], "ren", .anything⟩,
    ⟨[spelled "pe"], ["rson", "ople"], "ople", .anything⟩,
    ⟨[spelled "titm", spelled "m", spelled "l"], ["ice", "ouse"], "ice", .otherWord⟩,
    ⟨["matr", "cod", "mur", "sil", "vert", "ind", "append"].map spelled, ["ix", "ex"], "ices",
      .anything⟩,
    ⟨["x", "ch", "ss", "sh", "zz"].map spelled, [""], "es", .anything⟩,
    ⟨[outside "ch" (among "ieo" (among "ln" []))], ["ey"], "ies", .anything⟩,
    ⟨[outside "aeiouy" [], spelled "qu"], ["y"], "ies", .anything⟩,
    ⟨["kni", "wi", "li"].map spelled, ["fe"], "ves", .anything⟩,
    ⟨["ar", "l", "ea", "eo", "oa", "hoo"].map spelled, ["f"], "ves", .anything⟩,
    ⟨[[]], ["sis"], "ses", .anything⟩,
    ⟨["apheli", "hyperbat", "periheli", "asyndet", "noumen", "phenomen", "criteri", "organ",
      "prolegomen", "hedr", "automat"].map spelled, ["a", "on"], "a", .anything⟩,
    ⟨["agend", "addend", "millenni", "dat", "extrem", "bacteri", "desiderat", "strat", "candelabr",
      "errat", "ov", "symposi", "curricul", "automat", "quor"].map spelled, ["a", "um"], "a",
      .anything⟩,
    ⟨["her", "at", "gr"].map spelled, ["o"], "oes", .anything⟩,
    ⟨["seraph", "cherub"].map spelled, ["im", ""], "im", .anything⟩,
    ⟨["alumn", "alg", "vertebr"].map spelled, ["a", "ae"], "ae", .anything⟩,
    ⟨["alumn", "syllab", "vir", "radi", "nucle", "fung", "cact", "stimul", "termin", "bacill", "foc",
      "uter", "loc", "strat"].map spelled, ["us", "i"], "i", .anything⟩,
    unchanged [outside "l" (spelled "ias"), among "aeiou" (spelled "las"), among "ejzr" (spelled "as"),
      among "iu" (spelled "am")],
    ⟨[spelled "e" ++ among "mn" (spelled "u")], ["s", ""], "s", .anything⟩,
    ⟨[spelled "alias", outside "aou" (spelled "us"), spelled "t" ++ among "lm" (spelled "as"),
      spelled "gas", spelled "ris"], [""], "es", .anything⟩,
    ⟨["ax", "test"].map spelled, ["is"], "es", .anything⟩,
    ⟨[[.outside asciiLetters]], [""], "", .anything⟩,
    ⟨[[]], ["s", ""], "s", .anything⟩]

/-! ## Words of their own -/

/-- Words with a plural of their own. -/
def irregularPlurals : List (String × String) :=
  [
    ("I", "we"), ("me", "us"), ("he", "they"), ("she", "they"), ("them", "them"),
    ("myself", "ourselves"), ("yourself", "yourselves"), ("itself", "themselves"),
    ("herself", "themselves"), ("himself", "themselves"), ("themself", "themselves"), ("is", "are"),
    ("was", "were"), ("has", "have"), ("this", "these"), ("that", "those"), ("my", "our"),
    ("its", "their"), ("his", "their"), ("her", "their"), ("echo", "echoes"), ("dingo", "dingoes"),
    ("volcano", "volcanoes"), ("tornado", "tornadoes"), ("torpedo", "torpedoes"),
    ("genus", "genera"), ("viscus", "viscera"), ("stigma", "stigmata"), ("stoma", "stomata"),
    ("dogma", "dogmata"), ("lemma", "lemmata"), ("schema", "schemata"), ("anathema", "anathemata"),
    ("ox", "oxen"), ("axe", "axes"), ("die", "dice"), ("yes", "yeses"), ("foot", "feet"),
    ("eave", "eaves"), ("goose", "geese"), ("tooth", "teeth"), ("quiz", "quizzes"),
    ("human", "humans"), ("proof", "proofs"), ("carve", "carves"), ("valve", "valves"),
    ("looey", "looies"), ("thief", "thieves"), ("groove", "grooves"), ("pickaxe", "pickaxes"),
    ("passerby", "passersby"), ("canvas", "canvases")
  ]

/-- Words that are their own plural. -/
def uncountableWords : List String :=
  [
    "adulthood", "advice", "agenda", "aid", "aircraft", "alcohol", "ammo", "analytics", "anime",
    "athletics", "audio", "bison", "blood", "bream", "buffalo", "butter", "carp", "cash", "chassis",
    "chess", "clothing", "cod", "commerce", "cooperation", "corps", "debris", "diabetes",
    "digestion", "elk", "energy", "equipment", "excretion", "expertise", "firmware", "flounder",
    "fun", "gallows", "garbage", "graffiti", "hardware", "headquarters", "health", "herpes",
    "highjinks", "homework", "housework", "information", "jeans", "justice", "kudos", "labour",
    "literature", "machinery", "mackerel", "mail", "media", "mews", "moose", "music", "mud",
    "manga", "news", "only", "personnel", "pike", "plankton", "pliers", "police", "pollution",
    "premises", "rain", "research", "rice", "salmon", "scissors", "series", "sewage", "shambles",
    "shrimp", "software", "staff", "swine", "tennis", "traffic", "transportation", "trout", "tuna",
    "wealth", "welfare", "whiting", "wildebeest", "wildlife", "you"
  ]

/-- The plural of a word in lower case. -/
def plural (word : String) : String :=
  if irregularPlurals.any fun entry => entry.2 == word then word
  else
    match irregularPlurals.lookup word with
    | some other => other
    | none =>
      if word.isEmpty || uncountableWords.contains word then word
      else
        ((pluralRules.findSome? fun rule => rule.plural? word.toList).map String.ofList).getD word

/-- The words of a name in snake case, the last one in the plural. -/
def pluralSnake (name : String) : String :=
  let words := splitAt '_' (snakeCase name)
  String.intercalate "_" (words.dropLast ++ (words.getLast?.map plural).toList)

end RecordQuery.Text
